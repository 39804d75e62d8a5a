import SemanticWiki.Proofs.Engine.Course
import SemanticWiki.Proofs.Engine.Handlers
import SemanticWiki.Proofs.Grammar.Panic
import SemanticWiki.Proofs.Grammar.Verdict

/-! Sentences that a wiki has read. The built-in languages read only what makes sense by the words that
they know, and a wiki reads by the words that it has. So a sentence that has been read is accepted by
every check of its elements until the ontology moves on. -/

namespace SemanticWiki.Engine

open Ontology

variable {e : Engine (List Consultation)} {w w' v : RecordedWorld} {s : Sentence}

theorem Course.staffed (hcourse : e.Course w w') (h : w.Staffed e.registry) :
    w'.Staffed e.registry := by
  refine hcourse.induction (r := fun w w' => w.Staffed e.registry → w'.Staffed e.registry)
    (fun _ => id) (fun h h' => h' ∘ h) (fun c action w hmeanwhile h => ?_) h
  exact (stable_staffed e.registry).act (e := e.inCircumstances c)
    (fun w o hchange h => h.of_precedes rfl hchange.precedes)
    (fun w code text h => staffed_parse h code text) hmeanwhile h action

theorem validate_of_parse (hbuiltin : ∀ g ∈ e.registry.languages, g.IsBuiltin)
    (hindexed : Indexed w.ontology) (hstaffed : w.Staffed e.registry) {code text : String}
    (h : (e.parse w code text).1 = .ok s) : ∃ construct, w.ontology.validate s = .ok construct := by
  obtain ⟨g, hg, -, hread⟩ := parse_ok hstaffed h
  obtain ⟨b, hb, rfl⟩ := hbuiltin g hg
  obtain ⟨reading, hparse, rfl⟩ := ConcreteGrammar.parseNow_ok hread
  let index := LexIndex.build b w.ontology.revision w.ontology.elements
  have hreadings : b.readings index (Grammar.tokenize text) = [reading] :=
    Language.readings_of_parse hparse
  have hmem : reading ∈ b.readings index (Grammar.tokenize text) :=
    hreadings ▸ List.mem_singleton_self reading
  obtain ⟨r, hr, hmem⟩ := Language.exists_rule_of_mem_readings hmem
  have hkinded := LexIndex.kinded_build hindexed.ascending.nodup_ids b w.ontology.revision
  have hconstruct : reading.1.construct index.kindOf = .ok r.construct :=
    (Language.construct_of_readingsOfRule hb.typed hkinded hr hmem).2
  rw [LexIndex.kindOf_build hindexed.ascending] at hconstruct
  exact ⟨r.construct, hconstruct⟩

section Steady

variable {σ : Type} {e : Engine σ} {w : World σ} (hsteady : ∀ g ∈ e.registry.languages, g.Steady)
include hsteady

theorem answers_translate (hstaffed : w.Staffed e.registry) (s : Sentence) (code : String) :
    Answers (e.translate w s code).1 := by
  cases hhandler : e.handler w code with
  | error error =>
    unfold translate withHandler
    rw [hhandler]
    exact answers_error (answers_handler error hhandler)
  | ok h =>
    rw [translate_eq hstaffed hhandler]
    exact hsteady _ (handler_fresh hstaffed hhandler).1 _ _ _

theorem not_isPanic_of_attempt (hconsult : ∀ query v, v.Staffed e.registry →
      (e.reasoner.consult query v).2.Staffed e.registry) (hstaffed : w.Staffed e.registry) {n : Nat}
    {fault : GrammarError} (h : (e.attempt s n w).1 = .error (.grammar fault)) :
    fault.isPanic = false := by
  induction n generalizing w with
  | zero => cases h
  | succ n ih =>
    have hanswered := hconsult (approval w s) w hstaffed
    have hends := e.attempt_succ s n w
    generalize e.attempt s (n + 1) w = outcome at h hends
    generalize e.reasoner.consult (approval w s) w = answered at hanswered hends
    obtain ⟨answer, w'⟩ := answered
    dsimp only at hends
    cases hends with
    | unanswered error => exact answers_validate _ s fault (validate_of_commitUnchecked h)
    | refuted handlers =>
      have hdescribed := refusal_eq_grammar_iff.1 (Except.error.inj h)
      exact answers_translate hsteady hanswered s _ fault (describe_error_iff.1 hdescribed).2
    | misfit error hcurrent hinvalid =>
      cases h
      exact answers_validate _ s fault hinvalid
    | committed construct hcurrent hvalid => cases h
    | moved hmoved => exact ih hanswered h

theorem not_isPanic_of_addSentence (hconsult : ∀ query v, v.Staffed e.registry →
      (e.reasoner.consult query v).2.Staffed e.registry) (hstaffed : w.Staffed e.registry)
    {fault : GrammarError} (h : (e.addSentence w s).1 = .error (.grammar fault)) :
    fault.isPanic = false := by
  unfold addSentence at h
  split at h
  · cases h
  · split at h
    · rename_i hinvalid
      cases h
      exact answers_validate _ s fault hinvalid
    · split at h
      · exact not_isPanic_of_attempt hsteady hconsult hstaffed h
      · exact answers_validate _ s fault (validate_of_commitUnchecked h)

end Steady

section Meanwhile

variable {attempts : Nat} {answer : Query → RecordedWorld → Except ReasonError Bool}
  {meanwhile : Query → RecordedWorld → RecordedWorld}

theorem answer_ne_misfit (hvalid : ∃ construct, v.ontology.validate s = .ok construct)
    (fault : GrammarError) :
    ((e.among attempts answer meanwhile).answer v s).1 ≠ .error (.grammar fault) := by
  obtain ⟨construct, hvalid⟩ := hvalid
  unfold Engine.answer
  split
  · simp
  · rw [hvalid]
    dsimp only
    split <;> simp

/-- A sentence that makes sense is refused as one that does not only if the ontology moves while the
reasoner is busy. -/
theorem moved_of_addSentence_misfit (hvalid : ∃ construct, v.ontology.validate s = .ok construct)
    (hmeanwhile : ∀ query u, e.Course u (meanwhile query u)) {fault : GrammarError}
    (hfault : fault.isPanic = false)
    (h : ((e.among attempts answer meanwhile).addSentence v s).1 = .error (.grammar fault)) :
    ((e.among attempts answer meanwhile).addSentence v s).2.ontology.revision ≠
      v.ontology.revision := by
  intro hsame
  have hprecedes : v.ontology.Precedes
      ((e.among attempts answer meanwhile).addSentence v s).2.ontology :=
    (upshot_addSentence (fun query u => (hmeanwhile query u).passage) s v).passage.precedes
  obtain ⟨construct, hvalid⟩ := hvalid
  rw [← hprecedes.validate_eq hsame, validate_of_addSentence hfault h] at hvalid
  cases hvalid

end Meanwhile

/-- What a wiki has read fits the ontology as long as that is at its revision: it can be asked, and it can
be added unless the ontology moves while the reasoner is busy. -/
theorem parsed_sentences_fit :
    (∀ g : Language, g.IsBuiltin → ∀ (elements : List Element) (revision : Nat),
      (elements.map (·.id)).Nodup → ∀ text,
      let index := LexIndex.build g revision elements
      let readings := g.readings index (Grammar.tokenize text)
      (∀ reading ∈ readings, ∃ r ∈ g.rules,
        reading ∈ g.readingsOfRule index (Grammar.tokenize text) r) ∧
      (∀ r ∈ g.rules, ∀ reading ∈ g.readingsOfRule index (Grammar.tokenize text) r,
        reading.2 = r.question ∧ reading.1.construct index.kindOf = .ok r.construct ∧
        reading.1.Fits index.kindOf ∧ ∀ id ∈ reading.1.elements, ∃ e ∈ elements, e.id = id) ∧
      (∀ reading, g.parse index text = .ok reading → readings = [reading]) ∧
      ∀ input code n, g.parse index text = .error (.ambiguousParse input code n) →
        n = readings.length) ∧
    ∀ e : Engine (List Consultation), (∀ g ∈ e.registry.languages, g.IsBuiltin) →
      ∀ name baseIri operations w,
      e.Course (e.start ((Ontology.new name baseIri).run operations) []) w →
      ∀ code text s, (e.parse w code text).1 = .ok s →
      ∀ v, e.Course (e.parse w code text).2 v → v.ontology.revision = w.ontology.revision →
        (∃ construct, v.ontology.validate s = .ok construct) ∧
        ∀ attempts answer meanwhile, (∀ query u, e.Course u (meanwhile query u)) →
          let engine := e.among attempts answer meanwhile
          (∀ fault, (engine.answer v s).1 ≠ .error (.grammar fault)) ∧
          ∀ fault, (engine.addSentence v s).1 = .error (.grammar fault) →
            (engine.addSentence v s).2.ontology.revision ≠ v.ontology.revision := by
  constructor
  · intro g hg elements revision hdistinct text index readings
    refine ⟨fun reading => Language.exists_rule_of_mem_readings, ?_,
      fun reading => Language.readings_of_parse, fun input code n => Language.length_of_ambiguous⟩
    intro r hr reading hreading
    have hkinded : index.Kinded := LexIndex.kinded_build hdistinct g revision
    obtain ⟨hquestion, hconstruct⟩ :=
      Language.construct_of_readingsOfRule hg.typed hkinded hr hreading
    have hfits : reading.1.Fits index.kindOf := Statement.construct_ok_iff.1 ⟨_, hconstruct⟩
    refine ⟨hquestion, hconstruct, hfits, fun id hid => ?_⟩
    obtain ⟨kind, hkind⟩ := hfits.exists_kind hid
    obtain ⟨e, he, hid, -⟩ := LexIndex.exists_of_kindOf_build hkind
    exact ⟨e, he, hid⟩
  · intro e hbuiltin name baseIri operations w hcourse code text s hparse v hlater hrevision
    have hstaffed : w.Staffed e.registry := hcourse.staffed (e.staffed_start _ [])
    have hindexed : Indexed w.ontology := by
      have hrun : Indexed ((Ontology.new name baseIri).run operations) :=
        run_induction (fun _ _ hchange => hchange.indexed) (indexed_new name baseIri) operations
      exact hcourse.passage.ontology_induction (fun _ _ hchange => hchange.indexed) hrun
    have hsame : (e.parse w code text).2.ontology = w.ontology :=
      e.ontology_withHandler w code fun h o => h.parse o text
    have hvalid : ∃ construct, v.ontology.validate s = .ok construct := by
      have hprecedes := hlater.passage.precedes
      rw [hsame] at hprecedes
      rw [hprecedes.validate_eq hrevision]
      exact validate_of_parse hbuiltin hindexed hstaffed hparse
    have hsteady : ∀ g ∈ e.registry.languages, g.Steady := fun g hg => (hbuiltin g hg).steady
    have hstaffed' : v.Staffed e.registry := hlater.staffed (staffed_parse hstaffed code text)
    refine ⟨hvalid, fun attempts answer meanwhile hmeanwhile => ⟨?_, ?_⟩⟩
    · exact answer_ne_misfit hvalid
    · intro fault hrefused
      exact moved_of_addSentence_misfit hvalid hmeanwhile
        (not_isPanic_of_addSentence (e := e.among attempts answer meanwhile) hsteady
          (fun query u hu => (hmeanwhile query u).staffed hu) hstaffed' hrefused) hrefused

theorem every_bird_is_a_being_fits :
    let start := approving.start ((Ontology.new "wiki" "http://example.org/").run birdAndBeing) []
    let parsed := approving.parse start "en" "Every bird is a being."
    parsed.1 = .ok everyBirdIsABeing ∧
      (∃ construct, parsed.2.ontology.validate everyBirdIsABeing = .ok construct) ∧
      (∀ reply fault, ((approving.among 3 reply nothingMeanwhile).answer parsed.2
        everyBirdIsABeing).1 ≠ .error (.grammar fault)) ∧
      ∃ r ∈ Language.english.rules, (Statement.subsumption bird being).construct
        (LexIndex.build .english 0 start.ontology.elements).kindOf = .ok r.construct := by
  intro start parsed
  have hparse : parsed.1 = .ok everyBirdIsABeing := by decide +kernel
  have hbuiltin : ∀ g ∈ approving.registry.languages, g.IsBuiltin :=
    fun _ => Registry.isBuiltin_of_mem
  obtain ⟨hread, hengine⟩ := parsed_sentences_fit
  obtain ⟨hvalid, hasked⟩ := hengine approving hbuiltin _ _ birdAndBeing start (.refl _) "en" _ _
    hparse parsed.2 (.refl _) rfl
  refine ⟨hparse, hvalid, ?_, ?_⟩
  · intro reply fault
    exact (hasked 3 reply nothingMeanwhile fun _ u => .refl u).1 fault
  · obtain ⟨hrules, hfits, -, -⟩ := hread .english (Language.isBuiltin_of_mem (by decide)) start.ontology.elements 0
      (by decide +kernel) "Every bird is a being."
    obtain ⟨r, hr, hreading⟩ := hrules (.subsumption bird being, false) (by decide +kernel)
    exact ⟨r, hr, (hfits r hr _ hreading).2.1⟩

end SemanticWiki.Engine
