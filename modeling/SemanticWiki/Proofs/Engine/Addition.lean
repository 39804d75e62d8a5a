import SemanticWiki.Engine
import SemanticWiki.Proofs.Ontology.Revision
import SemanticWiki.Proofs.Ontology.SentenceStore

/-! What the operations of a wiki do to its state, whatever its reasoner does. The operations on words
edit the ontology. An addition makes attempts, and each attempt ends in one of five ways. -/

namespace SemanticWiki

open Ontology

variable {σ : Type} {w w' : World σ}

structure World.Edited (w w' : World σ) : Prop where
  change : Change w.ontology w'.ontology
  sentences : w'.ontology.sentences ⊆ w.ontology.sentences
  others : w' = { w with ontology := w'.ontology }

namespace Engine

theorem createElement_edited (w : World σ) (tag : String) : w.Edited (createElement w tag).2 := by
  unfold createElement
  split
  · exact ⟨.none, List.Subset.refl _, rfl⟩
  · rename_i kind _
    exact ⟨allocate_change _ kind, List.Subset.refl _, rfl⟩

theorem save_ontology (kind : Kind) (o : Ontology) (e : Element) (wordNumber : Nat)
    (values : List Value) :
    (Lexicon.save kind o e wordNumber values).ontology = o ∨
      ∃ normal, (Lexicon.save kind o e wordNumber values).ontology =
        (o.commit e.id kind normal).2 := by
  unfold Lexicon.save
  split
  · exact .inl rfl
  · split
    · exact .inl rfl
    · split
      · exact .inl rfl
      · rename_i normal _
        refine .inr ⟨normal, ?_⟩
        split <;> simp [*]

theorem saveWords_edited (kind : Kind) (w : World σ) (e : Element) (wordNumber : Nat)
    (values : List Value) : w.Edited (saveWords kind w e wordNumber values).2.2 := by
  unfold saveWords
  dsimp only
  rcases save_ontology kind w.ontology e wordNumber values with hsame | ⟨normal, hcommit⟩
  · rw [hsame]
    exact ⟨.none, List.Subset.refl _, rfl⟩
  · rw [hcommit]
    refine ⟨commit_change _ _ _ _, ?_, rfl⟩
    dsimp only
    rw [sentences_commit]
    exact List.Subset.refl _

theorem removeElement_edited (w : World σ) (id : ElementId) :
    w.Edited (removeElement w id).2 := by
  refine ⟨removeElement_change _ _, ?_, rfl⟩
  unfold removeElement
  dsimp only
  rw [sentences_removeElement]
  exact List.Subset.refl _

theorem retractSentence_edited (w : World σ) (id : SentenceId) :
    w.Edited (retractSentence w id).2 :=
  ⟨retractSentence_change _ _, sentences_retractSentence _ _, rfl⟩

theorem withHandler_world {α : Type} (e : Engine σ) (w : World σ) (code : String)
    (work : Handler → Ontology → α × Handler) :
    ∃ handlers, (e.withHandler w code work).2 = { w with handlers } := by
  unfold withHandler
  cases e.handler w code with
  | error error => exact ⟨w.handlers, rfl⟩
  | ok h => exact ⟨putHandler (work h w.ontology).2 w.handlers, rfl⟩

theorem ontology_withHandler {α : Type} (e : Engine σ) (w : World σ) (code : String)
    (work : Handler → Ontology → α × Handler) :
    (e.withHandler w code work).2.ontology = w.ontology := by
  obtain ⟨handlers, hworld⟩ := e.withHandler_world w code work
  rw [hworld]

theorem describe_world (e : Engine σ) (w : World σ) (s : Sentence) :
    ∃ handlers, (e.describe w s).2 = { w with handlers } := by
  have htranslated : (e.describe w s).2 = (e.translate w s s.language).2 := by
    unfold describe
    split <;> rename_i htranslated <;> rw [htranslated]
  rw [htranslated]
  exact e.withHandler_world w s.language fun h o => h.render o s

theorem describe_error_iff {e : Engine σ} {w : World σ} {s : Sentence} {panic : GrammarError} :
    (e.describe w s).1 = .error panic ↔
      panic.isPanic = true ∧ (e.translate w s s.language).1 = .error panic := by
  unfold describe
  generalize e.translate w s s.language = translated
  obtain ⟨result, v⟩ := translated
  cases result with
  | ok text => simp
  | error error =>
    by_cases herror : error.isPanic = true
    · simp only [herror, if_true, Except.error.injEq]
      exact ⟨fun h => ⟨h ▸ herror, h⟩, And.right⟩
    · simp only [herror, if_false, reduceCtorEq, Except.error.injEq, false_iff]
      rintro ⟨hpanic, rfl⟩
      exact herror hpanic

theorem refusal_eq_grammar_iff {described : Except GrammarError String} {error : GrammarError} :
    refusal described = .grammar error ↔ described = .error error := by
  cases described <;> simp [refusal]

theorem refusal_ne_conflict (described : Except GrammarError String) (tries : Nat) :
    refusal described ≠ .engine (.conflict tries) := by
  cases described <;> simp [refusal]

inductive Unchecked (w : World σ) (s : Sentence) :
    Except WikiError SentenceId × World σ → Prop
  | misfit (error : GrammarError) (hinvalid : w.ontology.validate s = .error error) :
      Unchecked w s (.error (.grammar error), w)
  | committed (construct : Construct) (hvalid : w.ontology.validate s = .ok construct) :
      Unchecked w s
        (.ok w.ontology.nextSentence, { w with ontology := w.ontology.withSentence s })

theorem commitUnchecked_unchecked (w : World σ) (s : Sentence) :
    Unchecked w s (commitUnchecked w s) := by
  unfold commitUnchecked
  have hends := w.ontology.addSentenceIf_addition s none
  generalize w.ontology.addSentenceIf s none = result at hends
  cases hends with
  | stale revision hexpected hmoved => cases hexpected
  | misfit error hcurrent hinvalid => exact .misfit error hinvalid
  | added construct hcurrent hvalid => exact .committed construct hvalid

theorem memory_commitUnchecked (w : World σ) (s : Sentence) :
    (commitUnchecked w s).2.memory = w.memory := by
  have hends := commitUnchecked_unchecked w s
  generalize commitUnchecked w s = result at hends ⊢
  cases hends with
  | misfit error hinvalid => rfl
  | committed construct hvalid => rfl

def approval (w : World σ) (s : Sentence) : Query :=
  .consistency (w.ontology.axioms.extend s.statement.toAxiom)

theorem axioms_of_approval {s : Sentence} (hprecedes : w.ontology.Precedes w'.ontology)
    (hcurrent : w'.ontology.revision = w.ontology.revision) (hnumbered : w'.ontology.Numbered)
    (hroom : w'.ontology.nextSentence.val + 1 < UInt64.size) (hstated : s.question = false) :
    (approval w s).axioms.axioms = (w'.ontology.withSentence s).axioms.axioms := by
  obtain ⟨allocator, hsame⟩ := hprecedes.eq_of_revision_eq hcurrent
  rw [axioms_withSentence hnumbered hroom hstated, hsame]
  rfl

/-- How an attempt to add a sentence ends, once the reasoner has answered and left the wiki as
`w'`. -/
inductive Attempt (e : Engine σ) (s : Sentence) (attempts : Nat) (w w' : World σ) :
    Except ReasonError Bool → Except WikiError SentenceId × World σ → Prop
  | unanswered (error : ReasonError) :
      Attempt e s attempts w w' (.error error) (commitUnchecked (w'.recordError error) s)
  | refuted (handlers : List Handler) :
      Attempt e s attempts w w' (.ok false)
        (.error (refusal (e.describe w' s).1), { w' with handlers })
  | misfit (error : GrammarError) (hcurrent : w'.ontology.revision = w.ontology.revision)
      (hinvalid : w'.ontology.validate s = .error error) :
      Attempt e s attempts w w' (.ok true) (.error (.grammar error), w')
  | committed (construct : Construct) (hcurrent : w'.ontology.revision = w.ontology.revision)
      (hvalid : w'.ontology.validate s = .ok construct) :
      Attempt e s attempts w w' (.ok true)
        (.ok w'.ontology.nextSentence,
          { w' with ontology := w'.ontology.withSentence s }.markSynced
            (w'.ontology.revision + 1))
  | moved (hmoved : w'.ontology.revision ≠ w.ontology.revision) :
      Attempt e s attempts w w' (.ok true) (e.attempt s attempts w')

theorem attempt_succ (e : Engine σ) (s : Sentence) (attempts : Nat) (w : World σ) :
    Attempt e s attempts w (e.reasoner.consult (approval w s) w).2
      (e.reasoner.consult (approval w s) w).1 (e.attempt s (attempts + 1) w) := by
  unfold attempt approval
  dsimp only
  generalize e.reasoner.consult _ w = answered
  obtain ⟨answer, w'⟩ := answered
  dsimp only
  split
  · rename_i h
    cases h
    exact .unanswered _
  · rename_i h
    cases h
    obtain ⟨handlers, hworld⟩ := e.describe_world w' s
    rw [hworld]
    exact .refuted handlers
  · rename_i h
    cases h
    have hends := w'.ontology.addSentenceIf_addition s (some w.ontology.axioms.revision)
    generalize w'.ontology.addSentenceIf s (some w.ontology.axioms.revision) = result at hends
    cases hends with
    | stale revision hexpected hmoved =>
      obtain rfl := Option.some.inj hexpected
      exact .moved fun hsame => hmoved hsame.symm
    | misfit error hcurrent hinvalid => exact .misfit error (hcurrent _ rfl).symm hinvalid
    | added construct hcurrent hvalid => exact .committed construct (hcurrent _ rfl).symm hvalid

theorem addSentence_cases (e : Engine σ) (w : World σ) (s : Sentence) :
    (∃ error, e.addSentence w s = (.error error, w)) ∨
      (s.question = false ∧ e.config.checkOnAdd = true ∧
        e.addSentence w s = e.attempt s e.config.maxCommitRetries w) ∨
      (e.config.checkOnAdd = false ∧ e.addSentence w s = commitUnchecked w s) := by
  unfold addSentence
  by_cases hquestion : s.question
  · rw [if_pos hquestion]
    exact .inl ⟨_, rfl⟩
  · rw [if_neg hquestion]
    cases w.ontology.validate s with
    | error error => exact .inl ⟨_, rfl⟩
    | ok construct =>
      by_cases hcheck : e.config.checkOnAdd = true
      · exact .inr (.inl ⟨by simpa using hquestion, hcheck, if_pos hcheck⟩)
      · exact .inr (.inr ⟨by simpa using hcheck, if_neg hcheck⟩)

theorem addSentence_checked (e : Engine σ) (hcheck : e.config.checkOnAdd = true) (w : World σ)
    (s : Sentence) :
    (∃ error, e.addSentence w s = (.error error, w)) ∨
      s.question = false ∧ e.addSentence w s = e.attempt s e.config.maxCommitRetries w := by
  obtain hrefused | ⟨hstated, -, hattempts⟩ | ⟨hunchecked, -⟩ := e.addSentence_cases w s
  · exact .inl hrefused
  · exact .inr ⟨hstated, hattempts⟩
  · cases hcheck.symm.trans hunchecked

theorem addSentence_unchecked {e : Engine σ} {s : Sentence} {id : SentenceId}
    (hcheck : e.config.checkOnAdd = false) (hadded : (e.addSentence w s).1 = .ok id) :
    (e.addSentence w s).2 = { w with ontology := w.ontology.withSentence s } := by
  obtain ⟨error, hresult⟩ | ⟨-, hchecked, -⟩ | ⟨-, hresult⟩ := e.addSentence_cases w s
  · rw [hresult] at hadded
    cases hadded
  · cases hcheck.symm.trans hchecked
  · rw [hresult] at hadded ⊢
    have hends := commitUnchecked_unchecked w s
    generalize commitUnchecked w s = outcome at hends hadded ⊢
    cases hends with
    | misfit error hinvalid => cases hadded
    | committed construct hvalid => rfl

/-! A sentence that is refused because it does not fit does not fit what the addition leaves. -/

section Misfit

variable {e : Engine σ} {s : Sentence} {fault : GrammarError}

theorem validate_of_commitUnchecked (h : (commitUnchecked w s).1 = .error (.grammar fault)) :
    (commitUnchecked w s).2.ontology.validate s = .error fault := by
  have hends := commitUnchecked_unchecked w s
  generalize commitUnchecked w s = outcome at h hends ⊢
  cases hends with
  | misfit error hinvalid =>
    cases h
    exact hinvalid
  | committed construct hvalid => cases h

theorem validate_of_attempt {n : Nat} (hfault : fault.isPanic = false)
    (h : (e.attempt s n w).1 = .error (.grammar fault)) :
    (e.attempt s n w).2.ontology.validate s = .error fault := by
  induction n generalizing w with
  | zero => cases h
  | succ n ih =>
    have hends := e.attempt_succ s n w
    generalize e.attempt s (n + 1) w = outcome at h hends ⊢
    generalize (e.reasoner.consult (approval w s) w).1 = answer at hends
    cases hends with
    | unanswered error => exact validate_of_commitUnchecked h
    | refuted handlers =>
      have hdescribed := refusal_eq_grammar_iff.1 (Except.error.inj h)
      rw [(describe_error_iff.1 hdescribed).1] at hfault
      cases hfault
    | misfit error hcurrent hinvalid =>
      cases h
      exact hinvalid
    | committed construct hcurrent hvalid => cases h
    | moved hmoved => exact ih h

theorem validate_of_addSentence (hfault : fault.isPanic = false)
    (h : (e.addSentence w s).1 = .error (.grammar fault)) :
    (e.addSentence w s).2.ontology.validate s = .error fault := by
  unfold addSentence at h ⊢
  split at h
  · cases h
  · rename_i hstated
    rw [if_neg hstated]
    cases hvalid : w.ontology.validate s with
    | error error =>
      rw [hvalid] at h
      cases h
      exact hvalid
    | ok construct =>
      rw [hvalid] at h
      dsimp only at h ⊢
      split at h
      · rename_i hcheck
        rw [if_pos hcheck]
        exact validate_of_attempt hfault h
      · rename_i hcheck
        rw [if_neg hcheck]
        exact validate_of_commitUnchecked h

end Misfit

/-! What each step of an operation keeps is kept by the operation, if consultations keep it too. -/

/-- A property that stored sentences, sentences put into words and news of the reasoner do not end. -/
structure Stable (registry : Registry) (p : World σ → Prop) : Prop where
  added : ∀ {w : World σ} (s : Sentence) (expected : Option Nat), p w →
    p { w with ontology := (w.ontology.addSentenceIf s expected).2 }
  worded : ∀ {w : World σ} (e : Engine σ) (s : Sentence) (code : String), e.registry = registry →
    p w → p (e.translate w s code).2
  noted : ∀ {w : World σ} (synced : Option Nat) (lastError : Option ReasonError), p w →
    p { w with synced, lastError }

namespace Stable

variable {registry : Registry} {p : World σ → Prop}

theorem commitUnchecked (h : Stable registry p) (hw : p w) (s : Sentence) :
    p (commitUnchecked w s).2 := by
  have hadded := h.added s none hw
  unfold Engine.commitUnchecked
  split <;> simp_all

variable {e : Engine σ} (h : Stable e.registry p)
include h

theorem describe (hw : p w) (s : Sentence) : p (e.describe w s).2 := by
  have htranslated := h.worded e s s.language rfl hw
  unfold Engine.describe
  generalize e.translate w s s.language = translated at htranslated ⊢
  obtain ⟨result, w'⟩ := translated
  cases result <;> exact htranslated

variable (hconsult : ∀ query v, p v → p (e.reasoner.consult query v).2)
include hconsult

theorem attempt (s : Sentence) (n : Nat) (hw : p w) : p (e.attempt s n w).2 := by
  induction n generalizing w with
  | zero => exact hw
  | succ n ih =>
    have hanswered := hconsult (approval w s) w hw
    unfold approval at hanswered
    unfold Engine.attempt
    dsimp only
    generalize e.reasoner.consult _ w = answered at hanswered
    obtain ⟨answer, w'⟩ := answered
    cases answer with
    | error error => exact h.commitUnchecked (h.noted w'.synced (some error) hanswered) s
    | ok verdict =>
      cases verdict with
      | false => exact h.describe hanswered s
      | true =>
        have hadded := h.added s (some w.ontology.axioms.revision) hanswered
        dsimp only
        generalize w'.ontology.addSentenceIf s (some w.ontology.axioms.revision) = result at hadded
        split
        · exact hadded
        · exact h.noted _ none hadded
        · exact ih hadded

theorem addSentence (s : Sentence) (hw : p w) : p (e.addSentence w s).2 := by
  obtain ⟨error, hresult⟩ | ⟨-, -, hresult⟩ | ⟨-, hresult⟩ := e.addSentence_cases w s
  · rw [hresult]
    exact hw
  · rw [hresult]
    exact h.attempt hconsult s _ hw
  · rw [hresult]
    exact h.commitUnchecked hw s

theorem checkConsistency (hw : p w) : p (e.checkConsistency w).2 := by
  have hanswered := hconsult (.consistency w.ontology.axioms) w hw
  unfold Engine.checkConsistency
  dsimp only
  split <;> rename_i hconsulted <;> rw [hconsulted] at hanswered <;> exact h.noted _ _ hanswered

theorem answer (s : Sentence) (hw : p w) : p (e.answer w s).2 := by
  have hanswered := hconsult (.entailment w.ontology.axioms s.statement.toAxiom) w hw
  unfold Engine.answer
  split
  · exact hw
  · split
    · exact hw
    · dsimp only
      split <;> rename_i hconsulted <;> rw [hconsulted] at hanswered <;> exact h.noted _ _ hanswered

end Stable

end Engine

end SemanticWiki
