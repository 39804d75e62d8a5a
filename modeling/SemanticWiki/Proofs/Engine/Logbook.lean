import SemanticWiki.Proofs.Engine.LastError
import SemanticWiki.Proofs.Ontology.Logbook

/-! The log of a wiki. Its callers are told under which number a sentence has been stored, and which
sentence has been retracted. Whoever writes down what they are told has all sentences of the wiki, in
order: nothing else that is done to the wiki concerns them, and no attempt stores a sentence that its
caller is not told about. -/

namespace SemanticWiki.Engine

open Ontology

variable {σ : Type}

def Action.onWords : Action → Bool
  | .perform (.allocate _) | .perform (.commit _ _ _) | .perform (.removeElement _) => true
  | .createElement _ | .saveWords _ _ _ _ | .removeElement _ => true
  | _ => false

def news? (e : Engine σ) (w : World σ) : Action → Option Entry
  | .perform (.addSentenceIf s expected) =>
    match (w.ontology.addSentenceIf s expected).1 with
    | .ok (.committed id _) => some (.stored id s)
    | _ => none
  | .perform (.retractSentence id) =>
    (w.ontology.retractSentence id).1.toOption.map (.retracted id)
  | .retractSentence id => (retractSentence w id).1.toOption.map (.retracted id)
  | .addSentence s => (e.addSentence w s).1.toOption.map (.stored · s)
  | _ => none

def actLogged (e : Engine (σ × Logbook)) (w : World (σ × Logbook)) (action : Action) :
    World (σ × Logbook) :=
  let after := e.act w action
  { after with memory := (after.memory.1, after.memory.2 ++ (e.news? w action).toList) }

def Regime.logged : Regime (σ × Logbook) where
  Setting := Engine (σ × Logbook)
  allows _ _ := True
  act := actLogged
  meanwhile e query w := (e.reasoner.consult query w).2
  aside w w' := ∃ memory, w' = { w with memory := (memory, w.memory.2) }

/-- The engine may be set up anew for every operation, and reasoners may remember anything. What is done
while one is busy has been entered in the log as well. -/
def Chronicle (w w' : World (σ × Logbook)) : Prop := Regime.logged.Reaches w w'

theorem Chronicle.act {w w' : World (σ × Logbook)} (hchronicle : Chronicle w w')
    (e : Engine (σ × Logbook)) (action : Action)
    (hconsult : ∀ query v, Chronicle v (e.reasoner.consult query v).2) :
    Chronicle w (e.actLogged w' action) :=
  Regime.Reaches.act (R := Regime.logged) e action hchronicle trivial hconsult

/-! What is done to words does nothing to sentences. -/

theorem kept_save (kind : Kind) (o : Ontology) (e : Element) (wordNumber : Nat)
    (values : List Value) : Kept o (Lexicon.save kind o e wordNumber values).ontology := by
  rcases save_ontology kind o e wordNumber values with hsame | ⟨normal, hcommit⟩
  · rw [hsame]
    exact .refl o
  · rw [hcommit]
    exact kept_commit o e.id kind normal

theorem kept_createElement (w : World σ) (tag : String) :
    Kept w.ontology (createElement w tag).2.ontology := by
  unfold createElement
  split
  · exact .refl _
  · exact ⟨rfl, rfl⟩

theorem kept_addEntry (w : World σ) (entry : LexiconEntry) :
    Kept w.ontology (addEntry w entry).2.ontology := by
  have hcreated := kept_createElement w entry.tag
  unfold addEntry
  generalize createElement w entry.tag = created at hcreated ⊢
  obtain ⟨element, v⟩ := created
  cases element with
  | none => exact hcreated
  | some element =>
    exact hcreated.trans (kept_save element.kind v.ontology element 0 (entry.values element.kind))

theorem kept_of_onWords (e : Engine σ) (w : World σ) {action : Action}
    (h : action.onWords = true) : Kept w.ontology (e.act w action).ontology := by
  cases action with
  | perform operation =>
    cases operation with
    | allocate kind => exact ⟨rfl, rfl⟩
    | commit id kind values => exact kept_commit _ id kind values
    | removeElement id => exact kept_removeElement _ id
    | addSentenceIf | retractSentence => cases h
  | createElement tag => exact kept_createElement w tag
  | saveWords kind element wordNumber values => exact kept_save kind _ element wordNumber values
  | removeElement id => exact kept_removeElement _ id
  | retractSentence | parse | translate | addSentence | checkConsistency | answer => cases h

/-! Of every operation, its news tells what it has done to the sentences. What others do while the
reasoner is busy comes before. -/

/-- An operation ends in this way with this news. Before it did anything to the sentences itself, `p`
was true of the ontology and of what is remembered. -/
inductive Effect (p : Ontology → σ → Prop) : Option Entry → World σ → Prop
  | kept {w' : World σ} (hbefore : p w'.ontology w'.memory) : Effect p none w'
  | stored {o : Ontology} {w' : World σ} (s : Sentence) (hbefore : p o w'.memory)
      (hafter : w'.ontology = o.withSentence s) : Effect p (some (.stored o.nextSentence s)) w'
  | retracted {o : Ontology} {w' : World σ} (id : SentenceId) (s : Sentence)
      (hbefore : p o w'.memory) (hafter : w'.ontology = o.withoutSentence id) :
      Effect p (some (.retracted id s)) w'

variable {p : Ontology → σ → Prop} {e : Engine σ} {w w' : World σ} {s : Sentence}

theorem effect_commitUnchecked (hw : p w.ontology w.memory) (s : Sentence) :
    Effect p ((commitUnchecked w s).1.toOption.map (.stored · s)) (commitUnchecked w s).2 := by
  have hends := commitUnchecked_unchecked w s
  generalize commitUnchecked w s = result at hends ⊢
  cases hends with
  | misfit error hinvalid => exact .kept hw
  | committed construct hvalid => exact .stored s hw rfl

theorem effect_addSentenceIf (hw : p w.ontology w.memory) (s : Sentence) (expected : Option Nat) :
    Effect p (e.news? w (.perform (.addSentenceIf s expected)))
      { w with ontology := (w.ontology.addSentenceIf s expected).2 } := by
  have hends := w.ontology.addSentenceIf_addition s expected
  unfold news?
  dsimp only
  generalize w.ontology.addSentenceIf s expected = result at hends ⊢
  cases hends with
  | stale revision hexpected hmoved => exact .kept hw
  | misfit error hcurrent hinvalid => exact .kept hw
  | added construct hcurrent hvalid => exact .stored s hw rfl

theorem effect_retractSentence (hw : p w.ontology w.memory) (id : SentenceId) :
    Effect p ((w.ontology.retractSentence id).1.toOption.map (.retracted id))
      { w with ontology := (w.ontology.retractSentence id).2 } := by
  have hends := w.ontology.retractSentence_retraction id
  generalize w.ontology.retractSentence id = result at hends ⊢
  cases hends with
  | unknown hunknown => exact .kept hw
  | retracted s hfound => exact .retracted id s hw rfl

theorem effect_withHandler {α : Type} (hw : p w.ontology w.memory) (code : String)
    (work : Handler → Ontology → α × Handler) : Effect p none (e.withHandler w code work).2 := by
  obtain ⟨handlers, hworld⟩ := e.withHandler_world w code work
  rw [hworld]
  exact .kept hw

section Consulted

variable (hconsult : ∀ query v, p v.ontology v.memory →
  p (e.reasoner.consult query v).2.ontology (e.reasoner.consult query v).2.memory)
include hconsult

theorem effect_attempt (s : Sentence) (n : Nat) (hw : p w.ontology w.memory) :
    Effect p ((e.attempt s n w).1.toOption.map (.stored · s)) (e.attempt s n w).2 := by
  induction n generalizing w with
  | zero => exact .kept hw
  | succ n ih =>
    have hanswered := hconsult (approval w s) w hw
    have hends := e.attempt_succ s n w
    generalize e.attempt s (n + 1) w = result at hends ⊢
    generalize (e.reasoner.consult (approval w s) w).1 = answer at hends
    generalize (e.reasoner.consult (approval w s) w).2 = answered at hanswered hends
    cases hends with
    | unanswered error => exact effect_commitUnchecked (w := answered.recordError error) hanswered s
    | refuted handlers => exact .kept hanswered
    | misfit error hcurrent hinvalid => exact .kept hanswered
    | committed construct hcurrent hvalid => exact .stored s hanswered rfl
    | moved hmoved =>
      -- a lost attempt has stored nothing, and the next one begins where the reasoner has left off
      exact ih hanswered

theorem effect_addSentence (s : Sentence) (hw : p w.ontology w.memory) :
    Effect p ((e.addSentence w s).1.toOption.map (.stored · s)) (e.addSentence w s).2 := by
  obtain ⟨error, hresult⟩ | ⟨-, -, hresult⟩ | ⟨-, hresult⟩ := e.addSentence_cases w s
  · rw [hresult]
    exact .kept hw
  · rw [hresult]
    exact effect_attempt hconsult s _ hw
  · rw [hresult]
    exact effect_commitUnchecked hw s

theorem effect_checkConsistency (hw : p w.ontology w.memory) :
    Effect p none (e.checkConsistency w).2 := by
  have hanswered := hconsult (.consistency w.ontology.axioms) w hw
  unfold checkConsistency
  dsimp only
  split <;> rename_i hconsulted <;> rw [hconsulted] at hanswered <;> exact .kept hanswered

theorem effect_answer (s : Sentence) (hw : p w.ontology w.memory) :
    Effect p none (e.answer w s).2 := by
  have hanswered := hconsult (.entailment w.ontology.axioms s.statement.toAxiom) w hw
  unfold answer
  split
  · exact .kept hw
  · split
    · exact .kept hw
    · dsimp only
      split <;> rename_i hconsulted <;> rw [hconsulted] at hanswered <;> exact .kept hanswered

theorem effect_act (hkept : ∀ o o' memory, Kept o o' → p o memory → p o' memory)
    (hw : p w.ontology w.memory) (action : Action) :
    Effect p (e.news? w action) (e.act w action) := by
  have hwords (hon : action.onWords = true) : p (e.act w action).ontology w.memory :=
    hkept _ _ _ (kept_of_onWords e w hon) hw
  cases action with
  | perform operation =>
    cases operation with
    | allocate | commit | removeElement => exact .kept (hwords rfl)
    | addSentenceIf s expected => exact effect_addSentenceIf hw s expected
    | retractSentence id => exact effect_retractSentence hw id
  | createElement tag =>
    have hmemory : (createElement w tag).2.memory = w.memory := by
      rw [(createElement_edited w tag).others]
    exact .kept (hmemory ▸ hwords rfl)
  | saveWords | removeElement => exact .kept (hwords rfl)
  | retractSentence id => exact effect_retractSentence hw id
  | parse code text => exact effect_withHandler hw code fun h o => h.parse o text
  | translate s code => exact effect_withHandler hw code fun h o => h.render o s
  | addSentence s => exact effect_addSentence hconsult s hw
  | checkConsistency => exact effect_checkConsistency hconsult hw
  | answer s => exact effect_answer hconsult s hw

end Consulted

def Faithful (o : Ontology) (memory : σ × Logbook) : Prop :=
  memory.2.HasRoom → o.LoggedIn memory.2

theorem faithful_actLogged {e : Engine (σ × Logbook)} {w : World (σ × Logbook)}
    (hconsult : ∀ query v, Faithful v.ontology v.memory →
      Faithful (e.reasoner.consult query v).2.ontology (e.reasoner.consult query v).2.memory)
    (hw : Faithful w.ontology w.memory) (action : Action) :
    Faithful (e.actLogged w action).ontology (e.actLogged w action).memory := by
  have heffect := effect_act hconsult
    (fun o o' memory hsame ho hroom => (ho hroom).of_kept hsame) hw action
  unfold actLogged
  generalize e.act w action = after, e.news? w action = news at heffect ⊢
  unfold Faithful
  dsimp only
  intro hroom
  cases heffect with
  | kept hbefore =>
    rw [Option.toList_none, List.append_nil] at hroom ⊢
    exact hbefore hroom
  | @stored o _ s hbefore hafter =>
    rw [hafter]
    exact (hbefore hroom.of_append).withSentence s hroom
  | @retracted o _ id s hbefore hafter =>
    rw [hafter]
    exact (hbefore hroom.of_append).withoutSentence id s

theorem Chronicle.faithful {w w' : World (σ × Logbook)} (hchronicle : Chronicle w w')
    (hw : Faithful w.ontology w.memory) : Faithful w'.ontology w'.memory := by
  refine Regime.Reaches.invariant (p := fun w => Faithful w.ontology w.memory)
    (fun e action w _ hconsult hw => faithful_actLogged hconsult hw action) ?_ hchronicle hw
  rintro w _ ⟨memory, rfl⟩ hw
  exact hw

theorem Chronicle.foldl {e : Engine (σ × Logbook)} {w w' : World (σ × Logbook)}
    (hconsult : ∀ query v, Chronicle v (e.reasoner.consult query v).2) (actions : List Action)
    (hchronicle : Chronicle w w') : Chronicle w (actions.foldl e.actLogged w') := by
  induction actions generalizing w' with
  | nil => exact hchronicle
  | cons action rest ih => exact ih (hchronicle.act e action hconsult)

/-- The log holds what callers have been told: which sentence has been stored under which number, and
which one has been retracted. -/
theorem sentences_faithful (e : Engine (σ × Logbook)) (name baseIri : String) (memory : σ)
    (w : World (σ × Logbook))
    (hchronicle : Chronicle (e.start (Ontology.new name baseIri) (memory, [])) w)
    (hroom : w.memory.2.stored.length < 2 ^ 64 - 1) :
    w.ontology.sentences = w.memory.2.standing ∧
    w.memory.2.stored.Pairwise (·.1.val < ·.1.val) ∧
    (∀ id s,
      ((w.ontology.retractSentence id).1 = .ok s ↔ (id, s) ∈ w.memory.2.standing) ∧
      ((retractSentence w id).1 = .ok s ↔ (id, s) ∈ w.memory.2.standing)) ∧
    ∀ (engine : Engine (σ × Logbook)) (action : Action),
      (action.onWords = true →
        (engine.act w action).ontology.sentences = w.ontology.sentences) ∧
      ((∀ query v, Chronicle v (engine.reasoner.consult query v).2) →
        engine.news? w action = none → (engine.act w action).memory.2 = w.memory.2 →
        (engine.act w action).ontology.sentences = w.ontology.sentences) := by
  have hfaithful : Faithful w.ontology w.memory :=
    hchronicle.faithful fun _ => loggedIn_new name baseIri
  have hlogged : w.ontology.LoggedIn w.memory.2 := hfaithful hroom
  have hretract : ∀ id s,
      (w.ontology.retractSentence id).1 = .ok s ↔ (id, s) ∈ w.memory.2.standing := by
    intro id s
    rw [hlogged.sequenced.retractSentence_ok_iff, hlogged.sentences]
  refine ⟨hlogged.sentences, hlogged.numbered, fun id s => ⟨hretract id s, hretract id s⟩, ?_⟩
  intro engine action
  refine ⟨fun hwords => (kept_of_onWords engine w hwords).sentences, ?_⟩
  intro hconsult hnews hlog
  have hafter : (engine.actLogged w action).memory.2 = w.memory.2 := by
    rw [actLogged, hnews, hlog]
    exact List.append_nil _
  have hlater : (engine.actLogged w action).ontology.LoggedIn w.memory.2 := by
    rw [← hafter]
    refine (hchronicle.act engine action hconsult).faithful (fun _ => loggedIn_new name baseIri) ?_
    rw [hafter]
    exact hroom
  exact hlater.sentences.trans hlogged.sentences.symm

/-! A wiki that is used by somebody else as soon as its reasoner is busy for the first time. -/

def quiet : Engine (Unit × Logbook) :=
  { approving with reasoner := ⟨"approving", fun _ w => (.ok true, w)⟩ }

def noBirdIsABeing : Sentence := .assertion (.disjointness bird being) "en"

def hurried (_ : Query) (w : World (Unit × Logbook)) : World (Unit × Logbook) :=
  if w.memory.2 = [] then quiet.actLogged w (.addSentence everyBirdIsABeing) else w

def overtaken : Engine (Unit × Logbook) :=
  { quiet with reasoner := ⟨"approving", fun query w => (.ok true, hurried query w)⟩ }

theorem chronicle_quiet (query : Query) (v : World (Unit × Logbook)) :
    Chronicle v (quiet.reasoner.consult query v).2 := .refl v

theorem chronicle_overtaken (query : Query) (v : World (Unit × Logbook)) :
    Chronicle v (overtaken.reasoner.consult query v).2 := by
  show Chronicle v (hurried query v)
  unfold hurried
  split
  · exact Chronicle.act (.refl v) quiet _ chronicle_quiet
  · exact .refl v

def overtakings : List Action := [
  .perform (.commit bird .concept [.word "bird", .word "birds"]),
  .perform (.commit being .concept [.word "being", .word "beings"]),
  .addSentence noBirdIsABeing,
  .perform (.addSentenceIf everyBirdIsABeing (some 0)),
  .retractSentence ⟨.first⟩,
  .addSentence everyBirdIsABeing]

def unusedStart : World (Unit × Logbook) :=
  quiet.start (Ontology.new "wiki" "http://example.org/") ((), [])

def afterOvertakings : World (Unit × Logbook) :=
  overtakings.foldl overtaken.actLogged unusedStart

/-- The sentence that was overtaken has the second number, the retracted one does not get its number
back, and an addition for an old revision leaves no trace. -/
theorem overtaking_logged :
    let second : SentenceId := ⟨SentenceId.first.toSerial.succ⟩
    let third : SentenceId := ⟨second.toSerial.succ⟩
    afterOvertakings.memory.2 = [
      .stored .first everyBirdIsABeing, .stored second noBirdIsABeing,
      .retracted .first everyBirdIsABeing, .stored third everyBirdIsABeing] ∧
    afterOvertakings.ontology.sentences =
      [(second, noBirdIsABeing), (third, everyBirdIsABeing)] := by
  intro second third
  have hchronicle : Chronicle unusedStart afterOvertakings :=
    Chronicle.foldl chronicle_overtaken overtakings (.refl unusedStart)
  have hlog : afterOvertakings.memory.2 = [
      .stored .first everyBirdIsABeing, .stored second noBirdIsABeing,
      .retracted .first everyBirdIsABeing, .stored third everyBirdIsABeing] := by decide +kernel
  obtain ⟨hsentences, -⟩ := sentences_faithful quiet "wiki" "http://example.org/" () afterOvertakings
    hchronicle (by rw [hlog]; decide)
  rw [hlog] at hsentences
  exact ⟨hlog, hsentences⟩

end SemanticWiki.Engine
