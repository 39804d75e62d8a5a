import SemanticWiki.Proofs.Engine.Run

/-! Additions under observation. A reasoner whose calls are written down answers and acts as it would
otherwise, and the list of its calls tells what has become of an addition: as long as it approves and
the ontology moves, it is called again, and the last call decides. -/

namespace SemanticWiki

variable {σ : Type}

structure Call (σ : Type) extends Consultation where
  before : World σ
  after : World σ

def Call.Outdated (c : Call σ) : Prop :=
  c.answer = .ok true ∧ c.after.ontology.revision ≠ c.before.ontology.revision

namespace World

def withCalls (w : World σ) (calls : List (Call σ)) : World (σ × List (Call σ)) :=
  { w with memory := (w.memory, calls) }

def withoutCalls (w : World (σ × List (Call σ))) : World σ := { w with memory := w.memory.1 }

end World

def Reasoner.observed (r : Reasoner σ) : Reasoner (σ × List (Call σ)) where
  name := r.name
  consult query w :=
    let before := w.withoutCalls
    let (answer, after) := r.consult query before
    (answer, after.withCalls (w.memory.2 ++ [⟨⟨query, answer⟩, before, after⟩]))

namespace Engine

def observed (e : Engine σ) : Engine (σ × List (Call σ)) := { e with reasoner := e.reasoner.observed }

theorem init_observed (config : Config) (registry : Registry) (r : Reasoner σ) :
    init config registry r.observed = (init config registry r).map observed := by
  unfold init
  cases config.validate with
  | error error => rfl
  | ok _ =>
    dsimp only
    split <;> rfl

variable {e : Engine σ} {s : Sentence} {n : Nat} {w w' : World σ}

def call (e : Engine σ) (s : Sentence) (w : World σ) : Call σ :=
  let answered := e.reasoner.consult (approval w s) w
  ⟨⟨approval w s, answered.1⟩, w, answered.2⟩

/-- Calls for a sentence that follow each other, with nothing between them, from the one state of the
wiki to the other. -/
inductive Calls (e : Engine σ) (s : Sentence) : World σ → List (Call σ) → World σ → Prop
  | nil (w : World σ) : Calls e s w [] w
  | cons {w w' : World σ} {calls : List (Call σ)} (hrest : Calls e s (e.call s w).after calls w') :
      Calls e s w (e.call s w :: calls) w'

theorem Calls.concat {calls : List (Call σ)} (hcalls : Calls e s w calls w') :
    Calls e s w (calls ++ [e.call s w']) (e.call s w').after := by
  induction hcalls with
  | nil w => exact .cons (.nil _)
  | cons hrest ih => exact .cons ih

/-- How an addition that has so many attempts ends: all of them are lost, or one is not, which ends as
attempts do. -/
inductive Ending (e : Engine σ) (s : Sentence) (n : Nat) (w : World σ) :
    List (Call σ) → World σ → Except WikiError SentenceId × World σ → Prop
  | exhausted {calls : List (Call σ)} {last : World σ} (hcalls : Calls e s w calls last)
      (hlength : calls.length = n) (hlost : ∀ c ∈ calls, c.Outdated) :
      Ending e s n w calls last (.error (.engine (.conflict e.config.maxCommitRetries)), last)
  | settled {earlier : List (Call σ)} {v : World σ} {attempts : Nat}
      {outcome : Except WikiError SentenceId × World σ} (hcalls : Calls e s w earlier v)
      (hlength : earlier.length < n) (hlost : ∀ c ∈ earlier, c.Outdated)
      (hlast : ¬ (e.call s v).Outdated)
      (hends : Attempt e s attempts v (e.call s v).after (e.call s v).answer outcome) :
      Ending e s n w (earlier ++ [e.call s v]) (e.call s v).after outcome

section Ending

variable {calls : List (Call σ)} {last : World σ} {outcome : Except WikiError SentenceId × World σ}

theorem Ending.cons (hlost : (e.call s w).Outdated)
    (hends : Ending e s n (e.call s w).after calls last outcome) :
    Ending e s (n + 1) w (e.call s w :: calls) last outcome := by
  cases hends with
  | exhausted hcalls hlength hlater =>
    have hall : ∀ c ∈ e.call s w :: calls, c.Outdated := List.forall_mem_cons.2 ⟨hlost, hlater⟩
    exact .exhausted hcalls.cons (congrArg Nat.succ hlength) hall
  | settled hcalls hlength hlater hlast hends =>
    exact .settled hcalls.cons (Nat.succ_lt_succ hlength)
      (List.forall_mem_cons.2 ⟨hlost, hlater⟩) hlast hends

theorem Ending.consecutive (hends : Ending e s n w calls last outcome) :
    Calls e s w calls last := by
  cases hends with
  | exhausted hcalls hlength hlost => exact hcalls
  | settled hcalls hlength hlost hlast hends => exact hcalls.concat

theorem Ending.length_le (hends : Ending e s n w calls last outcome) : calls.length ≤ n := by
  cases hends with
  | exhausted hcalls hlength hlost => exact Nat.le_of_eq hlength
  | settled hcalls hlength hlost hlast hends =>
    rw [List.length_append, List.length_singleton]
    exact hlength

end Ending

/-! What does not consult the reasoner is not changed by observation. -/

def noted {α : Type} (calls : List (Call σ)) (outcome : α × World σ) :
    α × World (σ × List (Call σ)) :=
  (outcome.1, outcome.2.withCalls calls)

theorem commitUnchecked_withCalls (w : World σ) (calls : List (Call σ)) (s : Sentence) :
    commitUnchecked (w.withCalls calls) s = noted calls (commitUnchecked w s) := by
  have hontology : (w.withCalls calls).ontology = w.ontology := rfl
  unfold commitUnchecked
  rw [hontology]
  generalize w.ontology.addSentenceIf s none = added
  obtain ⟨result, ontology⟩ := added
  cases result with
  | error error => rfl
  | ok committed => cases committed <;> rfl

theorem createElement_withCalls (w : World σ) (calls : List (Call σ)) (tag : String) :
    createElement (w.withCalls calls) tag = noted calls (createElement w tag) := by
  unfold createElement
  cases Kind.ofTag? tag <;> rfl

theorem addEntry_withCalls (w : World σ) (calls : List (Call σ)) (entry : LexiconEntry) :
    addEntry (w.withCalls calls) entry = noted calls (addEntry w entry) := by
  unfold addEntry
  rw [createElement_withCalls]
  generalize createElement w entry.tag = created
  obtain ⟨element, v⟩ := created
  cases element <;> rfl

theorem withHandler_withCalls {α : Type} (e : Engine σ) (w : World σ) (calls : List (Call σ))
    (code : String) (work : Handler → Ontology → α × Handler) :
    e.observed.withHandler (w.withCalls calls) code work =
      noted calls (e.withHandler w code work) := by
  have hhandler : e.observed.handler (w.withCalls calls) code = e.handler w code := rfl
  unfold withHandler
  rw [hhandler]
  cases e.handler w code <;> rfl

theorem translate_withCalls (e : Engine σ) (w : World σ) (calls : List (Call σ)) (s : Sentence)
    (code : String) :
    e.observed.translate (w.withCalls calls) s code = noted calls (e.translate w s code) := by
  unfold translate
  rw [withHandler_withCalls]
  rfl

theorem parse_withCalls (e : Engine σ) (w : World σ) (calls : List (Call σ)) (code text : String) :
    e.observed.parse (w.withCalls calls) code text = noted calls (e.parse w code text) := by
  unfold parse
  rw [withHandler_withCalls]
  rfl

theorem describe_withCalls (e : Engine σ) (w : World σ) (calls : List (Call σ)) (s : Sentence) :
    e.observed.describe (w.withCalls calls) s = noted calls (e.describe w s) := by
  unfold describe
  rw [translate_withCalls]
  generalize e.translate w s s.language = translated
  obtain ⟨result, w'⟩ := translated
  cases result <;> rfl

theorem attempt_eq (e : Engine σ) (s : Sentence) (n : Nat) (w : World σ) :
    e.attempt s (n + 1) w =
      match (e.call s w).answer with
      | .error error => commitUnchecked ((e.call s w).after.recordError error) s
      | .ok false =>
        let described := e.describe (e.call s w).after s
        (.error (refusal described.1), described.2)
      | .ok true =>
        match (e.call s w).after.ontology.addSentenceIf s (some w.ontology.revision) with
        | (.error error, ontology) =>
          (.error (.grammar error), { (e.call s w).after with ontology })
        | (.ok (.committed id revision), ontology) =>
          (.ok id, { (e.call s w).after with ontology }.markSynced revision)
        | (.ok (.stale _), ontology) => e.attempt s n { (e.call s w).after with ontology } := by
  have hcall : e.reasoner.consult (.consistency (w.ontology.axioms.extend s.statement.toAxiom)) w =
      ((e.call s w).answer, (e.call s w).after) := rfl
  rw [attempt, hcall]
  dsimp only
  cases (e.call s w).answer with
  | error error => rfl
  | ok verdict => cases verdict <;> rfl

theorem attempt_of_outdated (hlost : (e.call s w).Outdated) :
    e.attempt s (n + 1) w = e.attempt s n (e.call s w).after := by
  obtain ⟨hanswer, hmoved⟩ := hlost
  have hstale : (e.call s w).after.ontology.addSentenceIf s (some w.ontology.revision) =
      (.ok (.stale (e.call s w).after.ontology.revision), (e.call s w).after.ontology) :=
    if_pos (by simpa using fun hsame => hmoved hsame.symm)
  rw [attempt_eq, hanswer]
  dsimp only
  rw [hstale]

theorem attempt_observed_of_not_outdated (hlast : ¬ (e.call s w).Outdated)
    (earlier : List (Call σ)) :
    e.observed.attempt s (n + 1) (w.withCalls earlier) =
      noted (earlier ++ [e.call s w]) (e.attempt s (n + 1) w) := by
  have hcall : e.observed.call s (w.withCalls earlier) =
      ⟨⟨approval w s, (e.call s w).answer⟩, w.withCalls earlier,
        (e.call s w).after.withCalls (earlier ++ [e.call s w])⟩ := rfl
  rw [attempt_eq, attempt_eq, hcall]
  dsimp only
  cases hanswer : (e.call s w).answer with
  | error error => exact commitUnchecked_withCalls ((e.call s w).after.recordError error) _ s
  | ok verdict =>
    cases verdict with
    | false =>
      dsimp only
      rw [describe_withCalls]
      rfl
    | true =>
      have hends := (e.call s w).after.ontology.addSentenceIf_addition s (some w.ontology.revision)
      have hontology : ((e.call s w).after.withCalls (earlier ++ [e.call s w])).ontology =
          (e.call s w).after.ontology := rfl
      have hrevision : (w.withCalls earlier).ontology.revision = w.ontology.revision := rfl
      dsimp only
      rw [hontology, hrevision]
      generalize (e.call s w).after.ontology.addSentenceIf s (some w.ontology.revision) = added
        at hends
      cases hends with
      | stale revision hexpected hmoved =>
        -- the only way in which the addition would go on
        obtain rfl := Option.some.inj hexpected
        exact absurd ⟨hanswer, fun hsame => hmoved hsame.symm⟩ hlast
      | misfit error hcurrent hinvalid => rfl
      | added construct hcurrent hfits => rfl

theorem attempt_observed (e : Engine σ) (s : Sentence) (n : Nat) (w : World σ)
    (earlier : List (Call σ)) :
    ∃ calls last, Ending e s n w calls last (e.attempt s n w) ∧
      e.observed.attempt s n (w.withCalls earlier) = noted (earlier ++ calls) (e.attempt s n w) := by
  induction n generalizing w earlier with
  | zero =>
    refine ⟨[], w, .exhausted (.nil w) rfl (by simp), ?_⟩
    rw [List.append_nil]
    rfl
  | succ n ih =>
    by_cases hlost : (e.call s w).Outdated
    · -- both reasoners lose the attempt, and the call is written down behind the earlier ones
      obtain ⟨calls, last, hends, hobserved⟩ := ih (e.call s w).after (earlier ++ [e.call s w])
      have hlost' : (e.observed.call s (w.withCalls earlier)).Outdated := hlost
      refine ⟨e.call s w :: calls, last, ?_, ?_⟩
      · rw [attempt_of_outdated hlost]
        exact .cons hlost hends
      · rw [attempt_of_outdated hlost, attempt_of_outdated hlost', List.append_cons]
        exact hobserved
    · refine ⟨[] ++ [e.call s w], (e.call s w).after, ?_, ?_⟩
      · exact .settled (.nil w) (Nat.succ_pos n) (by simp) hlost (e.attempt_succ s n w)
      · exact attempt_observed_of_not_outdated hlost earlier

theorem addSentence_observed_cases (e : Engine σ) (w : World σ) (earlier : List (Call σ))
    (s : Sentence) :
    (∃ error, e.addSentence w s = (.error error, w) ∧
      e.observed.addSentence (w.withCalls earlier) s = (.error error, w.withCalls earlier)) ∨
    (s.question = false ∧ e.config.checkOnAdd = true ∧
      e.addSentence w s = e.attempt s e.config.maxCommitRetries w ∧
      e.observed.addSentence (w.withCalls earlier) s =
        e.observed.attempt s e.config.maxCommitRetries (w.withCalls earlier)) ∨
    (e.config.checkOnAdd = false ∧ e.addSentence w s = commitUnchecked w s ∧
      e.observed.addSentence (w.withCalls earlier) s =
        commitUnchecked (w.withCalls earlier) s) := by
  have hontology : (w.withCalls earlier).ontology = w.ontology := rfl
  have hconfig : e.observed.config = e.config := rfl
  unfold addSentence
  rw [hontology, hconfig]
  cases s.question with
  | true => exact .inl ⟨_, rfl, rfl⟩
  | false =>
    cases w.ontology.validate s with
    | error error => exact .inl ⟨_, rfl, rfl⟩
    | ok construct =>
      cases e.config.checkOnAdd with
      | true => exact .inr (.inl ⟨rfl, rfl, rfl, rfl⟩)
      | false => exact .inr (.inr ⟨rfl, rfl, rfl⟩)

end Engine

end SemanticWiki
