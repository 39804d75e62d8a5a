import SemanticWiki.Proofs.Engine.Consistency
import SemanticWiki.Proofs.Engine.Observation

/-! A wiki that nobody else works on. Its reasoner leaves the ontology alone, so an addition has one
call at most: it refuses the sentence, and then the ontology is as before, or stores it, and then the
call has not disapproved. -/

namespace SemanticWiki

open Ontology Reason

/-- What a backend may answer. Saturation may test in any order. -/
def Reason.Backend.MayReply : Backend → Query → Except ReasonError Bool → Prop
  | .saturation budget, query, answer => Reason.MayReply budget query answer
  | .disabled, query, answer => answer = Backend.disabled.ask query

theorem Reason.Backend.MayReply.consistent_iff {b : Backend} {set : AxiomSet} {consistent : Bool}
    (h : b.MayReply (.consistency set) (.ok consistent)) :
    consistent = true ↔ Satisfiable.{0} set.axioms := by
  cases b with
  | saturation budget =>
    obtain ⟨order, hask⟩ := h
    exact (IterationOrder.ask_ok hask).trans satisfiable_iff.symm
  | disabled => cases h

variable {σ : Type}

/-- The reasoner answers as the backend does, whatever it takes down, and leaves the ontology alone. -/
structure Reasoner.Serves (r : Reasoner σ) (b : Backend) : Prop where
  replies : ∀ query w, b.MayReply query (r.consult query w).1
  still : ∀ query w, (r.consult query w).2.ontology = w.ontology

theorem Reasoner.serves_ofBackend (b : Backend) : (Reasoner.ofBackend b : Reasoner σ).Serves b where
  replies query _ := by
    cases b with
    | saturation budget => exact ⟨.asBuilt, rfl⟩
    | disabled => rfl
  still _ _ := rfl

def Call.WithinBudget (c : Call σ) : Prop := ∀ budget, c.answer ≠ .error (.budgetExceeded budget)

namespace Engine

variable {e : Engine σ} {s : Sentence} {w : World σ} {calls : List (Call σ)}
  {outcome : Except WikiError SentenceId × World σ}

/-- What an addition comes to that nobody interferes with, by the calls that it makes. -/
inductive Concluded (e : Engine σ) (s : Sentence) (w : World σ) :
    List (Call σ) → Except WikiError SentenceId × World σ → Prop
  | refused {calls : List (Call σ)} {w' : World σ} (error : WikiError)
      (hsame : w'.ontology = w.ontology) : Concluded e s w calls (.error error, w')
  | stored {calls : List (Call σ)} {w' : World σ} (id : SentenceId)
      (hstored : w'.ontology = w.ontology.withSentence s)
      (happroved : e.config.checkOnAdd = true →
        e.call s w ∈ calls ∧ (e.call s w).answer ≠ .ok false) : Concluded e s w calls (.ok id, w')

theorem concluded_commitUnchecked (v : World σ) (hsame : v.ontology = w.ontology)
    (happroved : e.config.checkOnAdd = true →
      e.call s w ∈ calls ∧ (e.call s w).answer ≠ .ok false) :
    Concluded e s w calls (commitUnchecked v s) := by
  have hends := commitUnchecked_unchecked v s
  generalize commitUnchecked v s = outcome at hends
  cases hends with
  | misfit error hinvalid => exact .refused _ hsame
  | committed construct hvalid => exact .stored _ (by rw [hsame]) happroved

section Still

variable (hstill : ∀ query (v : World σ), (e.reasoner.consult query v).2.ontology = v.ontology)
include hstill

theorem not_outdated (s : Sentence) (w : World σ) : ¬ (e.call s w).Outdated :=
  fun hlost => hlost.2 (congrArg Ontology.revision (hstill _ _))

theorem attempt_concluded (s : Sentence) (n : Nat) (w : World σ) (earlier : List (Call σ)) :
    ∃ calls, e.observed.attempt s n (w.withCalls earlier) =
        noted (earlier ++ calls) (e.attempt s n w) ∧ Concluded e s w calls (e.attempt s n w) := by
  cases n with
  | zero =>
    refine ⟨[], ?_, .refused _ rfl⟩
    rw [List.append_nil]
    rfl
  | succ n =>
    have hobserved :=
      attempt_observed_of_not_outdated (n := n) (not_outdated hstill s w) earlier
    refine ⟨[e.call s w], hobserved, ?_⟩
    have hsame : (e.call s w).after.ontology = w.ontology := hstill _ _
    have hends : Attempt e s n w (e.call s w).after (e.call s w).answer
      (e.attempt s (n + 1) w) := e.attempt_succ s n w
    generalize e.attempt s (n + 1) w = outcome at hends
    generalize hanswer : (e.call s w).answer = answer at hends
    have happroved (hnot : answer ≠ .ok false) :
        e.call s w ∈ [e.call s w] ∧ (e.call s w).answer ≠ .ok false :=
      ⟨List.mem_singleton_self _, hanswer ▸ hnot⟩
    cases hends with
    | unanswered error =>
      exact concluded_commitUnchecked _ hsame fun _ => happroved (by simp)
    | refuted handlers => exact .refused _ hsame
    | misfit error hcurrent hinvalid => exact .refused _ hsame
    | committed construct hcurrent hvalid =>
      exact .stored _ (congrArg (·.withSentence s) hsame) fun _ => happroved (by simp)
    | moved hmoved => exact absurd (congrArg Ontology.revision hsame) hmoved

theorem addSentence_concluded (s : Sentence) (w : World σ) (earlier : List (Call σ)) :
    ∃ calls, e.observed.addSentence (w.withCalls earlier) s =
        noted (earlier ++ calls) (e.addSentence w s) ∧
      Concluded e s w calls (e.addSentence w s) := by
  obtain ⟨error, hrefused, hrefused'⟩ | ⟨-, -, hattempts, hattempts'⟩ |
      ⟨hunchecked, hcommits, hcommits'⟩ := e.addSentence_observed_cases w earlier s
  · rw [hrefused, hrefused']
    refine ⟨[], ?_, .refused _ rfl⟩
    rw [List.append_nil]
    rfl
  · rw [hattempts, hattempts']
    exact attempt_concluded hstill s _ w earlier
  · rw [hcommits, hcommits']
    refine ⟨[], ?_, concluded_commitUnchecked w rfl fun hcheck => ?_⟩
    · rw [List.append_nil]
      exact commitUnchecked_withCalls w earlier s
    · cases hunchecked.symm.trans hcheck

end Still

variable {b : Backend}

theorem checkConsistency_observed (hserves : e.reasoner.Serves b) (w : World σ)
    (earlier : List (Call σ)) :
    ∃ c, e.observed.checkConsistency (w.withCalls earlier) =
        ((e.checkConsistency w).1, (e.checkConsistency w).2.withCalls (earlier ++ [c])) ∧
      (e.checkConsistency w).2.ontology = w.ontology ∧
      ∀ report, (e.checkConsistency w).1 = .ok report →
        b.MayReply (.consistency w.ontology.axioms) (.ok report.consistent) := by
  have hreply := hserves.replies (.consistency w.ontology.axioms) w
  have hsame := hserves.still (.consistency w.ontology.axioms) w
  have hobserved (query : Query) : e.observed.reasoner.consult query (w.withCalls earlier) =
      ((e.reasoner.consult query w).1, (e.reasoner.consult query w).2.withCalls (earlier ++
        [⟨⟨query, (e.reasoner.consult query w).1⟩, w, (e.reasoner.consult query w).2⟩])) := rfl
  have hontology : (w.withCalls earlier).ontology = w.ontology := rfl
  unfold checkConsistency
  dsimp only
  rw [hontology, hobserved]
  generalize e.reasoner.consult (.consistency w.ontology.axioms) w = answered at hreply hsame
  obtain ⟨answer, v⟩ := answered
  cases answer with
  | error error => exact ⟨_, rfl, hsame, fun report h => by cases h⟩
  | ok consistent => exact ⟨_, rfl, hsame, fun report h => by cases h; exact hreply⟩

theorem Concluded.satisfiable (hserves : e.reasoner.Serves b) (hcheck : e.config.checkOnAdd = true)
    (hconcluded : Concluded e s w calls outcome) (hwithin : ∀ c ∈ calls, c.WithinBudget)
    (hbefore : Satisfiable.{0} w.ontology.axioms.axioms) (henabled : b ≠ .disabled) :
    Satisfiable.{0} outcome.2.ontology.axioms.axioms := by
  cases hconcluded with
  | refused error hsame =>
    rw [hsame]
    exact hbefore
  | stored id hstored happroved =>
    obtain ⟨hcall, hnot⟩ := happroved hcheck
    rw [hstored]
    have hwithin := hwithin _ hcall
    have hreply : b.MayReply (approval w s) (e.call s w).answer := hserves.replies _ _
    cases b with
    | disabled => exact absurd rfl henabled
    | saturation budget =>
      generalize hanswer : (e.call s w).answer = answer at hnot hreply
      cases answer with
      | error error =>
        obtain ⟨order, hask⟩ := hreply
        rw [IterationOrder.ask_error hask] at hanswer
        exact absurd hanswer (hwithin budget)
      | ok verdict =>
        cases verdict with
        | false => exact absurd rfl hnot
        | true => exact satisfiable_withSentence hreply

end Engine

end SemanticWiki
