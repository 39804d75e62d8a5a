import Mathlib
import SemanticWiki.Proofs.Reason.Models

/-! Whoever asks whether axioms are consistent and can pay for the answer learns whether they have
a model. -/

universe u

namespace SemanticWiki.Reason

theorem consistency_verdict_exact (order : IterationOrder) (set : AxiomSet) :
    (∀ budget answer, order.ask budget (.consistency set) = .ok answer →
      (answer = true ↔ Satisfiable.{u} set.axioms)) ∧
    (∀ budget e, order.ask budget (.consistency set) = .error e → e = .budgetExceeded budget) ∧
    ∃ enough, ∀ budget, enough ≤ budget →
      ∃ answer, order.ask budget (.consistency set) = .ok answer := by
  refine ⟨?_, ?_, order.ask_answers (.consistency set)⟩
  · intro budget answer hanswer
    rw [satisfiable_iff]
    exact IterationOrder.ask_ok hanswer
  · intro budget e he
    exact IterationOrder.ask_error he

def circularClasses (a b empty i : ElementId) : AxiomSet where
  revision := 0
  axioms := [.subClassOf a b, .subClassOf b a, .disjointClasses empty empty, .classAssertion i a,
    .negativeClassAssertion i empty]

theorem circularClasses_consistent :
    let set := circularClasses ⟨⟨1, by decide, by decide⟩⟩ ⟨⟨2, by decide, by decide⟩⟩
      ⟨⟨3, by decide, by decide⟩⟩ ⟨⟨9, by decide, by decide⟩⟩
    (Backend.saturation 10).ask (.consistency set) = .ok true ∧ Satisfiable.{0} set.axioms ∧
      ∃ e, (Backend.saturation 9).ask (.consistency set) = .error e ∧ e = .budgetExceeded 9 := by
  intro set
  have hyes : IterationOrder.asBuilt.ask 10 (.consistency set) = .ok true := by cbv
  have hno : IterationOrder.asBuilt.ask 9 (.consistency set) = .error (.budgetExceeded 9) := by
    cbv
  obtain ⟨hexact, herror, -⟩ := consistency_verdict_exact.{0} .asBuilt set
  exact ⟨hyes, (hexact 10 true hyes).1 rfl, _, hno, herror 9 _ hno⟩

end SemanticWiki.Reason
