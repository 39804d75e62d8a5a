import Mathlib
import SemanticWiki.Proofs.Reason.Models

/-! Whoever asks whether an axiom follows from others can rely on a yes. -/

universe u

namespace SemanticWiki.Reason

theorem entailment_verdict_sound (order : IterationOrder) (budget : Nat) (set : AxiomSet)
    (ax : Axiom) (hyes : order.ask budget (.entailment set ax) = .ok true) :
    Entails.{u} set.axioms ax :=
  entails_of_derives ((IterationOrder.ask_ok hyes).1 rfl)

def penguins (penguin bird fish nemo : ElementId) : AxiomSet where
  revision := 0
  axioms := [.subClassOf penguin bird, .disjointClasses bird fish, .classAssertion nemo fish]

theorem penguins_exclude_nemo :
    let penguin : ElementId := ⟨⟨1, by decide, by decide⟩⟩
    let nemo : ElementId := ⟨⟨9, by decide, by decide⟩⟩
    let set := penguins penguin ⟨⟨2, by decide, by decide⟩⟩ ⟨⟨3, by decide, by decide⟩⟩ nemo
    (Backend.saturation 10).ask (.entailment set (.negativeClassAssertion nemo penguin)) =
        .ok true ∧
      Entails.{0} set.axioms (.negativeClassAssertion nemo penguin) ∧
      Satisfiable.{0} set.axioms := by
  intro penguin nemo set
  have hyes : IterationOrder.asBuilt.ask 10
      (.entailment set (.negativeClassAssertion nemo penguin)) = .ok true := by cbv
  have hconsistent : IterationOrder.asBuilt.ask 10 (.consistency set) = .ok true := by cbv
  refine ⟨hyes, entailment_verdict_sound .asBuilt 10 set _ hyes, ?_⟩
  exact satisfiable_iff.2 ((IterationOrder.ask_ok hconsistent).1 rfl)

end SemanticWiki.Reason
