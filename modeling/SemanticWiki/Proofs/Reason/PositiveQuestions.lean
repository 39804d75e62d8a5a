import Mathlib
import SemanticWiki.Proofs.Reason.Models

/-! Positive questions are answered completely: what holds in every model is never denied. For each
denied question the canonical model is a counterexample, with one more instance of the lower class
where the question is about two classes. -/

universe u

namespace SemanticWiki

def Axiom.Positive : Axiom → Prop
  | .subClassOf .. | .classAssertion .. | .objectPropertyAssertion .. => True
  | .disjointClasses .. | .negativeClassAssertion .. => False

namespace Reason

open Interpretation

variable {axioms : List Axiom} {i a b c sub sup : ElementId}

section Consistent

variable (hcontra : ¬ Contradictory axioms)
include hcontra

theorem above_or_vacant_of_entails (hentails : Entails.{u} axioms (.subClassOf sub sup)) :
    Above axioms sub sup ∨ Apart axioms sub sub := by
  by_contra hdenied
  obtain ⟨hnot, hpossible⟩ := not_or.1 hdenied
  have hsub : ⟨none⟩ ∈ (canonical.{u} axioms {sub}).cls sub :=
    canonical_singleton_mem.2 (Above.refl sub)
  have hsup := hentails _ (canonical_singleton_models hcontra hpossible) hsub
  exact hnot (canonical_singleton_mem.{u}.1 hsup)

theorem falls_of_entails (hentails : Entails.{u} axioms (.classAssertion i c)) :
    Falls axioms i c :=
  hentails _ (canonical_empty_models hcontra)

theorem stated_of_entails (hentails : Entails.{u} axioms (.objectPropertyAssertion a c b)) :
    .objectPropertyAssertion a c b ∈ axioms := by
  obtain ⟨x, y, hx, hy, hstated⟩ := hentails _ (canonical_empty_models hcontra)
  -- different individuals are different elements of the canonical model
  obtain rfl := Option.some.inj hx
  obtain rfl := Option.some.inj hy
  exact hstated

theorem derives_of_entails {ax : Axiom} (hpositive : ax.Positive)
    (hentails : Entails.{u} axioms ax) : Derives axioms ax := by
  cases ax with
  | subClassOf sub sup => exact above_or_vacant_of_entails hcontra hentails
  | classAssertion i c => exact falls_of_entails hcontra hentails
  | objectPropertyAssertion a p b => exact stated_of_entails hcontra hentails
  | disjointClasses | negativeClassAssertion => exact hpositive.elim

end Consistent

theorem positive_questions_complete (order : IterationOrder) (set : AxiomSet) (ax : Axiom)
    (hpositive : ax.Positive) (hentails : Entails.{u} set.axioms ax) :
    (∀ budget answer, order.ask budget (.entailment set ax) = .ok answer → answer = true) ∧
    ∃ enough, ∀ budget, enough ≤ budget →
      order.ask budget (.entailment set ax) = .ok true := by
  have haffirmed : IterationOrder.Affirmed (.entailment set ax) := by
    by_cases hcontra : Contradictory set.axioms
    · exact .inl hcontra
    · exact .inr (derives_of_entails hcontra hpositive hentails)
  have hyes : ∀ budget answer,
      order.ask budget (.entailment set ax) = .ok answer → answer = true := by
    intro budget answer hanswer
    exact (IterationOrder.ask_ok hanswer).2 haffirmed
  refine ⟨hyes, ?_⟩
  obtain ⟨enough, hanswers⟩ := order.ask_answers (.entailment set ax)
  refine ⟨enough, fun budget hbudget => ?_⟩
  obtain ⟨answer, hanswer⟩ := hanswers budget hbudget
  rw [hanswer, hyes budget answer hanswer]

/-- Griffins are lions and eagles, which are different animals, so there are none; whoever asks
whether griffins are unicorns, of which nothing is known, is told so. -/
theorem griffins_are_anything :
    let griffin : ElementId := ⟨⟨1, by decide, by decide⟩⟩
    let lion : ElementId := ⟨⟨2, by decide, by decide⟩⟩
    let eagle : ElementId := ⟨⟨3, by decide, by decide⟩⟩
    let unicorn : ElementId := ⟨⟨4, by decide, by decide⟩⟩
    let set : AxiomSet := ⟨0, [.subClassOf griffin lion, .subClassOf griffin eagle,
      .disjointClasses lion eagle]⟩
    (Axiom.subClassOf griffin unicorn).Positive ∧
      Entails.{0} set.axioms (.subClassOf griffin unicorn) ∧
      (∃ budget, (Backend.saturation budget).ask
        (.entailment set (.subClassOf griffin unicorn)) = .ok true) ∧
      Satisfiable.{0} set.axioms := by
  intro griffin lion eagle unicorn set
  have hentails : Entails.{0} set.axioms (.subClassOf griffin unicorn) := by
    intro M hM x hx
    have hlion : x ∈ M.cls lion := hM (.subClassOf griffin lion) (by simp [set]) hx
    have heagle : x ∈ M.cls eagle := hM (.subClassOf griffin eagle) (by simp [set]) hx
    exact absurd heagle (hM (.disjointClasses lion eagle) (by simp [set]) x hlion)
  obtain ⟨-, enough, henough⟩ :=
    positive_questions_complete.{0} .asBuilt set (.subClassOf griffin unicorn) trivial hentails
  have hconsistent : IterationOrder.asBuilt.ask 10 (.consistency set) = .ok true := by cbv
  exact ⟨trivial, hentails, ⟨enough, henough enough le_rfl⟩,
    satisfiable_iff.2 ((IterationOrder.ask_ok hconsistent).1 rfl)⟩

end Reason

end SemanticWiki
