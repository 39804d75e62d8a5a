import Mathlib
import SemanticWiki.Proofs.Reason.Exploration
import SemanticWiki.Proofs.Reason.Models
import SemanticWiki.Proofs.Reason.Monotonicity

/-! What it takes to find out whether axioms are consistent. A test that finds no contradiction has
looked at everything there is, once, so its price is a number that the axioms alone determine. A test
that finds one may be cheaper, but never costs more. -/

universe u

namespace SemanticWiki.Reason

/-- The steps of a test that nothing cuts short: one for every class mentioned and class above it, one
for every pair of classes that one individual falls into, and one for every negative assertion. -/
noncomputable def fullPrice (axioms : List Axiom) : Nat :=
  ∑ a ∈ (axioms.flatMap Axiom.classes).toFinset, {b | Above axioms a b}.ncard +
    ∑ i ∈ ((axioms.filterMap Axiom.assertion?).map (·.1)).toFinset,
      {c | Falls axioms i c}.ncard ^ 2 +
    (axioms.filterMap Axiom.negative?).toFinset.card

variable {axioms : List Axiom} {closure : Closure}

namespace Closure

theorem anyPaid_exhausts {α : Type} (test : α → Bool) (as : List α) :
    (anyPaid test as).Exhausts as.length := by
  induction as with
  | nil => exact Metered.exhausts_nothing
  | cons a as ih =>
    refine Metered.Exhausts.tick ?_
    cases ha : test a with
    | true => exact Metered.exhausts_found as.length
    | false => exact ih

theorem clash_exhausts (closure : Closure) (left right : List ElementId) :
    (closure.clash left right).Exhausts (left.length * right.length) := by
  rw [← List.length_product]
  exact anyPaid_exhausts _ _

theorem anyClash_exhausts (closure : Closure) (entries : List (ElementId × List ElementId)) :
    (closure.anyClash entries).Exhausts (entries.map fun entry => entry.2.length ^ 2).sum := by
  induction entries with
  | nil => exact Metered.exhausts_nothing
  | cons entry entries ih =>
    rw [List.map_cons, List.sum_cons, Nat.pow_two]
    exact (closure.clash_exhausts entry.2 entry.2).or ih

def testPrice (closure : Closure) : Nat :=
  (closure.types.map fun entry => entry.2.length ^ 2).sum + closure.negative.length

theorem consistent_costs (closure : Closure) :
    ∃ price answer, closure.consistent.Costs price answer ∧ price ≤ closure.testPrice ∧
      (answer = true → price = closure.testPrice) := by
  obtain ⟨price, found, hcosts, hle, hall⟩ := closure.anyClash_exhausts closure.types
  cases found with
  | true =>
    have hstop : closure.consistent.Costs (price + 0) false :=
      hcosts.bind (Metered.costs_pure false)
    exact ⟨price, false, hstop, hle.trans (Nat.le_add_right _ _), by simp⟩
  | false =>
    obtain ⟨price', found', hcosts', hle', hall'⟩ :=
      anyPaid_exhausts (fun entry => closure.hasType entry.1 entry.2) closure.negative
    have hgo : closure.consistent.Costs (price + price') (!found') :=
      hcosts.bind (hcosts'.map not)
    refine ⟨price + price', !found', hgo, Nat.add_le_add hle hle', fun hyes => ?_⟩
    rw [hall rfl, hall' (by simpa using hyes)]
    rfl

end Closure

theorem fullPrice_eq (hreflects : closure.Reflects axioms) (hdistinct : closure.Distinct axioms) :
    fullPrice axioms =
      ((Hierarchy.ofAxioms axioms).classes.map fun a => (closure.supersOf a).length).sum +
        closure.testPrice := by
  have hclasses : ∑ a ∈ (axioms.flatMap Axiom.classes).toFinset, {b | Above axioms a b}.ncard =
      ((Hierarchy.ofAxioms axioms).classes.map fun a => (closure.supersOf a).length).sum :=
    explorationPrice_eq (fun a _ => hdistinct.supers a) fun a _ => hreflects.supers a
  have htypes : ∑ i ∈ ((axioms.filterMap Axiom.assertion?).map (·.1)).toFinset,
      {c | Falls axioms i c}.ncard ^ 2 =
        (closure.types.map fun entry => entry.2.length ^ 2).sum := by
    have hindividuals : ((axioms.filterMap Axiom.assertion?).map (·.1)).toFinset =
        (closure.types.map (·.1)).toFinset := by
      ext i
      rw [List.mem_toFinset, List.mem_toFinset]
      constructor
      · intro hi
        obtain ⟨⟨i, a⟩, hstated, rfl⟩ := List.mem_map.1 hi
        obtain ⟨types, hmem⟩ := hreflects.typed i a ⟨a, Closure.mem_asserted.1 hstated, .refl a⟩
        exact List.mem_map.2 ⟨(i, types), hmem, rfl⟩
      · intro hi
        obtain ⟨a, hstated⟩ := hdistinct.asserted i hi
        exact List.mem_map.2 ⟨(i, a), Closure.mem_asserted.2 hstated, rfl⟩
    rw [hindividuals, List.sum_toFinset _ hdistinct.individuals, List.map_map]
    refine congrArg List.sum (List.map_congr_left fun entry hentry => ?_)
    exact congrArg (· ^ 2)
      (ncard_eq_length (hdistinct.types entry hentry) (hreflects.types entry.1 entry.2 hentry))
  have hnegative : (axioms.filterMap Axiom.negative?).toFinset.card = closure.negative.length := by
    have hpairs : (axioms.filterMap Axiom.negative?).toFinset = closure.negative.toFinset := by
      ext ⟨i, c⟩
      rw [List.mem_toFinset, List.mem_toFinset, hreflects.negative]
      simp [List.mem_filterMap, Axiom.negative?_eq_some]
    rw [hpairs, List.toFinset_card_of_nodup hdistinct.negative]
  rw [fullPrice, hclasses, htypes, hnegative, Closure.testPrice, Nat.add_assoc]

theorem fullPrice_congr {other : List Axiom} (hsame : ∀ ax, ax ∈ axioms ↔ ax ∈ other) :
    fullPrice axioms = fullPrice other := by
  have hsub : axioms ⊆ other := fun ax => (hsame ax).1
  have hsub' : other ⊆ axioms := fun ax => (hsame ax).2
  have habove : Above axioms = Above other := by
    funext a b
    exact propext ⟨fun h => h.mono hsub, fun h => h.mono hsub'⟩
  have hfalls : Falls axioms = Falls other := by
    funext i c
    exact propext ⟨fun h => h.mono hsub, fun h => h.mono hsub'⟩
  have hclasses : (axioms.flatMap Axiom.classes).toFinset =
      (other.flatMap Axiom.classes).toFinset := by
    ext a
    simp [hsame]
  have hindividuals : ((axioms.filterMap Axiom.assertion?).map (·.1)).toFinset =
      ((other.filterMap Axiom.assertion?).map (·.1)).toFinset := by
    ext i
    simp [hsame]
  have hnegative : (axioms.filterMap Axiom.negative?).toFinset =
      (other.filterMap Axiom.negative?).toFinset := by
    ext pair
    simp [hsame]
  rw [fullPrice, fullPrice, habove, hfalls, hclasses, hindividuals, hnegative]

namespace IterationOrder

theorem testPrice_arrange (order : IterationOrder) (closure : Closure) :
    (order.arrange closure).testPrice = closure.testPrice := by
  unfold Closure.testPrice
  have htypes := ((order.types_perm closure.types).map fun entry => entry.2.length ^ 2).sum_nat
  rw [arrange]
  dsimp only
  rw [htypes, (order.negative_perm closure.negative).length_eq]

theorem consistency_costs (order : IterationOrder) (set : AxiomSet) :
    ∃ price answer, (order.verdict (.consistency set)).Costs price answer ∧
      price ≤ fullPrice set.axioms ∧ (answer = true → price = fullPrice set.axioms) := by
  obtain ⟨closure, hreflects, hdistinct, hbuild⟩ := Closure.build_costs set.axioms
  obtain ⟨price, answer, htest, hle, hall⟩ := (order.arrange closure).consistent_costs
  rw [order.testPrice_arrange] at hle hall
  have hverdict : (order.verdict (.consistency set)).Costs _ answer := hbuild.bind htest
  rw [fullPrice_eq hreflects hdistinct]
  exact ⟨_, answer, hverdict, Nat.add_le_add_left hle _, fun hyes => by rw [hall hyes]⟩

theorem ask_of_costs {order : IterationOrder} {query : Query} {price : Nat} {answer : Bool}
    (h : (order.verdict query).Costs price answer) (budget : Nat) :
    order.ask budget query =
      if price ≤ budget then .ok answer else .error (.budgetExceeded budget) := by
  rw [ask, h.within]
  by_cases hpaid : price ≤ budget
  · rw [if_pos hpaid, if_pos hpaid]
  · rw [if_neg hpaid, if_neg hpaid]

end IterationOrder

theorem step_budget_exact (order : IterationOrder) (set : AxiomSet) :
    (Satisfiable.{u} set.axioms → ∀ budget, order.ask budget (.consistency set) =
      if fullPrice set.axioms ≤ budget then .ok true else .error (.budgetExceeded budget)) ∧
    (¬ Satisfiable.{u} set.axioms → ∃ enough ≤ fullPrice set.axioms,
      ∀ budget, order.ask budget (.consistency set) =
        if enough ≤ budget then .ok false else .error (.budgetExceeded budget)) ∧
    ∀ other : AxiomSet, (∀ ax, ax ∈ set.axioms ↔ ax ∈ other.axioms) →
      fullPrice set.axioms = fullPrice other.axioms := by
  obtain ⟨price, answer, hcosts, hle, hall⟩ := order.consistency_costs set
  have hask := IterationOrder.ask_of_costs hcosts
  have hanswer : answer = true ↔ Satisfiable.{u} set.axioms := by
    have hpaid : order.ask price (.consistency set) = .ok answer := by
      rw [hask, if_pos (Nat.le_refl price)]
    rw [satisfiable_iff]
    exact IterationOrder.ask_ok hpaid
  refine ⟨fun hconsistent => ?_, fun hinconsistent => ?_, fun other => fullPrice_congr⟩
  · obtain rfl := hanswer.2 hconsistent
    rw [← hall rfl]
    exact hask
  · obtain rfl : answer = false := Bool.eq_false_iff.2 fun hyes => hinconsistent (hanswer.1 hyes)
    exact ⟨price, hle, hask⟩

def nemoIsNoBird : AxiomSet where
  revision := 0
  axioms := [.subClassOf penguin bird, .subClassOf bird penguin, .disjointClasses bird fish,
    .classAssertion nemo fish, .negativeClassAssertion nemo bird]

/-- Five steps go to the classes, one to the types of Nemo and one to what he is not, however all this
is listed. If he is a penguin too, his types clash before all of them have been compared. -/
theorem nemo_priced :
    let backwards : AxiomSet := ⟨0, nemoIsNoBird.axioms.reverse⟩
    let torn := nemoIsNoBird.extend (.classAssertion nemo penguin)
    Satisfiable.{0} nemoIsNoBird.axioms ∧ fullPrice nemoIsNoBird.axioms = 7 ∧
      fullPrice backwards.axioms = 7 ∧ ¬ Satisfiable.{0} torn.axioms ∧
      11 ≤ fullPrice torn.axioms ∧ Backend.ask (.saturation 11) (.consistency torn) = .ok false := by
  intro backwards torn
  have hyes : IterationOrder.asBuilt.ask 7 (.consistency nemoIsNoBird) = .ok true := by cbv
  have hno : IterationOrder.asBuilt.ask 6 (.consistency nemoIsNoBird) =
      .error (.budgetExceeded 6) := by cbv
  have hfound : IterationOrder.asBuilt.ask 11 (.consistency torn) = .ok false := by cbv
  have hmissed : IterationOrder.asBuilt.ask 10 (.consistency torn) =
      .error (.budgetExceeded 10) := by cbv
  have hconsistent : Satisfiable.{0} nemoIsNoBird.axioms :=
    satisfiable_iff.2 ((IterationOrder.ask_ok hyes).1 rfl)
  have hinconsistent : ¬ Satisfiable.{0} torn.axioms := fun h =>
    Bool.false_ne_true ((IterationOrder.ask_ok hfound).2 (satisfiable_iff.1 h))
  obtain ⟨hexact, -, hsame⟩ := step_budget_exact.{0} .asBuilt nemoIsNoBird
  obtain ⟨-, hbounded, -⟩ := step_budget_exact.{0} .asBuilt torn
  have hprice : fullPrice nemoIsNoBird.axioms = 7 := by
    have henough := hexact hconsistent 7
    have hscarce := hexact hconsistent 6
    rw [hyes] at henough
    rw [hno] at hscarce
    split_ifs at henough hscarce
    omega
  refine ⟨hconsistent, hprice, ?_, hinconsistent, ?_, hfound⟩
  · rw [← hsame backwards fun ax => by simp [backwards], hprice]
  · obtain ⟨enough, hle, hall⟩ := hbounded hinconsistent
    have hscarce := hall 10
    rw [hmissed] at hscarce
    split_ifs at hscarce
    omega

end SemanticWiki.Reason
