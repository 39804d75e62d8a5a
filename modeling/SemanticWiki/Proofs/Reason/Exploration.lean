import Mathlib
import SemanticWiki.Proofs.Reason.Saturation

/-! What the closure of an axiom list holds, table by table. Every class mentioned is listed with the
classes above it and every individual with the classes that it falls into; nobody else is listed.
All of this is found by searches that step on nothing twice. -/

namespace SemanticWiki.Reason

/-- One step for every class mentioned and class above it. -/
noncomputable def explorationPrice (axioms : List Axiom) : Nat :=
  ∑ a ∈ (axioms.flatMap Axiom.classes).toFinset, {b | Above axioms a b}.ncard

variable {axioms : List Axiom} {a i : ElementId} {found : ElementId → List ElementId}

theorem explorationPrice_eq
    (hdistinct : ∀ a ∈ (Hierarchy.ofAxioms axioms).classes, (found a).Nodup)
    (hfound : ∀ a ∈ (Hierarchy.ofAxioms axioms).classes, ∀ b, b ∈ found a ↔ Above axioms a b) :
    explorationPrice axioms =
      ((Hierarchy.ofAxioms axioms).classes.map fun a => (found a).length).sum := by
  have hmentioned : (axioms.flatMap Axiom.classes).toFinset =
      (Hierarchy.ofAxioms axioms).classes.toFinset := by
    ext a
    rw [List.mem_toFinset, List.mem_toFinset, Hierarchy.ofAxioms, List.mem_eraseDups]
  rw [explorationPrice, hmentioned, List.sum_toFinset _ Hierarchy.nodup_classes]
  exact congrArg List.sum (List.map_congr_left fun a ha =>
    ncard_eq_length (hdistinct a ha) (hfound a ha))

namespace Closure

theorem lookup_supers_ofFound : (ofFound axioms found).supers.lookup a =
    if a ∈ (Hierarchy.ofAxioms axioms).classes then some (found a) else none :=
  lookup_graph _ found a

theorem lookup_types_ofFound : (ofFound axioms found).types.lookup i =
    if i ∈ ((axioms.filterMap Axiom.assertion?).map (·.1)).eraseDups then
      some (typesOf (ofFound axioms found).supers (axioms.filterMap Axiom.assertion?) i)
    else none :=
  lookup_graph _ _ i

end Closure

theorem closure_exact (axioms : List Axiom) : ∃ closure,
    (Closure.build axioms).Costs (explorationPrice axioms) closure ∧
    (∀ c, (closure.supers.lookup c).isSome ↔ ∃ ax ∈ axioms, c ∈ ax.classes) ∧
    (∀ c above, closure.supers.lookup c = some above →
      Ascending above ∧ (∀ b, b ∈ above ↔ Above axioms c b) ∧
      ∃ visited, ((Hierarchy.ofAxioms axioms).search (Hierarchy.ofAxioms axioms).classes [c]).Costs
        visited.length visited ∧ visited.Nodup ∧ visited.Perm above) ∧
    (∀ i, (closure.types.lookup i).isSome ↔ ∃ a, .classAssertion i a ∈ axioms) ∧
    ∀ i types, closure.types.lookup i = some types → Ascending types ∧ ∀ c, c ∈ types ↔
      ∃ a above, .classAssertion i a ∈ axioms ∧ closure.supers.lookup a = some above ∧ c ∈ above := by
  obtain ⟨found, hfound, hcosts⟩ := Closure.build_costs_ofFound axioms
  have hprice := explorationPrice_eq (fun a ha => (hfound a ha).1.nodup) fun a ha => (hfound a ha).2
  refine ⟨Closure.ofFound axioms found, hprice ▸ hcosts, fun c => ?_, fun c above habove => ?_,
    fun i => ?_, fun i types htypes => ?_⟩
  · rw [Closure.lookup_supers_ofFound, ← Hierarchy.mem_classes]
    simp
  · rw [Closure.lookup_supers_ofFound, Option.ite_none_right_eq_some] at habove
    obtain ⟨hc, habove⟩ := habove
    obtain rfl := Option.some.inj habove
    obtain ⟨hascending, hmem⟩ := hfound c hc
    obtain ⟨visited, hpaid, hnodup, hvisited⟩ := Hierarchy.search_above_costs hc
    have hsame : visited.Perm (found c) :=
      (List.perm_ext_iff_of_nodup hnodup hascending.nodup).2 fun b =>
        (hvisited b).trans (hmem b).symm
    exact ⟨hascending, hmem, visited, hpaid, hnodup, hsame⟩
  · rw [Closure.lookup_types_ofFound, ← Closure.mem_individuals]
    simp
  · rw [Closure.lookup_types_ofFound, Option.ite_none_right_eq_some] at htypes
    obtain rfl := Option.some.inj htypes.2
    exact ⟨Closure.ascending_union _, fun c => Closure.mem_typesOf_iff⟩

end SemanticWiki.Reason
