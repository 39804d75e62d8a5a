import Mathlib.Logic.Relation
import SemanticWiki.Proofs.Distinct
import SemanticWiki.Proofs.Reason.Metered
import SemanticWiki.Reason.Hierarchy

/-! Depth-first search finds exactly the classes above a class, in a hierarchy that may have cycles.
The search is described by what it has visited when it comes back: nothing but what can be reached
from the stack, all of the stack, and with a visited class everything right above it, as far as
these classes were open to the search. -/

namespace SemanticWiki

namespace Axiom

variable {ax : Axiom} {a b c : ElementId}

theorem subClass?_eq_some : ax.subClass? = some (a, b) ↔ ax = subClassOf a b := by
  cases ax <;> simp [subClass?]

theorem disjoint?_eq_some : ax.disjoint? = some (a, b) ↔ ax = disjointClasses a b := by
  cases ax <;> simp [disjoint?]

theorem assertion?_eq_some : ax.assertion? = some (a, b) ↔ ax = classAssertion a b := by
  cases ax <;> simp [assertion?]

theorem negative?_eq_some : ax.negative? = some (a, b) ↔ ax = negativeClassAssertion a b := by
  cases ax <;> simp [negative?]

theorem property?_eq_some : ax.property? = some (a, b, c) ↔ ax = objectPropertyAssertion a b c := by
  cases ax <;> simp [property?]

end Axiom

namespace Reason

variable {axioms : List Axiom} {a b c : ElementId}

/-- The subclass axioms lead from `a` up to `b` in some number of steps, none included. -/
def Above (axioms : List Axiom) : ElementId → ElementId → Prop :=
  Relation.ReflTransGen fun sub sup => Axiom.subClassOf sub sup ∈ axioms

theorem Above.refl (a : ElementId) : Above axioms a a := Relation.ReflTransGen.refl

theorem Above.trans (hab : Above axioms a b) (hbc : Above axioms b c) : Above axioms a c :=
  Relation.ReflTransGen.trans hab hbc

theorem Above.single (h : .subClassOf a b ∈ axioms) : Above axioms a b :=
  Relation.ReflTransGen.single h

def Ascending (ids : List ElementId) : Prop := ids.Pairwise (·.val < ·.val)

theorem Ascending.nodup {ids : List ElementId} (h : Ascending ids) : ids.Nodup := by
  refine List.Pairwise.imp (fun {i j} hlt => ?_) h
  rintro rfl
  exact Nat.lt_irrefl _ hlt

theorem ascending_mergeSort {ids : List ElementId} (h : ids.Nodup) :
    Ascending (ids.mergeSort fun a b => a.val ≤ b.val) :=
  pairwise_mergeSort_of_nodup (fun _ _ => ElementId.eq_of_val) h

namespace Hierarchy

variable {h : Hierarchy} {unvisited stack visited : List ElementId}

/-- What a search has visited when it started with the classes on the stack and was free to visit
the classes `unvisited`. -/
structure Visits (h : Hierarchy) (unvisited stack visited : List ElementId) : Prop where
  subset : visited ⊆ unvisited
  reached : ∀ b ∈ visited, ∃ a ∈ stack, Relation.ReflTransGen (fun x y => y ∈ h.above x) a b
  covers : ∀ a ∈ stack, a ∈ unvisited → a ∈ visited
  closed : ∀ a ∈ visited, ∀ b ∈ h.above a, b ∈ unvisited → b ∈ visited
  once : unvisited.Nodup → visited.Nodup

theorem visits_nil : h.Visits unvisited [] [] where
  subset := List.nil_subset unvisited
  reached := by simp
  covers := by simp
  closed := by simp
  once := fun _ => List.nodup_nil

theorem Visits.skip (hv : h.Visits unvisited stack visited) (ha : a ∉ unvisited) :
    h.Visits unvisited (a :: stack) visited where
  subset := hv.subset
  reached b hb := by
    obtain ⟨x, hx, hxb⟩ := hv.reached b hb
    exact ⟨x, List.mem_cons_of_mem a hx, hxb⟩
  covers x hx hopen := by
    rcases List.mem_cons.1 hx with rfl | hx
    · exact absurd hopen ha
    · exact hv.covers x hx hopen
  closed := hv.closed
  once := hv.once

/-- A class that is visited is closed to the rest of the search, which starts with what is right
above it. -/
theorem Visits.visit (ha : a ∈ unvisited)
    (hv : h.Visits (unvisited.erase a) (h.above a ++ stack) visited) :
    h.Visits unvisited (a :: stack) (a :: visited) where
  subset := List.cons_subset.2 ⟨ha, fun b hb => List.mem_of_mem_erase (hv.subset hb)⟩
  reached b hb := by
    rcases List.mem_cons.1 hb with rfl | hb
    · exact ⟨b, List.mem_cons_self, .refl⟩
    · obtain ⟨x, hx, hxb⟩ := hv.reached b hb
      rcases List.mem_append.1 hx with hx | hx
      · exact ⟨a, List.mem_cons_self, .head hx hxb⟩
      · exact ⟨x, List.mem_cons_of_mem a hx, hxb⟩
  covers x hx hopen := by
    by_cases hxa : x = a
    · exact hxa ▸ List.mem_cons_self
    · have hstack : x ∈ stack := (List.mem_cons.1 hx).resolve_left hxa
      exact List.mem_cons_of_mem a
        (hv.covers x (List.mem_append_right _ hstack) ((List.mem_erase_of_ne hxa).2 hopen))
  closed x hx b hb hopen := by
    by_cases hba : b = a
    · exact hba ▸ List.mem_cons_self
    · have hrest : b ∈ unvisited.erase a := (List.mem_erase_of_ne hba).2 hopen
      rcases List.mem_cons.1 hx with rfl | hx
      · exact List.mem_cons_of_mem x (hv.covers b (List.mem_append_left _ hb) hrest)
      · exact List.mem_cons_of_mem a (hv.closed x hx b hb hrest)
  once hnodup := List.nodup_cons.2
    ⟨fun hmem => hnodup.not_mem_erase (hv.subset hmem), hv.once (hnodup.erase a)⟩

theorem search_costs (h : Hierarchy) (unvisited stack : List ElementId) :
    ∃ visited, (h.search unvisited stack).Costs visited.length visited ∧
      h.Visits unvisited stack visited := by
  induction unvisited, stack using search.induct h with
  | case1 unvisited =>
    refine ⟨[], ?_, visits_nil⟩
    rw [search]
    exact Metered.costs_pure []
  | case2 unvisited a stack hopen ih =>
    -- the one step is paid for `a`, the others for what the rest of the search visits
    obtain ⟨visited, hcosts, hv⟩ := ih
    refine ⟨a :: visited, ?_, hv.visit hopen⟩
    rw [search, dif_pos hopen, List.length_cons, Nat.add_comm]
    exact Metered.costs_tick.bind (hcosts.map (List.cons a))
  | case3 unvisited a stack hclosed ih =>
    obtain ⟨visited, hcosts, hv⟩ := ih
    refine ⟨visited, ?_, hv.skip hclosed⟩
    rw [search, dif_neg hclosed]
    exact hcosts

theorem mem_above : b ∈ (ofAxioms axioms).above a ↔ .subClassOf a b ∈ axioms := by
  simp [above, ofAxioms, List.mem_filterMap, Axiom.subClass?_eq_some]

theorem mem_classes : c ∈ (ofAxioms axioms).classes ↔ ∃ ax ∈ axioms, c ∈ ax.classes := by
  rw [ofAxioms, List.mem_eraseDups, List.mem_flatMap]

theorem nodup_classes : (ofAxioms axioms).classes.Nodup := nodup_eraseDups _

theorem Visits.mem_iff (hc : c ∈ (ofAxioms axioms).classes)
    (hv : (ofAxioms axioms).Visits (ofAxioms axioms).classes [c] visited) :
    b ∈ visited ↔ Above axioms c b := by
  constructor
  · intro hb
    obtain ⟨a, ha, hab⟩ := hv.reached b hb
    rw [List.mem_singleton.1 ha] at hab
    exact Relation.ReflTransGen.mono (fun x y hxy => mem_above.1 hxy) c b hab
  · intro hb
    -- along the steps that lead up to `b`: whatever a visited class is below is mentioned, and so
    -- it was open to the search
    induction hb with
    | refl => exact hv.covers c (List.mem_singleton_self c) hc
    | @tail x y _ hxy ih =>
      have hy : y ∈ (ofAxioms axioms).classes :=
        mem_classes.2 ⟨.subClassOf x y, hxy, by simp [Axiom.classes]⟩
      exact hv.closed x ih y (mem_above.2 hxy) hy

theorem search_above_costs (hc : c ∈ (ofAxioms axioms).classes) :
    ∃ visited, ((ofAxioms axioms).search (ofAxioms axioms).classes [c]).Costs visited.length visited ∧
      visited.Nodup ∧ ∀ b, b ∈ visited ↔ Above axioms c b := by
  obtain ⟨visited, hcosts, hv⟩ := search_costs (ofAxioms axioms) (ofAxioms axioms).classes [c]
  exact ⟨visited, hcosts, hv.once nodup_classes, fun b => hv.mem_iff hc⟩

theorem supers_costs (hc : c ∈ (ofAxioms axioms).classes) :
    ∃ found, ((ofAxioms axioms).supers c).Costs found.length found ∧ Ascending found ∧
      ∀ b, b ∈ found ↔ Above axioms c b := by
  obtain ⟨visited, hcosts, hnodup, hmem⟩ := search_above_costs hc
  refine ⟨visited.mergeSort fun a b => a.val ≤ b.val, ?_, ascending_mergeSort hnodup, fun b => ?_⟩
  · rw [List.length_mergeSort]
    exact hcosts.map fun visited => visited.mergeSort fun a b => a.val ≤ b.val
  · rw [List.mem_mergeSort]
    exact hmem b

end Hierarchy

end Reason

end SemanticWiki
