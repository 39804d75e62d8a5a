import Mathlib.Tactic.Choose
import SemanticWiki.Proofs.Reason.Reachability
import SemanticWiki.Reason.Closure

/-! The closure of an axiom list says in lists what the axioms say: what lies above a class, which
classes an individual falls into, and what is stated apart from that. It is described by membership
alone, so that the order of its lists does not matter. -/

namespace SemanticWiki.Reason

variable {axioms : List Axiom} {i a b c : ElementId}

def Falls (axioms : List Axiom) (i c : ElementId) : Prop :=
  ∃ a, .classAssertion i a ∈ axioms ∧ Above axioms a c

def Parted (axioms : List Axiom) (a b : ElementId) : Prop :=
  .disjointClasses a b ∈ axioms ∨ .disjointClasses b a ∈ axioms

theorem Falls.above (h : Falls axioms i a) (hab : Above axioms a b) : Falls axioms i b := by
  obtain ⟨x, hx, hxa⟩ := h
  exact ⟨x, hx, hxa.trans hab⟩

theorem Parted.symm (h : Parted axioms a b) : Parted axioms b a := Or.symm h

structure Closure.Reflects (closure : Closure) (axioms : List Axiom) : Prop where
  supers : ∀ a b, b ∈ closure.supersOf a ↔ Above axioms a b
  types : ∀ i types, (i, types) ∈ closure.types → ∀ c, c ∈ types ↔ Falls axioms i c
  typed : ∀ i c, Falls axioms i c → ∃ types, (i, types) ∈ closure.types
  disjoint : ∀ a b, (a, b) ∈ closure.disjoint ↔ Parted axioms a b
  negative : ∀ i c, (i, c) ∈ closure.negative ↔ .negativeClassAssertion i c ∈ axioms
  relations : ∀ a p b, (a, p, b) ∈ closure.relations ↔ .objectPropertyAssertion a p b ∈ axioms

/-- The lists of a closure of `axioms` hold nothing twice, and have an entry for nobody but those who
are stated to belong to some class. -/
structure Closure.Distinct (closure : Closure) (axioms : List Axiom) : Prop where
  supers : ∀ a, (closure.supersOf a).Nodup
  types : ∀ entry ∈ closure.types, entry.2.Nodup
  individuals : (closure.types.map (·.1)).Nodup
  asserted : ∀ i ∈ closure.types.map (·.1), ∃ a, .classAssertion i a ∈ axioms
  negative : closure.negative.Nodup

theorem Above.eq_of_not_mentioned (hab : Above axioms a b)
    (ha : a ∉ (Hierarchy.ofAxioms axioms).classes) : b = a := by
  rcases Relation.ReflTransGen.cases_head hab with rfl | ⟨x, hax, -⟩
  · rfl
  · exact absurd (Hierarchy.mem_classes.2 ⟨.subClassOf a x, hax, by simp [Axiom.classes]⟩) ha

theorem mentioned_of_assertion (h : .classAssertion i a ∈ axioms) :
    a ∈ (Hierarchy.ofAxioms axioms).classes :=
  Hierarchy.mem_classes.2 ⟨.classAssertion i a, h, List.mem_singleton_self a⟩

theorem lookup_graph {β : Type} (keys : List ElementId) (g : ElementId → β) (a : ElementId) :
    (keys.map fun k => (k, g k)).lookup a = if a ∈ keys then some (g a) else none := by
  induction keys with
  | nil => rfl
  | cons k keys ih =>
    rw [List.map_cons, List.lookup_cons]
    by_cases hak : a = k
    · subst hak
      rw [beq_self_eq_true, if_pos List.mem_cons_self]
    · rw [beq_false_of_ne hak, ih]
      simp [hak]

namespace Closure

variable {found : ElementId → List ElementId}

theorem mem_union {sets : List (List ElementId)} : c ∈ union sets ↔ ∃ set ∈ sets, c ∈ set := by
  rw [union, List.mem_mergeSort, List.mem_eraseDups, List.mem_flatten]

theorem ascending_union (sets : List (List ElementId)) : Ascending (union sets) :=
  ascending_mergeSort (nodup_eraseDups _)

theorem mem_asserted :
    (i, c) ∈ axioms.filterMap Axiom.assertion? ↔ .classAssertion i c ∈ axioms := by
  simp [List.mem_filterMap, Axiom.assertion?_eq_some]

theorem mem_individuals :
    i ∈ ((axioms.filterMap Axiom.assertion?).map (·.1)).eraseDups ↔
      ∃ a, .classAssertion i a ∈ axioms := by
  simp [← mem_asserted]

theorem mem_typesOf_iff {supers : List (ElementId × List ElementId)} :
    c ∈ typesOf supers (axioms.filterMap Axiom.assertion?) i ↔
      ∃ a above, .classAssertion i a ∈ axioms ∧ supers.lookup a = some above ∧ c ∈ above := by
  rw [typesOf, mem_union]
  constructor
  · rintro ⟨above, hmem, hc⟩
    obtain ⟨⟨j, a⟩, hkept, hlookup⟩ := List.mem_filterMap.1 hmem
    obtain ⟨hstated, hj⟩ := List.mem_filter.1 hkept
    obtain rfl : j = i := beq_iff_eq.1 hj
    exact ⟨a, above, mem_asserted.1 hstated, hlookup, hc⟩
  · rintro ⟨a, above, hstated, hlookup, hc⟩
    have hkept : (i, a) ∈ (axioms.filterMap Axiom.assertion?).filter (·.1 == i) :=
      List.mem_filter.2 ⟨mem_asserted.2 hstated, beq_self_eq_true i⟩
    exact ⟨above, List.mem_filterMap.2 ⟨(i, a), hkept, hlookup⟩, hc⟩

theorem mem_typesOf
    (hfound : ∀ a ∈ (Hierarchy.ofAxioms axioms).classes, ∀ b, b ∈ found a ↔ Above axioms a b) :
    c ∈ typesOf ((Hierarchy.ofAxioms axioms).classes.map fun a => (a, found a))
      (axioms.filterMap Axiom.assertion?) i ↔ Falls axioms i c := by
  rw [mem_typesOf_iff]
  constructor
  · rintro ⟨a, above, hstated, hlookup, hc⟩
    have hmentioned := mentioned_of_assertion hstated
    rw [lookup_graph, if_pos hmentioned] at hlookup
    obtain rfl := Option.some.inj hlookup
    exact ⟨a, hstated, (hfound a hmentioned c).1 hc⟩
  · rintro ⟨a, hstated, hac⟩
    have hmentioned := mentioned_of_assertion hstated
    refine ⟨a, found a, hstated, ?_, (hfound a hmentioned c).2 hac⟩
    rw [lookup_graph, if_pos hmentioned]

/-- The closure of the axioms when `found` has the classes above each class mentioned. -/
def ofFound (axioms : List Axiom) (found : ElementId → List ElementId) : Closure :=
  let supers := (Hierarchy.ofAxioms axioms).classes.map fun a => (a, found a)
  let asserted := axioms.filterMap Axiom.assertion?
  { supers
    types := (asserted.map (·.1)).eraseDups.map fun i => (i, typesOf supers asserted i)
    disjoint := (axioms.filterMap Axiom.disjoint?).flatMap fun (a, b) => [(a, b), (b, a)]
    negative := (axioms.filterMap Axiom.negative?).eraseDups
    relations := axioms.filterMap Axiom.property? }

theorem supersOf_ofFound (ha : a ∈ (Hierarchy.ofAxioms axioms).classes) :
    (ofFound axioms found).supersOf a = found a := by
  rw [supersOf, ofFound, lookup_graph, if_pos ha, Option.getD_some]

theorem mem_disjoint_ofFound : (a, b) ∈ (ofFound axioms found).disjoint ↔ Parted axioms a b := by
  simp only [ofFound, List.mem_flatMap, List.mem_filterMap, Prod.exists, List.mem_cons,
    Axiom.disjoint?_eq_some, List.not_mem_nil, Prod.mk.injEq, or_false]
  constructor
  · rintro ⟨x, y, ⟨_, hax, rfl⟩, ⟨rfl, rfl⟩ | ⟨rfl, rfl⟩⟩
    · exact .inl hax
    · exact .inr hax
  · rintro (h | h)
    · exact ⟨a, b, ⟨_, h, rfl⟩, .inl ⟨rfl, rfl⟩⟩
    · exact ⟨b, a, ⟨_, h, rfl⟩, .inr ⟨rfl, rfl⟩⟩

theorem reflects_ofFound
    (hfound : ∀ a ∈ (Hierarchy.ofAxioms axioms).classes, ∀ b, b ∈ found a ↔ Above axioms a b) :
    (ofFound axioms found).Reflects axioms where
  supers a b := by
    -- a class that is not mentioned has no entry of its own
    by_cases ha : a ∈ (Hierarchy.ofAxioms axioms).classes
    · rw [supersOf_ofFound ha, hfound a ha]
    · rw [supersOf, ofFound, lookup_graph, if_neg ha, Option.getD_none, List.mem_singleton]
      constructor
      · intro hba
        exact hba ▸ Above.refl b
      · intro hab
        exact hab.eq_of_not_mentioned ha
  types i types hmem c := by
    obtain ⟨j, -, hj⟩ := List.mem_map.1 hmem
    cases hj
    exact mem_typesOf hfound
  typed i c hfalls := by
    obtain ⟨a, hstated, -⟩ := hfalls
    exact ⟨_, List.mem_map.2 ⟨i, mem_individuals.2 ⟨a, hstated⟩, rfl⟩⟩
  disjoint _ _ := mem_disjoint_ofFound
  negative i c := by simp [ofFound, List.mem_filterMap, Axiom.negative?_eq_some]
  relations a p b := by simp [ofFound, List.mem_filterMap, Axiom.property?_eq_some]

theorem individuals_ofFound : (ofFound axioms found).types.map (·.1) =
    ((axioms.filterMap Axiom.assertion?).map (·.1)).eraseDups := by
  simp [ofFound, Function.comp_def]

theorem distinct_ofFound (hfound : ∀ a ∈ (Hierarchy.ofAxioms axioms).classes, (found a).Nodup) :
    (ofFound axioms found).Distinct axioms where
  supers a := by
    by_cases ha : a ∈ (Hierarchy.ofAxioms axioms).classes
    · rw [supersOf_ofFound ha]
      exact hfound a ha
    · rw [supersOf, ofFound, lookup_graph, if_neg ha, Option.getD_none]
      exact List.nodup_singleton a
  types entry hentry := by
    obtain ⟨i, -, rfl⟩ := List.mem_map.1 hentry
    exact (ascending_union _).nodup
  individuals := by
    rw [individuals_ofFound]
    exact nodup_eraseDups _
  asserted i hi := by
    rw [individuals_ofFound] at hi
    exact mem_individuals.1 hi
  negative := nodup_eraseDups _

theorem build_costs_ofFound (axioms : List Axiom) : ∃ found : ElementId → List ElementId,
    (∀ a ∈ (Hierarchy.ofAxioms axioms).classes,
      Ascending (found a) ∧ ∀ b, b ∈ found a ↔ Above axioms a b) ∧
    (build axioms).Costs
      ((Hierarchy.ofAxioms axioms).classes.map fun a => (found a).length).sum
      (ofFound axioms found) := by
  choose! found hcosts hfound using
    fun a (ha : a ∈ (Hierarchy.ofAxioms axioms).classes) => Hierarchy.supers_costs ha
  refine ⟨found, hfound, ?_⟩
  have hsupers : ((Hierarchy.ofAxioms axioms).classes.mapM fun a => do
      return (a, ← (Hierarchy.ofAxioms axioms).supers a)).Costs _ _ :=
    Metered.costs_mapM fun a ha => (hcosts a ha).map fun found => (a, found)
  exact hsupers.map _

theorem build_costs (axioms : List Axiom) :
    ∃ closure, closure.Reflects axioms ∧ closure.Distinct axioms ∧ (build axioms).Costs
      ((Hierarchy.ofAxioms axioms).classes.map fun a => (closure.supersOf a).length).sum
      closure := by
  obtain ⟨found, hfound, hcosts⟩ := build_costs_ofFound axioms
  refine ⟨ofFound axioms found, reflects_ofFound fun a ha => (hfound a ha).2,
    distinct_ofFound fun a ha => (hfound a ha).1.nodup, ?_⟩
  rwa [List.map_congr_left fun a ha => congrArg List.length (supersOf_ofFound ha)]

theorem build_returns (axioms : List Axiom) : (build axioms).Returns (·.Reflects axioms) := by
  obtain ⟨closure, hreflects, -, hcosts⟩ := build_costs axioms
  exact ⟨_, closure, hcosts, hreflects⟩

end Closure

end SemanticWiki.Reason
