import SemanticWiki.Proofs.Reason.Saturation
import SemanticWiki.Reason.Backend

/-! What the verdicts of saturation decide about the axioms, in whatever order the closure is
tested. -/

namespace SemanticWiki.Reason

/-- Some individual falls into two disjoint classes, or into a class that it is stated not to
belong to. -/
inductive Contradictory (axioms : List Axiom) : Prop where
  | parted {i a b : ElementId} (ha : Falls axioms i a) (hb : Falls axioms i b)
    (hab : Parted axioms a b)
  | denied {i c : ElementId} (hdenied : .negativeClassAssertion i c ∈ axioms)
    (hc : Falls axioms i c)

/-- Disjointness handed down to the classes below two disjoint classes. -/
def Apart (axioms : List Axiom) (a b : ElementId) : Prop :=
  ∃ x y, Above axioms a x ∧ Above axioms b y ∧ Parted axioms x y

/-- The individual is stated not to belong to a class above `c`, or falls into a class that is
disjoint with one above `c`. -/
inductive Excluded (axioms : List Axiom) (i c : ElementId) : Prop where
  | denied {a : ElementId} (hdenied : .negativeClassAssertion i a ∈ axioms)
    (ha : Above axioms c a)
  | parted {a b : ElementId} (ha : Falls axioms i a) (hb : Above axioms c b)
    (hab : Parted axioms a b)

def Derives (axioms : List Axiom) : Axiom → Prop
  | .subClassOf sub sup => Above axioms sub sup ∨ Apart axioms sub sub
  | .disjointClasses first second => Apart axioms first second
  | .classAssertion individual cls => Falls axioms individual cls
  | .negativeClassAssertion individual cls => Excluded axioms individual cls
  | .objectPropertyAssertion subject property object =>
    .objectPropertyAssertion subject property object ∈ axioms

variable {axioms : List Axiom} {closure : Closure} {i c : ElementId}

namespace Closure

theorem Reflects.lookup_types (hc : closure.Reflects axioms) (i : ElementId) :
    (∃ types, closure.types.lookup i = some types ∧ ∀ c, c ∈ types ↔ Falls axioms i c) ∨
      (closure.types.lookup i = none ∧ ∀ c, ¬ Falls axioms i c) := by
  cases hlookup : closure.types.lookup i with
  | some types =>
    obtain ⟨before, after, hsplit, -⟩ := List.lookup_eq_some_iff.1 hlookup
    have hmem : (i, types) ∈ closure.types := by simp [hsplit]
    exact .inl ⟨types, rfl, hc.types i types hmem⟩
  | none =>
    refine .inr ⟨rfl, fun c hfalls => ?_⟩
    obtain ⟨types, hmem⟩ := hc.typed i c hfalls
    simpa using List.lookup_eq_none_iff.1 hlookup (i, types) hmem

theorem Reflects.hasType (hc : closure.Reflects axioms) :
    closure.hasType i c = true ↔ Falls axioms i c := by
  unfold Closure.hasType
  rcases hc.lookup_types i with ⟨types, hlookup, htypes⟩ | ⟨hlookup, hnone⟩
  · rw [hlookup, Option.getD_some, List.contains_iff_mem, htypes]
  · rw [hlookup, Option.getD_none]
    simp [hnone c]

theorem anyPaid_decides {α : Type} (test : α → Bool) (as : List α) :
    (anyPaid test as).Decides (∃ a ∈ as, test a = true) := by
  induction as with
  | nil => exact Metered.decides_pure (by simp)
  | cons a as ih =>
    refine Metered.returns_tick_bind ?_
    cases ha : test a with
    | true => exact Metered.decides_pure (by simp [ha])
    | false => exact Metered.Decides.congr ih (by simp [ha])

theorem Reflects.clash_decides (hc : closure.Reflects axioms) (left right : List ElementId) :
    (closure.clash left right).Decides (∃ a ∈ left, ∃ b ∈ right, Parted axioms a b) := by
  refine (anyPaid_decides _ _).congr ?_
  simp only [List.mem_flatMap, List.mem_map, List.contains_iff_mem]
  constructor
  · rintro ⟨_, ⟨a, ha, b, hb, rfl⟩, hpair⟩
    exact ⟨a, ha, b, hb, (hc.disjoint a b).1 hpair⟩
  · rintro ⟨a, ha, b, hb, hparted⟩
    exact ⟨(a, b), ⟨a, ha, b, hb, rfl⟩, (hc.disjoint a b).2 hparted⟩

theorem Reflects.anyClash_decides (hc : closure.Reflects axioms)
    (entries : List (ElementId × List ElementId)) :
    (closure.anyClash entries).Decides
      (∃ entry ∈ entries, ∃ a ∈ entry.2, ∃ b ∈ entry.2, Parted axioms a b) := by
  induction entries with
  | nil => exact Metered.decides_pure (by simp)
  | cons entry entries ih =>
    refine ((hc.clash_decides entry.2 entry.2).or ih).congr ?_
    simp only [List.mem_cons, exists_eq_or_imp]

theorem Reflects.clash_supersOf_decides (hc : closure.Reflects axioms) (a b : ElementId) :
    (closure.clash (closure.supersOf a) (closure.supersOf b)).Decides (Apart axioms a b) := by
  refine (hc.clash_decides _ _).congr ?_
  simp only [hc.supers, Apart]
  constructor
  · rintro ⟨x, hx, y, hy, hxy⟩
    exact ⟨x, y, hx, hy, hxy⟩
  · rintro ⟨x, y, hx, hy, hxy⟩
    exact ⟨x, hx, y, hy, hxy⟩

theorem Reflects.clashing_entry (hc : closure.Reflects axioms) :
    (∃ entry ∈ closure.types, ∃ a ∈ entry.2, ∃ b ∈ entry.2, Parted axioms a b) ↔
      ∃ i a b, Falls axioms i a ∧ Falls axioms i b ∧ Parted axioms a b := by
  constructor
  · rintro ⟨⟨i, types⟩, hmem, a, ha, b, hb, hab⟩
    have htypes := hc.types i types hmem
    exact ⟨i, a, b, (htypes a).1 ha, (htypes b).1 hb, hab⟩
  · rintro ⟨i, a, b, ha, hb, hab⟩
    obtain ⟨types, hmem⟩ := hc.typed i a ha
    have htypes := hc.types i types hmem
    exact ⟨(i, types), hmem, a, (htypes a).2 ha, b, (htypes b).2 hb, hab⟩

theorem Reflects.violated_denial (hc : closure.Reflects axioms) :
    (∃ pair ∈ closure.negative, closure.hasType pair.1 pair.2 = true) ↔
      ∃ i c, .negativeClassAssertion i c ∈ axioms ∧ Falls axioms i c := by
  simp only [hc.hasType, Prod.exists, hc.negative]

theorem Reflects.consistent_decides (hc : closure.Reflects axioms) :
    closure.consistent.Decides (¬ Contradictory axioms) := by
  -- negative assertions are only looked at if no individual falls into disjoint classes
  refine Metered.Returns.bind (hc.anyClash_decides closure.types) fun clashes hclashes => ?_
  rw [hc.clashing_entry] at hclashes
  cases clashes with
  | true =>
    obtain ⟨i, a, b, ha, hb, hab⟩ := hclashes.1 rfl
    exact Metered.decides_pure ⟨fun h => (Bool.false_ne_true h).elim,
      fun h => absurd (.parted ha hb hab) h⟩
  | false =>
    refine Metered.Returns.bind (anyPaid_decides _ _) fun violated hviolated => ?_
    refine Metered.decides_pure ?_
    rw [hc.violated_denial] at hviolated
    rw [Bool.not_eq_true', ← Bool.not_eq_true, hviolated, not_iff_not]
    constructor
    · rintro ⟨i, c, hdenied, hfalls⟩
      exact .denied hdenied hfalls
    · intro hcontra
      cases hcontra with
      | parted ha hb hab => exact absurd (hclashes.2 ⟨_, _, _, ha, hb, hab⟩) Bool.false_ne_true
      | denied hdenied hfalls => exact ⟨_, _, hdenied, hfalls⟩

theorem Reflects.denied_decides (hc : closure.Reflects axioms) (i c : ElementId) :
    (anyPaid (fun (j, x) => j == i && (closure.supersOf c).contains x) closure.negative).Decides
      (∃ a, .negativeClassAssertion i a ∈ axioms ∧ Above axioms c a) := by
  refine (anyPaid_decides _ _).congr ?_
  simp only [Prod.exists, hc.negative, Bool.and_eq_true, beq_iff_eq, List.contains_iff_mem,
    hc.supers]
  constructor
  · rintro ⟨_, a, hdenied, rfl, ha⟩
    exact ⟨a, hdenied, ha⟩
  · rintro ⟨a, hdenied, ha⟩
    exact ⟨i, a, hdenied, rfl, ha⟩

theorem Reflects.barred_decides (hc : closure.Reflects axioms) (i c : ElementId) :
    (match closure.types.lookup i with
      | some types => closure.clash types (closure.supersOf c)
      | none => return false : Metered Bool).Decides
      (∃ a b, Falls axioms i a ∧ Above axioms c b ∧ Parted axioms a b) := by
  rcases hc.lookup_types i with ⟨types, hlookup, htypes⟩ | ⟨hlookup, hnone⟩
  · rw [hlookup]
    refine (hc.clash_decides types (closure.supersOf c)).congr ?_
    simp only [htypes, hc.supers]
    constructor
    · rintro ⟨a, ha, b, hb, hab⟩
      exact ⟨a, b, ha, hb, hab⟩
    · rintro ⟨a, b, ha, hb, hab⟩
      exact ⟨a, ha, b, hb, hab⟩
  · rw [hlookup]
    exact Metered.decides_pure (by simp [hnone])

theorem Reflects.entails_decides (hc : closure.Reflects axioms) (ax : Axiom) :
    (closure.entails ax).Decides (Derives axioms ax) := by
  cases ax with
  | subClassOf sub sup =>
    have hcontains : (closure.supersOf sub).contains sup = true ↔ Above axioms sub sup :=
      List.contains_iff_mem.trans (hc.supers sub sup)
    exact Metered.Decides.test hcontains (hc.clash_supersOf_decides sub sub)
  | disjointClasses first second => exact hc.clash_supersOf_decides first second
  | classAssertion individual cls => exact Metered.decides_pure hc.hasType
  | negativeClassAssertion individual cls =>
    refine ((hc.denied_decides individual cls).or
      (hc.barred_decides individual cls)).congr ?_
    constructor
    · rintro (⟨a, hdenied, ha⟩ | ⟨a, b, ha, hb, hab⟩)
      · exact .denied hdenied ha
      · exact .parted ha hb hab
    · intro hexcluded
      cases hexcluded with
      | denied hdenied ha => exact .inl ⟨_, hdenied, ha⟩
      | parted ha hb hab => exact .inr ⟨_, _, ha, hb, hab⟩
  | objectPropertyAssertion subject property object =>
    exact Metered.decides_pure
      (List.contains_iff_mem.trans (hc.relations subject property object))

end Closure

namespace IterationOrder

theorem arrange_reflects (order : IterationOrder) (hc : closure.Reflects axioms) :
    (order.arrange closure).Reflects axioms where
  supers := hc.supers
  types i types hmem := hc.types i types ((order.types_perm _).mem_iff.1 hmem)
  typed i c hfalls := by
    obtain ⟨types, hmem⟩ := hc.typed i c hfalls
    exact ⟨types, (order.types_perm _).mem_iff.2 hmem⟩
  disjoint := hc.disjoint
  negative i c := (order.negative_perm _).mem_iff.trans (hc.negative i c)
  relations := hc.relations

def Affirmed : Query → Prop
  | .consistency set => ¬ Contradictory set.axioms
  | .entailment set ax => Contradictory set.axioms ∨ Derives set.axioms ax

theorem verdict_decides (order : IterationOrder) (query : Query) :
    (order.verdict query).Decides (Affirmed query) := by
  cases query with
  | consistency set =>
    exact Metered.Returns.bind (Closure.build_returns set.axioms) fun closure hc =>
      (order.arrange_reflects hc).consistent_decides
  | entailment set ax =>
    refine Metered.Returns.bind (Closure.build_returns set.axioms) fun closure hc => ?_
    have hc' := order.arrange_reflects hc
    refine Metered.Returns.bind hc'.consistent_decides fun consistent hconsistent => ?_
    cases consistent with
    | true =>
      have hnot : ¬ Contradictory set.axioms := hconsistent.1 rfl
      exact (hc'.entails_decides ax).congr ⟨.inr, fun h => h.resolve_left hnot⟩
    | false =>
      have hcontra : Contradictory set.axioms := by
        by_contra hnot
        exact Bool.false_ne_true (hconsistent.2 hnot)
      exact Metered.decides_pure ⟨fun _ => .inl hcontra, fun _ => rfl⟩

variable {order : IterationOrder} {budget : Nat} {query : Query}

theorem ask_ok {answer : Bool} (h : order.ask budget query = .ok answer) :
    answer = true ↔ Affirmed query := by
  unfold ask at h
  cases hwithin : (order.verdict query).within budget with
  | some v =>
    rw [hwithin] at h
    cases h
    exact Metered.Returns.of_within (order.verdict_decides query) hwithin
  | none =>
    rw [hwithin] at h
    cases h

theorem ask_error {e : ReasonError} (h : order.ask budget query = .error e) :
    e = .budgetExceeded budget := by
  unfold ask at h
  cases hwithin : (order.verdict query).within budget with
  | some v => rw [hwithin] at h; cases h
  | none => rw [hwithin] at h; cases h; rfl

theorem ask_answers (order : IterationOrder) (query : Query) :
    ∃ enough, ∀ budget, enough ≤ budget → ∃ answer, order.ask budget query = .ok answer := by
  obtain ⟨enough, henough⟩ := (order.verdict_decides query).exists_budget
  refine ⟨enough, fun budget hbudget => ?_⟩
  obtain ⟨answer, hanswer⟩ := henough budget hbudget
  exact ⟨answer, by rw [ask, hanswer]⟩

end IterationOrder

end SemanticWiki.Reason
