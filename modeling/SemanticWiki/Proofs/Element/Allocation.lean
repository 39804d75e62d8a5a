import Mathlib.Data.List.Nodup
import SemanticWiki.Element.Allocator

/-! Numbers that are asked for one after the other. They rise until the last one has been given away
and a request is refused. The counter moves on from there, so a request after the refused one is
answered again, from the smallest number on. -/

namespace SemanticWiki.Allocator

def answers : Nat → Allocator → List (Except OntologyError ElementId)
  | 0, _ => []
  | n + 1, a => a.allocate.1 :: answers n a.allocate.2

def granted (answers : List (Except OntologyError ElementId)) : List Nat :=
  answers.filterMap fun answer => answer.toOption.map (·.val)

def Exhausted (answer : Except OntologyError ElementId) : Prop := answer = .error .numbersExhausted

def answerAt (n : Nat) : Except OntologyError ElementId :=
  match ElementId.ofNat? n with
  | some id => .ok id
  | none => .error .numbersExhausted

def numberAt (a : Allocator) (n : Nat) : Nat := (a.next.toNat + n) % UInt64.size

variable {a : Allocator} {m n : Nat}

theorem exhausted_answerAt (hn : n < UInt64.size) : Exhausted (answerAt n) ↔ n = 0 := by
  unfold Exhausted answerAt ElementId.ofNat? Serial.ofNat?
  by_cases hpos : 0 < n
  · simp [hpos, hn, Nat.ne_of_gt hpos]
  · simp [Nat.eq_zero_of_not_pos hpos]

theorem granted_answerAt (hn : n < UInt64.size) :
    (answerAt n).toOption.map (·.val) = if n = 0 then none else some n := by
  unfold answerAt ElementId.ofNat? Serial.ofNat?
  by_cases hpos : 0 < n
  · simp [hpos, hn, Nat.ne_of_gt hpos, Except.toOption]
  · simp [Nat.eq_zero_of_not_pos hpos, Except.toOption]

theorem allocate_eq (a : Allocator) : a.allocate.1 = answerAt a.next.toNat := by
  unfold allocate answerAt ElementId.ofNat? Serial.ofNat?
  by_cases hpos : 0 < a.next.toNat
  · simp [hpos, a.next.toNat_lt_size]
  · simp [hpos]

theorem numberAt_lt (a : Allocator) (n : Nat) : a.numberAt n < UInt64.size :=
  Nat.mod_lt _ (by decide)

theorem numberAt_allocate (a : Allocator) (n : Nat) : a.allocate.2.numberAt n = a.numberAt (n + 1) := by
  have hnext : a.allocate.2.next.toNat = (a.next.toNat + 1) % UInt64.size := UInt64.toNat_add a.next 1
  rw [numberAt, numberAt, hnext, Nat.mod_add_mod, Nat.add_right_comm, Nat.add_assoc]

theorem answers_eq (n : Nat) (a : Allocator) :
    a.answers n = (List.range n).map fun k => answerAt (a.numberAt k) := by
  induction n generalizing a with
  | zero => rfl
  | succ n ih =>
    have hfirst : a.numberAt 0 = a.next.toNat := Nat.mod_eq_of_lt a.next.toNat_lt_size
    rw [answers, ih, List.range_succ_eq_map, List.map_cons, List.map_map, allocate_eq, hfirst]
    simp only [numberAt_allocate, Function.comp_def, Nat.succ_eq_add_one]

theorem pairwise_answers_iff {R : Except OntologyError ElementId → Except OntologyError ElementId → Prop} :
    (a.answers n).Pairwise R ↔
      ∀ i j, i < j → j < n → R (answerAt (a.numberAt i)) (answerAt (a.numberAt j)) := by
  rw [answers_eq, List.pairwise_map, List.pairwise_iff_getElem]
  simp only [List.length_range, List.getElem_range]
  exact ⟨fun h i j hij hj => h i j (Nat.lt_trans hij hj) hj hij,
    fun h i j _ hj hij => h i j hij hj⟩

theorem pairwise_granted_iff {R : Nat → Nat → Prop} :
    (granted (a.answers n)).Pairwise R ↔
      ∀ i j, i < j → j < n → a.numberAt i ≠ 0 → a.numberAt j ≠ 0 →
        R (a.numberAt i) (a.numberAt j) := by
  rw [granted, List.pairwise_filterMap, pairwise_answers_iff]
  simp only [granted_answerAt (numberAt_lt a _), Option.ite_none_left_eq_some, Option.some.injEq]
  constructor
  · intro h i j hij hj hi0 hj0
    exact h i j hij hj _ ⟨hi0, rfl⟩ _ ⟨hj0, rfl⟩
  · rintro h i j hij hj _ ⟨hi0, rfl⟩ _ ⟨hj0, rfl⟩
    exact h i j hij hj hi0 hj0

def RefusesForGood (answers : List (Except OntologyError ElementId)) : Prop :=
  answers.Pairwise fun earlier later => Exhausted earlier → Exhausted later

theorem refusesForGood_iff : RefusesForGood (a.answers n) ↔
    ∀ i j, i < j → j < n → a.numberAt i = 0 → a.numberAt j = 0 := by
  rw [RefusesForGood, pairwise_answers_iff]
  simp only [exhausted_answerAt (numberAt_lt a _)]

def first (start : UInt64) : Nat := if start = 0 then 1 else start.toNat

theorem first_pos (start : UInt64) : 0 < first start := by
  unfold first
  split
  · exact Nat.one_pos
  · rename_i hstart
    exact Nat.pos_of_ne_zero fun h => hstart (UInt64.toNat_inj.1 h)

theorem first_lt (start : UInt64) : first start < UInt64.size := by
  unfold first
  split
  · decide
  · exact start.toNat_lt_size

theorem numberAt_startingAt (start : UInt64) (n : Nat) :
    (startingAt start).numberAt n = (first start + n) % UInt64.size := by
  unfold numberAt startingAt first
  split <;> rfl

/-! The counter meets zero for the first time at the request `UInt64.size - first start`, counted from
zero, and one request later it is at the smallest number. -/

theorem rises_iff (start : UInt64) (n : Nat) :
    (granted ((startingAt start).answers n)).Pairwise (· < ·) ↔
      first start + n ≤ UInt64.size + 1 := by
  have hpos := first_pos start
  have hlt := first_lt start
  simp only [pairwise_granted_iff, numberAt_startingAt]
  generalize first start = k at hpos hlt
  simp only [UInt64.size] at hlt ⊢
  constructor
  · intro h
    by_contra hround
    have hfalls := h (18446744073709551615 - k) (18446744073709551617 - k)
    omega
  · intro h i j hij hj hi0 hj0
    omega

theorem refuses_iff (start : UInt64) (n : Nat) :
    RefusesForGood ((startingAt start).answers n) ↔ first start + n ≤ UInt64.size + 1 := by
  have hpos := first_pos start
  have hlt := first_lt start
  simp only [refusesForGood_iff, numberAt_startingAt]
  generalize first start = k at hpos hlt
  simp only [UInt64.size] at hlt ⊢
  constructor
  · intro h
    by_contra hround
    have hagain := h (18446744073709551616 - k) (18446744073709551617 - k)
    omega
  · intro h i j hij hj hi0
    omega

theorem nodup_granted_iff (start : UInt64) (n : Nat) :
    (granted ((startingAt start).answers n)).Nodup ↔ n ≤ UInt64.size := by
  have hpos := first_pos start
  have hlt := first_lt start
  simp only [List.Nodup, pairwise_granted_iff, numberAt_startingAt]
  generalize first start = k at hpos hlt
  simp only [UInt64.size] at hlt ⊢
  constructor
  · intro h
    by_contra hround
    have hrepeated := h 0 18446744073709551616
    omega
  · intro h i j hij hj hi0 hj0
    omega

theorem numbers_rise_iff (start : UInt64) (n : Nat) :
    let answers := (startingAt start).answers n
    ((granted answers).Pairwise (· < ·) ↔ first start + n ≤ UInt64.size + 1) ∧
      (RefusesForGood answers ↔ first start + n ≤ UInt64.size + 1) ∧
      ((granted answers).Nodup ↔ n ≤ UInt64.size) :=
  ⟨rises_iff start n, refuses_iff start n, nodup_granted_iff start n⟩

theorem smallest_number_after_refusal :
    let answers := (startingAt 18446744073709551615).answers 3
    answers = [answerAt 18446744073709551615, .error .numbersExhausted, .ok ⟨.first⟩] ∧
      granted answers = [18446744073709551615, 1] ∧ ¬ (granted answers).Pairwise (· < ·) ∧
      ¬ RefusesForGood answers := by
  intro answers
  have hanswers : answers =
      [answerAt 18446744073709551615, .error .numbersExhausted, .ok ⟨.first⟩] := by decide
  have hgranted : granted answers = [18446744073709551615, 1] := by decide
  refine ⟨hanswers, hgranted, ?_, ?_⟩
  · rw [hgranted]
    decide
  · rw [hanswers, RefusesForGood]
    simp [Exhausted]

end SemanticWiki.Allocator
