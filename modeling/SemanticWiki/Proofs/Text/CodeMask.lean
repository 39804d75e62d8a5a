import Mathlib.Data.Nat.Bitwise
import SemanticWiki.Text.Pieces
import SemanticWiki.Text.CodeSet

/-! Sets of code points, given by ranges or as bits of one number. The tables of the character database
are long, and to look up every entry of one in another takes a step for each pair. Two masks are
compared in one step. -/

namespace SemanticWiki.Text

theorem CodeSet.contains_eq_false {set : CodeSet} {c : Char}
    (houtside : ∀ range ∈ set, c.toNat < range.first ∨ range.last < c.toNat) :
    set.contains c = false := by
  rw [← Bool.not_eq_true]
  intro hcontains
  obtain ⟨range, hrange, hcode⟩ := List.any_eq_true.1 hcontains
  have hc := houtside range hrange
  simp only [Bool.and_eq_true, decide_eq_true_eq] at hcode
  omega

theorem toNat_ofNat {n : Nat} (h : n.isValidChar) : (Char.ofNat n).toNat = n := by
  rw [Char.ofNat, dif_pos h]
  rfl

def mask (codes : List Nat) : Nat := codes.foldr (fun n m => m ||| 1 <<< n) 0

theorem testBit_mask {codes : List Nat} {n : Nat} : (mask codes).testBit n = true ↔ n ∈ codes := by
  induction codes with
  | nil => simp [mask]
  | cons m codes ih =>
    have hcons : mask (m :: codes) = mask codes ||| 1 <<< m := rfl
    rw [hcons, Nat.testBit_or, Bool.or_eq_true, ih, Nat.one_shiftLeft, Nat.testBit_two_pow,
      decide_eq_true_eq, List.mem_cons, or_comm, eq_comm]

def apart (codes others : List Nat) : Bool := mask codes &&& mask others == 0

theorem not_mem_of_apart {codes others : List Nat} (h : apart codes others = true) {n : Nat}
    (hn : n ∈ codes) : n ∉ others := by
  intro hother
  have hboth : (mask codes &&& mask others).testBit n = true := by
    rw [Nat.testBit_and, testBit_mask.2 hn, testBit_mask.2 hother]
    rfl
  rw [beq_iff_eq.1 h, Nat.zero_testBit] at hboth
  cases hboth

def span (first last : Nat) : List Nat := List.range' first (last + 1 - first)

theorem mem_span {first last n : Nat} : n ∈ span first last ↔ first ≤ n ∧ n ≤ last := by
  rw [span, List.mem_range'_1]
  omega

def blankCodes : List Nat :=
  span 0x9 0xD ++ [0x20, 0x85, 0xA0, 0x1680] ++ span 0x2000 0x200A ++
    [0x2028, 0x2029, 0x202F, 0x205F, 0x3000]

theorem mem_blankCodes {c : Char} (hc : isBlank c = true) : c.toNat ∈ blankCodes := by
  have hle (a b : Char) : a ≤ b ↔ a.toNat ≤ b.toNat := UInt32.le_iff_toNat_le
  have htabs : '\t'.toNat ≤ c.toNat ∧ c.toNat ≤ '\r'.toNat → c.toNat ∈ blankCodes := fun h =>
    List.mem_append_left _ (List.mem_append_left _ (List.mem_append_left _ (mem_span.2 h)))
  have hspaces : '\u2000'.toNat ≤ c.toNat ∧ c.toNat ≤ '\u200a'.toNat → c.toNat ∈ blankCodes :=
    fun h => List.mem_append_left _ (List.mem_append_right _ (mem_span.2 h))
  simp only [isBlank, Bool.or_eq_true, Bool.and_eq_true, decide_eq_true_eq, beq_iff_eq, or_assoc,
    hle] at hc
  rcases hc with hc | rfl | rfl | rfl | rfl | hc | rfl | rfl | rfl | rfl | rfl
  · exact htabs hc
  all_goals first
    | exact hspaces hc
    | decide

end SemanticWiki.Text
