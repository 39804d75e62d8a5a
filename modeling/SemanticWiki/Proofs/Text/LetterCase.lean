import SemanticWiki.Text.Pieces
import SemanticWiki.Text.Letter
import SemanticWiki.Text.LetterCase

/-! Letters that are alike, such as the basic capitals and their small letters. Neither blanks nor the
lowercase form of a text depend on which of the two stands in it. -/

namespace SemanticWiki.Text

theorem forall_basic {p : Char → Prop} (h : ∀ n < 128, p (Char.ofNat n)) {c : Char}
    (hc : c.toNat < 0x80) : p c := by
  have hp := h c.toNat hc
  rwa [Char.ofNat_toNat] at hp

theorem toLower_of_not_basic {c : Char} (hc : 0x80 ≤ c.toNat) : c.toLower = c := by
  have hz : ¬ (c.val ≥ 'A'.val ∧ c.val ≤ 'Z'.val) := by
    rintro ⟨-, hle⟩
    have hle : c.toNat ≤ 0x5A := hle
    omega
  exact dif_neg hz

theorem apply_toLower {β : Type} (f : Char → β)
    (h : ∀ n < 128, f (Char.ofNat n).toLower = f (Char.ofNat n)) (c : Char) :
    f c.toLower = f c := by
  by_cases hc : c.toNat < 0x80
  · exact forall_basic (p := fun c => f c.toLower = f c) h hc
  · rw [toLower_of_not_basic (by omega)]

/-- A character that can take the place of another one in any text without a change to the words of the
text or to its lowercase form. -/
structure Alike (c d : Char) : Prop where
  isBlank_eq : isBlank d = isBlank c
  isCaseIgnorable_eq : isCaseIgnorable d = isCaseIgnorable c
  isCased_eq : isCased d = isCased c
  lowerChar_eq : lowerChar d = lowerChar c
  eq_sigma_iff : d = 'Σ' ↔ c = 'Σ'

theorem Alike.refl (c : Char) : Alike c c := ⟨rfl, rfl, rfl, rfl, Iff.rfl⟩

theorem Alike.symm {c d : Char} (h : Alike c d) : Alike d c where
  isBlank_eq := h.isBlank_eq.symm
  isCaseIgnorable_eq := h.isCaseIgnorable_eq.symm
  isCased_eq := h.isCased_eq.symm
  lowerChar_eq := h.lowerChar_eq.symm
  eq_sigma_iff := h.eq_sigma_iff.symm

theorem alike_toLower (c : Char) : Alike c c.toLower where
  isBlank_eq := apply_toLower isBlank (by decide) c
  isCaseIgnorable_eq := apply_toLower isCaseIgnorable (by decide) c
  isCased_eq := apply_toLower isCased (by decide) c
  lowerChar_eq := apply_toLower lowerChar (by decide) c
  eq_sigma_iff := (apply_toLower (· = 'Σ') (by decide) c).to_iff

section Alike

variable {f : Char → Char} (hf : ∀ c, Alike c (f c))
include hf

theorem meetsCased_map (text : List Char) : meetsCased (text.map f) = meetsCased text := by
  have hignored : isCaseIgnorable ∘ f = isCaseIgnorable :=
    funext fun c => (hf c).isCaseIgnorable_eq
  simp only [meetsCased, List.dropWhile_map, hignored]
  cases text.dropWhile isCaseIgnorable with
  | nil => rfl
  | cons c rest => exact (hf c).isCased_eq

theorem lowerAfter_map (before text : List Char) :
    lowerAfter (before.map f) (text.map f) = lowerAfter before text := by
  induction text generalizing before with
  | nil => rfl
  | cons c rest ih =>
    have hrest : lowerAfter (f c :: before.map f) (rest.map f) = lowerAfter (c :: before) rest :=
      ih (c :: before)
    simp only [List.map_cons, lowerAfter, hrest, (hf c).eq_sigma_iff, (hf c).lowerChar_eq,
      meetsCased_map hf]

theorem lower_map (text : List Char) : lower (text.map f) = lower text :=
  lowerAfter_map hf [] text

end Alike

theorem asciiLower_append (front rest : List Char) :
    asciiLower (front ++ rest) = asciiLower front ++ asciiLower rest := List.map_append

theorem asciiLower_asciiLower (text : List Char) : asciiLower (asciiLower text) = asciiLower text := by
  rw [asciiLower, asciiLower, List.map_map]
  exact List.map_congr_left fun c _ => apply_toLower Char.toLower (by decide) c

theorem basic_of_isAlpha {c : Char} (hc : c.isAlpha = true) : c.toNat < 0x80 := by
  change (decide (c.val ≥ 'A'.val ∧ c.val ≤ 'Z'.val) ||
    decide (c.val ≥ 'a'.val) && decide (c.val ≤ 'z'.val)) = true at hc
  simp only [Bool.or_eq_true, Bool.and_eq_true, decide_eq_true_eq, ge_iff_le,
    UInt32.le_iff_toNat_le] at hc
  have hupper : 'Z'.val.toNat = 90 := rfl
  have hlower : 'z'.val.toNat = 122 := rfl
  change c.val.toNat < 128
  omega

theorem basic_of_isDigit {c : Char} (hc : c.isDigit = true) : c.toNat < 0x80 := by
  simp only [Char.isDigit, Bool.and_eq_true, decide_eq_true_eq, ge_iff_le,
    UInt32.le_iff_toNat_le] at hc
  have hnine : '9'.val.toNat = 57 := rfl
  change c.val.toNat < 128
  omega

theorem basic_of_isAlphanum {c : Char} (hc : c.isAlphanum = true) : c.toNat < 0x80 := by
  rcases Bool.or_eq_true_iff.1 hc with hc | hc
  · exact basic_of_isAlpha hc
  · exact basic_of_isDigit hc

theorem isLetter_of_isAlpha {c : Char} (hc : c.isAlpha = true) : isLetter c = true := by
  rw [isLetter, if_pos (basic_of_isAlpha hc), hc]

theorem upperChar_of_isAlpha {c : Char} (hc : c.isAlpha = true) :
    ∃ capital, upperChar c = [capital] ∧ capital.isAlpha = true := by
  have hupper : upperChar c = [c.toUpper] ∧ c.toUpper.isAlpha = true :=
    forall_basic (p := fun c => c.isAlpha = true →
      upperChar c = [c.toUpper] ∧ c.toUpper.isAlpha = true) (by decide) (basic_of_isAlpha hc) hc
  exact ⟨c.toUpper, hupper⟩

end SemanticWiki.Text
