import SemanticWiki.Proofs.Text.CodeMask
import SemanticWiki.Proofs.Text.LetterCase

/-! The accented letters of the Latin block. They have their capitals in the same block, and like the
basic letters they are alike in both cases. -/

namespace SemanticWiki.Text

def accentedCodes : List Nat := span 0xE0 0xF6 ++ span 0xF8 0xFE

def accentedCapital (n : Nat) : Char := Char.ofNat (n - 0x20)

-- as in the other tables, the characters of the literal are listed before it is taken apart
set_option maxRecDepth 1000000 in
theorem caseIgnorable_apart :
    (caseIgnorable.all fun range => range.last < 0xC0 || 0xFF < range.first) = true := by
  unfold caseIgnorable CodeSet.ofText
  rw [String.toList_ofList]
  decide +kernel

theorem isCaseIgnorable_of_latin {c : Char} (hfirst : 0xC0 ≤ c.toNat) (hlast : c.toNat ≤ 0xFF) :
    isCaseIgnorable c = false := by
  rw [isCaseIgnorable, if_neg (by omega)]
  refine CodeSet.contains_eq_false fun range hrange => ?_
  have houtside := List.all_eq_true.1 caseIgnorable_apart range hrange
  simp only [Bool.or_eq_true, decide_eq_true_eq] at houtside
  omega

set_option maxRecDepth 1000000 in
theorem isCased_accented : ∀ n ∈ accentedCodes,
    isCased (Char.ofNat n) = true ∧ isCased (accentedCapital n) = true := by
  unfold isCased casedLetters CodeSet.ofText
  rw [String.toList_ofList]
  decide +kernel

theorem upperChar_accented : ∀ n ∈ accentedCodes,
    upperChar (Char.ofNat n) = [accentedCapital n] ∧
      upperChar (accentedCapital n) = [accentedCapital n] := by
  decide +kernel

theorem alike_accented {n : Nat} (hn : n ∈ accentedCodes) :
    Alike (Char.ofNat n) (accentedCapital n) := by
  have hlatin : ∀ m ∈ accentedCodes, 0xC0 ≤ (accentedCapital m).toNat ∧
      (accentedCapital m).toNat ≤ 0xFF ∧ 0xC0 ≤ (Char.ofNat m).toNat ∧ (Char.ofNat m).toNat ≤ 0xFF := by
    decide +kernel
  have hrest : ∀ m ∈ accentedCodes, isBlank (accentedCapital m) = isBlank (Char.ofNat m) ∧
      lowerChar (accentedCapital m) = lowerChar (Char.ofNat m) ∧
      (accentedCapital m = 'Σ' ↔ Char.ofNat m = 'Σ') := by
    decide +kernel
  obtain ⟨hfirst, hlast, hfirst', hlast'⟩ := hlatin n hn
  obtain ⟨hcased, hcased'⟩ := isCased_accented n hn
  obtain ⟨hblank, hsmall, hsigma⟩ := hrest n hn
  exact {
    isBlank_eq := hblank
    isCaseIgnorable_eq := by
      rw [isCaseIgnorable_of_latin hfirst hlast, isCaseIgnorable_of_latin hfirst' hlast']
    isCased_eq := hcased'.trans hcased.symm
    lowerChar_eq := hsmall
    eq_sigma_iff := hsigma }

end SemanticWiki.Text
