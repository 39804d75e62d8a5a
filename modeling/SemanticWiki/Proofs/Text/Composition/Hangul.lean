import Mathlib.Tactic.Common
import SemanticWiki.Proofs.Text.CodeMask
import SemanticWiki.Text.Composition

/-! Syllables of Hangul. The number of a syllable tells its consonants and its vowel, so a syllable is
taken apart to what it was composed of. -/

namespace SemanticWiki.Text.Hangul

variable {a b c d joined : Char} {parts : List Char} {index : Nat}

/-- The consonants and the vowel of the syllable with the given number. Of all syllables, 588 in a row
start with the same consonant, and 28 of these in a row have the same vowel. -/
def partsAt (index : Nat) : List Char :=
  [Char.ofNat (0x1100 + index / 588), Char.ofNat (0x1161 + index % 588 / 28)] ++
    if index % 28 = 0 then [] else [Char.ofNat (0x11A7 + index % 28)]

theorem decompose?_eq_none (h : c.toNat < 0xAC00 ∨ 0xD7A3 < c.toNat) : decompose? c = none := by
  refine if_neg ?_
  simp only [syllableBase, leadCount, vowelCount, trailCount]
  omega

theorem decompose?_eq_some (hlt : index < 11172) (hc : c.toNat = 0xAC00 + index) :
    decompose? c = some (partsAt index) := by
  have hindex : c.toNat - 0xAC00 = index := by omega
  have hbounds : 0xAC00 ≤ c.toNat ∧ index < 19 * 21 * 28 := by omega
  simp only [decompose?, syllableBase, leadBase, vowelBase, trailBase, leadCount, vowelCount,
    trailCount, hindex, if_pos hbounds, partsAt]
  split <;> rfl

theorem exists_partsAt (h : decompose? c = some parts) :
    ∃ index < 11172, c.toNat = 0xAC00 + index ∧ parts = partsAt index := by
  by_cases hout : c.toNat < 0xAC00 ∨ 0xD7A3 < c.toNat
  · rw [decompose?_eq_none hout] at h
    cases h
  · have hlt : c.toNat - 0xAC00 < 11172 := by omega
    have hc : c.toNat = 0xAC00 + (c.toNat - 0xAC00) := by omega
    refine ⟨c.toNat - 0xAC00, hlt, hc, ?_⟩
    rw [decompose?_eq_some hlt hc] at h
    exact (Option.some.inj h).symm

def IsLetter (c : Char) : Prop := 0x1100 ≤ c.toNat ∧ c.toNat ≤ 0x11FF

theorem isLetter_of_mem_partsAt (hlt : index < 11172) (hd : d ∈ partsAt index) : IsLetter d := by
  have hletter (n : Nat) (hlow : 0x1100 ≤ n) (hhigh : n ≤ 0x11FF) : IsLetter (Char.ofNat n) := by
    have hcode : (Char.ofNat n).toNat = n := toNat_ofNat (.inl (by omega))
    rw [IsLetter, hcode]
    exact ⟨hlow, hhigh⟩
  simp only [partsAt, List.cons_append, List.nil_append, List.mem_cons] at hd
  rcases hd with rfl | rfl | hd
  · exact hletter _ (by omega) (by omega)
  · exact hletter _ (by omega) (by omega)
  · split at hd
    · cases hd
    · obtain rfl := List.mem_singleton.1 hd
      exact hletter _ (by omega) (by omega)

theorem partsAt_of_letters (ha : 0x1100 ≤ a.toNat) (hb : 0x1161 ≤ b.toNat)
    (hvowel : b.toNat - 0x1161 < 21) :
    partsAt (((a.toNat - 0x1100) * 21 + (b.toNat - 0x1161)) * 28) = [a, b] := by
  generalize hindex : ((a.toNat - 0x1100) * 21 + (b.toNat - 0x1161)) * 28 = index
  have hfirst : 0x1100 + index / 588 = a.toNat := by omega
  have hsecond : 0x1161 + index % 588 / 28 = b.toNat := by omega
  have hopen : index % 28 = 0 := by omega
  rw [partsAt, hfirst, hsecond, if_pos hopen, Char.ofNat_toNat, Char.ofNat_toNat]
  rfl

theorem partsAt_add {trail : Nat} (hopen : index % 28 = 0) (hpos : 0 < trail) (hlt : trail < 28) :
    partsAt (index + trail) = partsAt index ++ [Char.ofNat (0x11A7 + trail)] := by
  have hfirst : (index + trail) / 588 = index / 588 := by omega
  have hsecond : (index + trail) % 588 / 28 = index % 588 / 28 := by omega
  have htrail : (index + trail) % 28 = trail := by omega
  rw [partsAt, partsAt, hfirst, hsecond, htrail, if_neg hpos.ne', if_pos hopen, List.append_nil]

theorem compose?_cases (h : compose? a b = some joined) :
    ∃ front, decompose? joined = some (front ++ [b]) ∧ IsLetter b ∧
      (front = [a] ∧ IsLetter a ∨ decompose? a = some front) := by
  unfold compose? at h
  dsimp only at h
  split at h
  · rename_i hletters
    obtain rfl := Option.some.inj h
    simp only [syllableBase, leadBase, vowelBase, leadCount, vowelCount, trailCount] at hletters ⊢
    obtain ⟨hlead, hleadCount, hvowel, hvowelCount⟩ := hletters
    have ha : IsLetter a := by
      unfold IsLetter
      omega
    have hb : IsLetter b := by
      unfold IsLetter
      omega
    refine ⟨[a], ?_, hb, .inl ⟨rfl, ha⟩⟩
    rw [decompose?_eq_some (by omega) (toNat_ofNat (.inl (by omega))),
      partsAt_of_letters hlead hvowel hvowelCount]
    rfl
  · split at h
    · rename_i hsyllable
      obtain rfl := Option.some.inj h
      simp only [syllableBase, trailBase, leadCount, vowelCount, trailCount] at hsyllable ⊢
      obtain ⟨hbase, hcount, hopen, htrail, htrailCount⟩ := hsyllable
      obtain ⟨index, ha⟩ : ∃ index, a.toNat = 0xAC00 + index := Nat.exists_eq_add_of_le hbase
      obtain ⟨trail, hb⟩ : ∃ trail, b.toNat = 0x11A7 + trail := Nat.exists_eq_add_of_le htrail.le
      have hlt : index < 11172 := by omega
      have hletter : IsLetter b := by
        unfold IsLetter
        omega
      have hcode : (Char.ofNat (a.toNat + (b.toNat - 0x11A7))).toNat = 0xAC00 + (index + trail) := by
        rw [toNat_ofNat (.inl (by omega))]
        omega
      refine ⟨partsAt index, ?_, hletter, .inr (decompose?_eq_some hlt ha)⟩
      rw [decompose?_eq_some (by omega) hcode, partsAt_add (by omega) (by omega) (by omega), ← hb,
        Char.ofNat_toNat]
    · cases h

end SemanticWiki.Text.Hangul
