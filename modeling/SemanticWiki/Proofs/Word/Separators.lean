import SemanticWiki.Proofs.Text.Composition.Separation
import SemanticWiki.Word

/-! Separators of words under composition. Two of the blanks are replaced by another one, and beyond
that the tables of the character database know nothing of blanks and underscores. -/

namespace SemanticWiki

namespace Text

variable {a b c d joined s : Char} {m : Mapping} {table replaced : List Mapping}

theorem separatorCodes_bounds {n : Nat} (h : n ∈ separatorCodes) :
    n < 0x1100 ∨ 0x11FF < n ∧ n < 0xAC00 := by
  have hall : ∀ n ∈ separatorCodes, n < 0x1100 ∨ 0x11FF < n ∧ n < 0xAC00 := by decide +kernel
  exact hall n h

theorem Hangul.decompose?_separator (hs : s.toNat ∈ separatorCodes) : decompose? s = none := by
  have hbounds := separatorCodes_bounds hs
  exact decompose?_eq_none (.inl (by omega))

theorem Hangul.not_isLetter_separator (hs : s.toNat ∈ separatorCodes) : ¬ IsLetter s := by
  have hbounds := separatorCodes_bounds hs
  unfold IsLetter
  omega

theorem Mapping.exists_separator (h : m.keepsSeparators = true) (hm : m.code ∈ separatorCodes) :
    ∃ s, m.parts = [s] ∧ s.toNat ∈ separatorCodes := by
  rw [keepsSeparators, if_pos (testBit_mask.2 hm), Bool.and_eq_true, beq_iff_eq] at h
  obtain ⟨s, hs⟩ := List.length_eq_one_iff.1 h.1
  refine ⟨s, hs, testBit_mask.1 (List.all_eq_true.1 h.2 _ ?_)⟩
  rw [partCodes, hs]
  exact List.mem_singleton_self s.toNat

theorem Mapping.part_not_separator (h : m.keepsSeparators = true) (hm : m.code ∉ separatorCodes)
    (hd : d ∈ m.parts) : d.toNat ∉ separatorCodes := by
  have hmask : ¬ (mask separatorCodes).testBit m.code = true := fun hbit => hm (testBit_mask.1 hbit)
  rw [keepsSeparators, if_neg hmask, Bool.not_eq_true'] at h
  intro hseparator
  have hany : m.partCodes.any (mask separatorCodes).testBit = true :=
    List.any_eq_true.2 ⟨d.toNat, List.mem_map_of_mem hd, testBit_mask.2 hseparator⟩
  rw [h] at hany
  cases hany

section Fit

variable (hfit : TablesFit table replaced)
include hfit

theorem TablesFit.char_not_separator (hm : m ∈ table) : m.code ∉ separatorCodes :=
  not_mem_of_apart hfit.unseparated (List.mem_append_left _ (mem_codes hm))

theorem TablesFit.part_not_separator (hm : m ∈ table) (hd : d ∈ m.parts) :
    d.toNat ∉ separatorCodes :=
  not_mem_of_apart hfit.unseparated (List.mem_append_right _ (mem_partCodes hm hd))

theorem TablesFit.replaced_keeps (hm : m ∈ replaced) : m.keepsSeparators = true :=
  List.all_eq_true.1 hfit.separators_kept m hm

theorem TablesFit.separator_kept {depth : Nat} {out : List Char} (hs : s.toNat ∈ separatorCodes)
    (h : Decomposed table replaced depth s out) : ∃ s', out = [s'] ∧ s'.toNat ∈ separatorCodes := by
  cases h with
  | syllable h =>
    rw [Hangul.decompose?_separator hs] at h
    cases h
  | composite hm hchar =>
    subst hchar
    exact absurd hs (hfit.char_not_separator hm)
  | replaced hm hchar =>
    subst hchar
    exact Mapping.exists_separator (hfit.replaced_keeps hm) hs
  | atom h => exact ⟨s, rfl, hs⟩

theorem TablesFit.separator_free (hc : c.toNat ∉ separatorCodes) (depth : Nat) :
    ∀ d ∈ decomposeWithin table replaced depth c, d.toNat ∉ separatorCodes := by
  induction depth generalizing c with
  | zero => simpa [decomposeWithin] using hc
  | succ depth ih =>
    have hcases := decomposed_decomposeWithin table replaced depth c
    generalize decomposeWithin table replaced (depth + 1) c = out at hcases
    cases hcases with
    | syllable h =>
      obtain ⟨index, hlt, -, rfl⟩ := Hangul.exists_partsAt h
      exact fun d hd hs =>
        Hangul.not_isLetter_separator hs (Hangul.isLetter_of_mem_partsAt hlt hd)
    | composite hm hchar =>
      intro d hd
      obtain ⟨part, hpart, hd⟩ := List.mem_flatMap.1 hd
      exact ih (hfit.part_not_separator hm hpart) d hd
    | replaced hm hchar =>
      subst hchar
      exact fun d hd => Mapping.part_not_separator (hfit.replaced_keeps hm) hc hd
    | atom h => simpa using hc

end Fit

theorem composePair?_separator (h : a.toNat ∈ separatorCodes ∨ b.toNat ∈ separatorCodes) :
    composePair? a b = none := by
  rw [Option.eq_none_iff_forall_ne_some]
  intro joined hjoined
  rcases composePair?_cases hjoined with hsyllable | ⟨m, hm, hparts, -⟩
  · obtain ⟨front, -, hb, hfront⟩ := Hangul.compose?_cases hsyllable
    rcases h with hs | hs
    · rcases hfront with ⟨-, ha⟩ | ha
      · exact Hangul.not_isLetter_separator hs ha
      · rw [Hangul.decompose?_separator hs] at ha
        cases ha
    · exact Hangul.not_isLetter_separator hs hb
  · rcases h with hs | hs
    · exact tablesFit.part_not_separator hm (by simp [hparts]) hs
    · exact tablesFit.part_not_separator hm (by simp [hparts]) hs

theorem joined_not_separator (h : composePair? a b = some joined) :
    joined.toNat ∉ separatorCodes := by
  rcases composePair?_cases h with hsyllable | ⟨m, hm, -, rfl⟩
  · obtain ⟨front, hjoined, -, -⟩ := Hangul.compose?_cases hsyllable
    intro hs
    rw [Hangul.decompose?_separator hs] at hjoined
    cases hjoined
  · exact tablesFit.char_not_separator hm

theorem inert_of_separator (hs : s.toNat ∈ separatorCodes) : Inert s :=
  ⟨combiningClass_of_mem_separatorCodes hs, fun _ => composePair?_separator (.inl hs),
    fun _ => composePair?_separator (.inr hs)⟩

end Text

namespace Word

open Text

theorem isSeparator_iff {c : Char} : isSeparator c = true ↔ c.toNat ∈ separatorCodes := by
  constructor
  · intro hc
    rcases Bool.or_eq_true_iff.1 hc with hblank | hunderscore
    · exact List.mem_cons_of_mem _ (mem_blankCodes hblank)
    · obtain rfl := beq_iff_eq.1 hunderscore
      exact List.mem_cons_self
  · intro hc
    have hall : ∀ n ∈ separatorCodes, isSeparator (Char.ofNat n) = true := by decide +kernel
    simpa using hall c.toNat hc

theorem isSeparator_eq_false_iff {c : Char} : isSeparator c = false ↔ c.toNat ∉ separatorCodes := by
  rw [← isSeparator_iff, Bool.not_eq_true]

theorem keepsApart_isSeparator : KeepsApart isSeparator := by
  refine ⟨?kept, ?free, ?joined⟩
  case kept =>
    intro s hs
    have hcases := decomposed_decomposeWithin composites replacements 3 s
    rw [← decomposeChar_eq (by decide)] at hcases
    obtain ⟨s', hout, hs'⟩ := tablesFit.separator_kept (isSeparator_iff.1 hs) hcases
    exact ⟨s', hout, isSeparator_iff.2 hs', inert_of_separator hs'⟩
  case free =>
    intro c hc d hd
    rw [decomposeChar_eq (by decide : 3 < 4)] at hd
    exact isSeparator_eq_false_iff.2
      (tablesFit.separator_free (isSeparator_eq_false_iff.1 hc) 4 d hd)
  case joined =>
    exact fun h => isSeparator_eq_false_iff.2 (joined_not_separator h)

end Word

end SemanticWiki
