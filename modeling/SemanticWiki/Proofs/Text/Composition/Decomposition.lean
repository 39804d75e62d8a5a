import Mathlib.Data.List.Nodup
import SemanticWiki.Proofs.Text.Composition.Hangul
import SemanticWiki.Proofs.Text.Composition.Table

/-! How a character is taken apart. Nothing that comes out can be taken apart further, and what two
characters compose to is taken apart to what the two are taken apart to. -/

namespace SemanticWiki.Text

variable {c d : Char} {m : Mapping} {table replaced : List Mapping}

theorem mem_codes (hm : m ∈ table) : m.code ∈ codes table := List.mem_map_of_mem hm

theorem mem_partCodes (hm : m ∈ table) (hd : d ∈ m.parts) : d.toNat ∈ partCodes table :=
  List.mem_flatMap.2 ⟨m, hm, List.mem_map_of_mem hd⟩

theorem mem_of_find?_char {m : Mapping} (h : table.find? (·.char == c) = some m) :
    m ∈ table ∧ m.char = c := by
  have hchar := List.find?_some (p := fun m : Mapping => m.char == c) h
  exact ⟨List.mem_of_find?_eq_some h, beq_iff_eq.1 hchar⟩

theorem find?_char_eq_none_iff : table.find? (·.char == c) = none ↔ c.toNat ∉ codes table := by
  rw [List.find?_eq_none]
  constructor
  · intro h hmem
    obtain ⟨m, hm, hc⟩ := List.mem_map.1 hmem
    exact h m hm (beq_iff_eq.2 (Char.toNat_inj.1 hc))
  · intro h m hm hchar
    obtain rfl := beq_iff_eq.1 hchar
    exact h (mem_codes hm)

theorem find?_char_eq_some (h : (codes table).IsChain (· < ·)) (hm : m ∈ table) :
    table.find? (·.char == m.char) = some m := by
  have hnodup : (codes table).Nodup := (List.isChain_iff_pairwise.1 h).imp Nat.ne_of_lt
  cases hfind : table.find? (·.char == m.char) with
  | none => exact absurd BEq.rfl (List.find?_eq_none.1 hfind m hm)
  | some found =>
    obtain ⟨hfound, hchar⟩ := mem_of_find?_char hfind
    have hcode : found.code = m.code := congrArg Char.toNat hchar
    exact congrArg some (List.inj_on_of_nodup_map hnodup hfound hm hcode)

structure IsAtom (table replaced : List Mapping) (c : Char) : Prop where
  not_syllable : Hangul.decompose? c = none
  not_composite : c.toNat ∉ codes table
  not_replaced : c.toNat ∉ codes replaced

theorem IsAtom.decomposeWithin_eq (h : IsAtom table replaced c) (depth : Nat) :
    decomposeWithin table replaced depth c = [c] := by
  cases depth with
  | zero => rfl
  | succ depth =>
    simp only [decomposeWithin, h.not_syllable, find?_char_eq_none_iff.2 h.not_composite,
      find?_char_eq_none_iff.2 h.not_replaced]

inductive Decomposed (table replaced : List Mapping) (depth : Nat) (c : Char) : List Char → Prop
  | syllable {parts : List Char} (h : Hangul.decompose? c = some parts) :
      Decomposed table replaced depth c parts
  | composite {m : Mapping} (hm : m ∈ table) (hc : m.char = c) :
      Decomposed table replaced depth c (m.parts.flatMap (decomposeWithin table replaced depth))
  | replaced {m : Mapping} (hm : m ∈ replaced) (hc : m.char = c) :
      Decomposed table replaced depth c m.parts
  | atom (h : IsAtom table replaced c) : Decomposed table replaced depth c [c]

theorem decomposed_decomposeWithin (table replaced : List Mapping) (depth : Nat) (c : Char) :
    Decomposed table replaced depth c (decomposeWithin table replaced (depth + 1) c) := by
  rw [decomposeWithin]
  cases hsyllable : Hangul.decompose? c with
  | some parts => exact .syllable hsyllable
  | none =>
    cases hcomposite : table.find? (·.char == c) with
    | some m => exact .composite (mem_of_find?_char hcomposite).1 (mem_of_find?_char hcomposite).2
    | none =>
      cases hreplaced : replaced.find? (·.char == c) with
      | some m => exact .replaced (mem_of_find?_char hreplaced).1 (mem_of_find?_char hreplaced).2
      | none =>
        exact .atom ⟨hsyllable, find?_char_eq_none_iff.1 hcomposite,
          find?_char_eq_none_iff.1 hreplaced⟩

theorem not_mem_nested_part {depth : Nat} (hm : m ∈ table) (hc : m.char = c)
    (h : c.toNat ∉ nested table (depth + 1)) (hd : d ∈ m.parts) : d.toNat ∉ nested table depth := by
  intro hnested
  subst hc
  refine h (mem_codes (List.mem_filter.2 ⟨hm, List.any_eq_true.2 ⟨d.toNat, ?_, ?_⟩⟩))
  · exact List.mem_map_of_mem hd
  · exact testBit_mask.2 hnested

theorem decomposeWithin_stable {depth k : Nat} (h : c.toNat ∉ nested table depth) (hk : depth < k) :
    decomposeWithin table replaced k c = decomposeWithin table replaced (depth + 1) c := by
  induction depth generalizing c k with
  | zero =>
    obtain ⟨k, rfl⟩ := Nat.exists_eq_succ_of_ne_zero hk.ne'
    rw [decomposeWithin, decomposeWithin, find?_char_eq_none_iff.2 h]
  | succ depth ih =>
    obtain ⟨k, rfl⟩ := Nat.exists_eq_succ_of_ne_zero (Nat.ne_zero_of_lt hk)
    rw [decomposeWithin, decomposeWithin]
    cases hcomposite : table.find? (·.char == c) with
    | none => rfl
    | some m =>
      -- the parts are nested less deep by one
      obtain ⟨hm, hc⟩ := mem_of_find?_char hcomposite
      have hparts : m.parts.flatMap (decomposeWithin table replaced k) =
          m.parts.flatMap (decomposeWithin table replaced (depth + 1)) :=
        List.flatMap_congr fun d hd => ih (not_mem_nested_part hm hc h hd) (by omega)
      simp only [hparts]

section Fit

variable (hfit : TablesFit table replaced)
include hfit

theorem TablesFit.bounds {n : Nat} (h : n ∈ codes table ∨ n ∈ codes replaced) :
    0xC0 ≤ n ∧ (n < 0x1100 ∨ 0x11FF < n) ∧ (n < 0xAC00 ∨ 0xD7A3 < n) := by
  have hall := List.all_eq_true.1 hfit.ordinary n (List.mem_append.2 h)
  simp only [isOrdinary, isSyllable, Bool.and_eq_true, Bool.or_eq_true, Bool.not_eq_true',
    Bool.and_eq_false_iff, decide_eq_true_eq, decide_eq_false_iff_not] at hall
  omega

theorem TablesFit.isAtom_of_unlisted (hc : c.toNat < 0xC0 ∨ Hangul.IsLetter c) :
    IsAtom table replaced c := by
  unfold Hangul.IsLetter at hc
  have hunlisted : ¬ (c.toNat ∈ codes table ∨ c.toNat ∈ codes replaced) := by
    intro hlisted
    have hbounds := hfit.bounds hlisted
    omega
  rw [not_or] at hunlisted
  exact ⟨Hangul.decompose?_eq_none (.inl (by omega)), hunlisted.1, hunlisted.2⟩

theorem TablesFit.isAtom_of_replaced (hm : m ∈ replaced) (hd : d ∈ m.parts) :
    IsAtom table replaced d := by
  have hpart := mem_partCodes hm hd
  have hlast := not_mem_of_apart hfit.replaced_last hpart
  have hsyllable := List.all_eq_true.1 hfit.replaced_alphabetic _ hpart
  rw [List.mem_append, not_or] at hlast
  refine ⟨Hangul.decompose?_eq_none ?_, hlast.1, hlast.2⟩
  simp only [isSyllable, Bool.not_eq_true', Bool.and_eq_false_iff, decide_eq_false_iff_not]
    at hsyllable
  omega

theorem TablesFit.decomposeWithin_composite (hm : m ∈ table) (depth : Nat) :
    decomposeWithin table replaced (depth + 1) m.char =
      m.parts.flatMap (decomposeWithin table replaced depth) := by
  obtain ⟨-, -, hsyllable⟩ := hfit.bounds (.inl (mem_codes hm))
  have hnone : Hangul.decompose? m.char = none := Hangul.decompose?_eq_none hsyllable
  rw [decomposeWithin, hnone, find?_char_eq_some hfit.ascending hm]

theorem TablesFit.isAtom_of_decomposed {depth : Nat} {out : List Char}
    (h : Decomposed table replaced depth c out) (hparts : ∀ m ∈ table, m.char = c → ∀ part ∈ m.parts,
      ∀ d ∈ decomposeWithin table replaced depth part, IsAtom table replaced d) :
    ∀ d ∈ out, IsAtom table replaced d := by
  cases h with
  | syllable h =>
    obtain ⟨index, hlt, -, rfl⟩ := Hangul.exists_partsAt h
    exact fun d hd => hfit.isAtom_of_unlisted (.inr (Hangul.isLetter_of_mem_partsAt hlt hd))
  | @composite m hm hc =>
    intro d hd
    obtain ⟨part, hpart, hd⟩ := List.mem_flatMap.1 hd
    exact hparts m hm hc part hpart d hd
  | replaced hm hc => exact fun d hd => hfit.isAtom_of_replaced hm hd
  | atom h => simpa using h

theorem TablesFit.isAtom_of_mem {depth : Nat} (h : c.toNat ∉ nested table depth) :
    ∀ d ∈ decomposeWithin table replaced (depth + 1) c, IsAtom table replaced d := by
  induction depth generalizing c with
  | zero =>
    refine hfit.isAtom_of_decomposed (decomposed_decomposeWithin table replaced 0 c) ?_
    intro m hm hc
    exact absurd (hc ▸ mem_codes hm) h
  | succ depth ih =>
    refine hfit.isAtom_of_decomposed (decomposed_decomposeWithin table replaced (depth + 1) c) ?_
    intro m hm hc part hpart
    exact ih (not_mem_nested_part hm hc h hpart)

end Fit

abbrev Atom (c : Char) : Prop := IsAtom composites replacements c

theorem decomposeChar_of_atom (h : Atom c) : decomposeChar c = [c] := by
  rw [decomposeChar, h.decomposeWithin_eq, ite_self]

theorem decomposeChar_of_basic (hc : c.toNat < 0xC0) : decomposeChar c = [c] := if_pos hc

theorem not_mem_nested (c : Char) : c.toNat ∉ nested composites 3 := by
  rw [tablesFit.shallow]
  exact List.not_mem_nil

theorem decomposeChar_eq {k : Nat} (hk : 3 < k) (c : Char) :
    decomposeChar c = decomposeWithin composites replacements k c := by
  by_cases hbasic : c.toNat < 0xC0
  · rw [decomposeChar_of_basic hbasic,
      (tablesFit.isAtom_of_unlisted (.inl hbasic)).decomposeWithin_eq]
  · rw [decomposeChar, if_neg hbasic, decomposeWithin_stable (not_mem_nested c) hk]

theorem atom_of_mem_decomposeChar (hd : d ∈ decomposeChar c) : Atom d := by
  rw [decomposeChar_eq (by decide : 3 < 4)] at hd
  exact tablesFit.isAtom_of_mem (not_mem_nested c) d hd

theorem decomposeChar_of_syllable {parts : List Char} (h : Hangul.decompose? c = some parts) :
    decomposeChar c = parts := by
  rw [decomposeChar_eq (by decide : 3 < 4), decomposeWithin, h]

theorem decomposeChar_of_composite (hm : m ∈ composites) :
    decomposeChar m.char = m.parts.flatMap decomposeChar := by
  rw [decomposeChar_eq (by decide : 3 < 5), tablesFit.decomposeWithin_composite hm]
  exact List.flatMap_congr fun d _ => (decomposeChar_eq (by decide) d).symm

section Pair

variable {a b joined : Char}

theorem composePair?_cases (h : composePair? a b = some joined) :
    Hangul.compose? a b = some joined ∨ ∃ m ∈ composites, m.parts = [a, b] ∧ m.char = joined := by
  rw [composePair?] at h
  cases hsyllable : Hangul.compose? a b with
  | some syllable =>
    rw [hsyllable] at h
    exact .inl h
  | none =>
    rw [hsyllable] at h
    obtain ⟨m, hfind, hchar⟩ := Option.map_eq_some_iff.1 h
    have hparts := List.find?_some (p := fun m : Mapping => m.parts == [a, b]) hfind
    exact .inr ⟨m, List.mem_of_find?_eq_some hfind, beq_iff_eq.1 hparts, hchar⟩

theorem decomposeChar_of_composePair? (h : composePair? a b = some joined) :
    decomposeChar joined = decomposeChar a ++ decomposeChar b := by
  rcases composePair?_cases h with hsyllable | ⟨m, hm, hparts, rfl⟩
  · obtain ⟨front, hjoined, hb, hfront⟩ := Hangul.compose?_cases hsyllable
    have hletter {c : Char} (hc : Hangul.IsLetter c) : decomposeChar c = [c] :=
      decomposeChar_of_atom (tablesFit.isAtom_of_unlisted (.inr hc))
    rw [decomposeChar_of_syllable hjoined, hletter hb]
    rcases hfront with ⟨rfl, ha⟩ | ha
    · rw [hletter ha]
    · rw [decomposeChar_of_syllable ha]
  · rw [decomposeChar_of_composite hm, hparts, List.flatMap_cons, List.flatMap_singleton]

end Pair

end SemanticWiki.Text
