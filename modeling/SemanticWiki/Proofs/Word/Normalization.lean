import SemanticWiki.Proofs.Word.NormalForm
import SemanticWiki.Proofs.Word.Separators

/-! What the normal form of a word means. It is written from the parts of the composed word, so it tells
which parts a word has and nothing else, and to write it again from itself, or from the form in which it
is shown, gives it again. -/

namespace SemanticWiki.Word

open Text

variable {raw text : String} {s : Char}

def parts (raw : String) : List (List Char) :=
  ((compose raw.toList).splitOnP isSeparator).filter (!·.isEmpty)

theorem parts_eq (raw : String) : parts raw = pieces isSeparator (compose raw.toList) :=
  (pieces_eq_filter_splitOnP isSeparator (compose raw.toList)).symm

theorem toList_normalize_parts (raw : String) :
    (normalize raw).toList = ['_'].intercalate (parts raw) := by
  rw [toList_normalize, parts_eq]

theorem mem_parts {part : List Char} (h : part ∈ parts raw) :
    part ≠ [] ∧ ∀ c ∈ part, isSeparator c = false := by
  rw [parts_eq] at h
  exact mem_pieces h

theorem parts_of_toList (hs : isSeparator s = true) (hbasic : s.toNat < 0xC0)
    (htext : text.toList = [s].intercalate (parts raw)) : parts text = parts raw := by
  have hcomposed : Composed ([s].intercalate (parts raw)) := by
    rw [parts_eq]
    exact keepsApart_isSeparator.composed_intercalate_pieces hs hbasic
      (composed_compose raw.toList)
  rw [parts_eq text, htext, compose_of_composed hcomposed]
  exact pieces_intercalate hs fun part hpart => mem_parts hpart

theorem normalize_eq_iff (raw other : String) :
    normalize raw = normalize other ↔ parts raw = parts other := by
  constructor
  · intro h
    have hjoined : ['_'].intercalate (parts raw) = ['_'].intercalate (parts other) := by
      rw [← toList_normalize_parts, ← toList_normalize_parts, h]
    have hpieces (raw : String) : pieces isSeparator (['_'].intercalate (parts raw)) = parts raw :=
      pieces_intercalate (by decide) fun part hpart => mem_parts hpart
    rw [← hpieces raw, hjoined, hpieces other]
  · intro h
    rw [← String.toList_inj, toList_normalize_parts, toList_normalize_parts, h]

theorem normalize_normalize (raw : String) : normalize (normalize raw) = normalize raw :=
  (normalize_eq_iff _ _).2 (parts_of_toList (by decide) (by decide) (toList_normalize_parts raw))

theorem toList_pretty_normalize (raw : String) :
    (pretty (normalize raw)).toList = [' '].intercalate (parts raw) := by
  have hparts : (parts raw).map (List.map fun c => if c = '_' then ' ' else c) = parts raw := by
    refine (List.map_congr_left fun part hpart => ?_).trans (List.map_id _)
    refine (List.map_congr_left fun c hc => ?_).trans (List.map_id part)
    have hfree : (c == '_') = false := not_underscore ((mem_parts hpart).2 c hc)
    exact if_neg (by simpa using hfree)
  rw [pretty, String.toList_map, toList_normalize_parts, map_intercalate, hparts]
  rfl

theorem normalize_pretty_normalize (raw : String) :
    normalize (pretty (normalize raw)) = normalize raw :=
  (normalize_eq_iff _ _).2 (parts_of_toList (by decide) (by decide) (toList_pretty_normalize raw))

theorem not_blank_of_mem_normalize {c : Char} (hc : c ∈ (normalize raw).toList) :
    isBlank c = false := by
  rw [toList_normalize_parts] at hc
  rcases mem_intercalate hc with rfl | ⟨part, hpart, hc⟩
  · decide
  · have hfree := (mem_parts hpart).2 c hc
    rw [isSeparator, Bool.or_eq_false_iff] at hfree
    exact hfree.1

theorem normalize_meaning (raw : String) :
    (normalize raw).toList = ['_'].intercalate (parts raw) ∧
    (∀ c ∈ (normalize raw).toList, isBlank c = false) ∧
    ¬ ['_', '_'] <:+: (normalize raw).toList ∧
    (normalize raw).toList.head? ≠ some '_' ∧ (normalize raw).toList.getLast? ≠ some '_' ∧
    (∀ other, normalize raw = normalize other ↔ parts raw = parts other) ∧
    normalize (normalize raw) = normalize raw ∧
    normalize (pretty (normalize raw)) = normalize raw := by
  have hparts : ∀ part ∈ parts raw, part ≠ [] ∧ ∀ c ∈ part, isSeparator c = false :=
    fun part hpart => mem_parts hpart
  refine ⟨toList_normalize_parts raw, fun c hc => not_blank_of_mem_normalize hc, ?_, ?_, ?_,
    normalize_eq_iff raw, normalize_normalize raw, normalize_pretty_normalize raw⟩
  · rintro ⟨front, rest, htext⟩
    have hchain := isChain_intercalate hparts (by decide : isSeparator '_' = true)
    rw [← toList_normalize_parts, ← htext] at hchain
    exact hchain.left_of_append.right_of_append.rel rfl rfl
  · intro hfirst
    rw [toList_normalize_parts] at hfirst
    exact absurd (head?_intercalate hparts '_' hfirst) (by decide)
  · intro hlast
    rw [toList_normalize_parts] at hlast
    exact absurd (getLast?_intercalate hparts '_' hlast) (by decide)

example : normalize "_ located \t in__" = "located_in" := by decide +kernel

end SemanticWiki.Word
