import Mathlib.Data.List.DropRight
import SemanticWiki.Proofs.Text.Pieces
import SemanticWiki.Word

/-! The normal form of a word. It consists of the parts between separators, joined by one underscore
each, however many separators there were and wherever else they stood. -/

namespace SemanticWiki.Word

open Text

theorem not_underscore {c : Char} (hc : isSeparator c = false) : (c == '_') = false := by
  rw [isSeparator, Bool.or_eq_false_iff] at hc
  exact hc.2

theorem joinRuns_append_of_free {front : List Char} (h : ∀ c ∈ front, isSeparator c = false)
    (rest : List Char) : joinRuns (front ++ rest) = front ++ joinRuns rest := by
  induction front with
  | nil => rfl
  | cons c front ih =>
    obtain ⟨hc, hfront⟩ := List.forall_mem_cons.1 h
    rw [List.cons_append, List.cons_append, ← ih hfront]
    simp [joinRuns, hc]

theorem joinRuns_cons_separator {c : Char} (hc : isSeparator c = true) (rest : List Char) :
    joinRuns (c :: rest) = '_' :: (joinRuns rest).dropWhile (· == '_') := by
  induction rest generalizing c with
  | nil => simp [joinRuns, hc]
  | cons d rest ih =>
    by_cases hd : isSeparator d = true
    · have hskip : joinRuns (c :: d :: rest) = joinRuns (d :: rest) := by simp [joinRuns, hc, hd]
      rw [hskip, ih hd]
      simp [List.dropWhile_idempotent _]
    · have hd : isSeparator d = false := by simpa using hd
      have hkeep : joinRuns (d :: rest) = d :: joinRuns rest := by simp [joinRuns, hd]
      have hstart : joinRuns (c :: d :: rest) = '_' :: joinRuns (d :: rest) := by
        simp [joinRuns, hc, hd]
      rw [hstart, hkeep, List.dropWhile_cons_of_neg (by simp [not_underscore hd])]

theorem normalizeComposed_of_free {text : List Char} (h : ∀ c ∈ text, isSeparator c = false) :
    normalizeComposed text = text := by
  have hjoin : joinRuns text = text := by
    have happend := joinRuns_append_of_free h []
    rwa [List.append_nil, joinRuns, List.append_nil] at happend
  have hstart : text.dropWhile (· == '_') = text := by
    cases text with
    | nil => rfl
    | cons c rest => simp [not_underscore (h c List.mem_cons_self)]
  rw [normalizeComposed, hjoin, hstart]
  exact dropWhileEnd_of_free fun c hc => not_underscore (h c hc)

theorem normalizeComposed_cut {front : List Char} (hfront : ∀ d ∈ front, isSeparator d = false)
    {c : Char} (hc : isSeparator c = true) (rest : List Char) :
    normalizeComposed (front ++ c :: rest) =
      if front.isEmpty then normalizeComposed rest
      else if (normalizeComposed rest).isEmpty then front
      else front ++ '_' :: normalizeComposed rest := by
  unfold normalizeComposed
  rw [joinRuns_append_of_free hfront, joinRuns_cons_separator hc]
  have hbody := List.dropWhile_idempotent (p := (· == '_')) (joinRuns rest)
  generalize (joinRuns rest).dropWhile (· == '_') = body at hbody ⊢
  cases front with
  | nil => simp [hbody]
  | cons d front =>
    have hd : (d == '_') = false := not_underscore (hfront d List.mem_cons_self)
    have hend : dropWhileEnd (· == '_') (d :: front) = d :: front :=
      dropWhileEnd_of_free fun c hc => not_underscore (hfront c hc)
    -- the underscore goes if nothing is left behind it
    have hbehind : dropWhileEnd (· == '_') ('_' :: body) =
        if (dropWhileEnd (· == '_') body).isEmpty then []
        else '_' :: dropWhileEnd (· == '_') body :=
      dropWhileEnd_append (· == '_') ['_'] body
    rw [List.cons_append, List.dropWhile_cons_of_neg (by simp [hd]), ← List.cons_append,
      dropWhileEnd_append, hend, hbehind]
    cases dropWhileEnd (· == '_') body <;> simp

theorem normalizeComposed_eq_intercalate (text : List Char) :
    normalizeComposed text = ['_'].intercalate (pieces isSeparator text) := by
  induction text using cut_induction isSeparator with
  | hfree text hfree =>
    rw [normalizeComposed_of_free hfree, pieces_of_free hfree]
    cases text <;> simp
  | hcut front c rest hfront hc ih =>
    rw [normalizeComposed_cut hfront hc, pieces_cut hfront hc, ih]
    split
    · rfl
    · cases hrest : pieces isSeparator rest with
      | nil => simp
      | cons part parts =>
        have hpart : part ≠ [] := (mem_pieces (hrest ▸ List.mem_cons_self)).1
        have hsome : ['_'].intercalate (part :: parts) ≠ [] := by
          cases parts <;> simp [List.intercalate_cons_cons, hpart]
        rw [if_neg (by simpa using hsome), List.intercalate_cons_cons, List.append_assoc,
          List.singleton_append]

theorem toList_normalize (raw : String) : (normalize raw).toList =
    ['_'].intercalate (pieces isSeparator (compose raw.toList)) := by
  rw [normalize, String.toList_ofList, normalizeComposed_eq_intercalate]

end SemanticWiki.Word
