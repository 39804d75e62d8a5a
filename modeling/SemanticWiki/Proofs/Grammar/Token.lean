import SemanticWiki.Proofs.Text.LetterCase
import SemanticWiki.Proofs.Text.Pieces
import SemanticWiki.Grammar.Token
import Mathlib.Data.List.Basic
import Mathlib.Data.List.TakeWhile

/-! How tokens of a composed text follow from the tokens of its parts. A blank keeps two texts
apart, a leading mark in front and a trailing mark behind are tokens of their own whatever they are
attached to, and it leaves no trace in the tokens which of two characters that read alike stands in the
text, such as a capital or its small letter. -/

namespace SemanticWiki.Grammar

open Text

theorem tokensOfPiece_cons_leadingMark {m : Char} (hm : isLeadingMark m = true)
    (piece : List Char) : tokensOfPiece (m :: piece) = [m] :: tokensOfPiece piece := by
  simp [tokensOfPiece, hm]

theorem forall_leadingMark {p : Char → Prop} (h : p '¿' ∧ p '¡') {m : Char}
    (hm : isLeadingMark m = true) : p m := by
  simp only [isLeadingMark, Bool.or_eq_true, beq_iff_eq] at hm
  rcases hm with rfl | rfl
  · exact h.1
  · exact h.2

theorem forall_trailingMark {p : Char → Prop} (h : p '.' ∧ p '?' ∧ p '!' ∧ p ',') {m : Char}
    (hm : isTrailingMark m = true) : p m := by
  simp only [isTrailingMark, Bool.or_eq_true, beq_iff_eq] at hm
  rcases hm with ((rfl | rfl) | rfl) | rfl
  · exact h.1
  · exact h.2.1
  · exact h.2.2.1
  · exact h.2.2.2

theorem not_leading_of_trailing {m : Char} (hm : isTrailingMark m = true) :
    isLeadingMark m = false :=
  forall_trailingMark (p := fun m => isLeadingMark m = false) (by decide) hm

theorem not_blank_of_trailing {m : Char} (hm : isTrailingMark m = true) : isBlank m = false :=
  forall_trailingMark (p := fun m => isBlank m = false) (by decide) hm

theorem not_blank_of_leading {m : Char} (hm : isLeadingMark m = true) : isBlank m = false :=
  forall_leadingMark (p := fun m => isBlank m = false) (by decide) hm

theorem tokensOfPiece_concat_trailingMark {m : Char} (hm : isTrailingMark m = true)
    (piece : List Char) : tokensOfPiece (piece ++ [m]) = tokensOfPiece piece ++ [[m]] := by
  have hlead : isLeadingMark m = false := not_leading_of_trailing hm
  have hfront : (piece ++ [m]).takeWhile isLeadingMark = piece.takeWhile isLeadingMark := by
    rw [List.takeWhile_append]
    split
    · rename_i hall
      rw [(List.takeWhile_prefix isLeadingMark).eq_of_length hall]
      simp [hlead]
    · rfl
  have hrest : (piece ++ [m]).dropWhile isLeadingMark =
      piece.dropWhile isLeadingMark ++ [m] := by
    rw [List.dropWhile_append]
    split
    · rename_i hnone
      simp [List.isEmpty_iff.1 hnone, hlead]
    · rfl
  have hle := length_dropWhileEnd_le isTrailingMark (piece.dropWhile isLeadingMark)
  simp only [tokensOfPiece, hfront, hrest, dropWhileEnd_concat hm]
  rw [List.drop_append_of_le_length hle]
  simp

theorem free_concat {m : Char} (hm : isBlank m = false) {text : List Char}
    (h : ∀ c ∈ text, isBlank c = false) : ∀ c ∈ text ++ [m], isBlank c = false := by
  intro c hc
  rcases List.mem_append.1 hc with hc | hc
  · exact h c hc
  · rwa [List.mem_singleton.1 hc]

theorem tokens_of_free {text : List Char} (h : ∀ c ∈ text, isBlank c = false) :
    tokens text = tokensOfPiece text := by
  rw [tokens, words, pieces_of_free h]
  cases text with
  | nil => rfl
  | cons c rest => simp

theorem tokens_append_blank {c : Char} (hc : isBlank c = true) (front rest : List Char) :
    tokens (front ++ c :: rest) = tokens front ++ tokens rest := by
  simp only [tokens, words, pieces_append_separator hc, List.flatMap_append]

theorem tokens_cons_leadingMark {m : Char} (hm : isLeadingMark m = true) (text : List Char) :
    tokens (m :: text) = [m] :: tokens text := by
  have hblank := not_blank_of_leading hm
  -- the mark only touches what stands in front of the first blank
  rcases free_or_first_separator isBlank text with hfree | ⟨front, c, rest, rfl, hc, hfront⟩
  · rw [tokens_of_free (by simpa [hblank] using hfree), tokens_of_free hfree,
      tokensOfPiece_cons_leadingMark hm]
  · rw [← List.cons_append, tokens_append_blank hc, tokens_append_blank hc,
      tokens_of_free (by simpa [hblank] using hfront), tokens_of_free hfront,
      tokensOfPiece_cons_leadingMark hm, List.cons_append]

theorem tokens_concat_trailingMark {m : Char} (hm : isTrailingMark m = true)
    (text : List Char) : tokens (text ++ [m]) = tokens text ++ [[m]] := by
  have hblank := not_blank_of_trailing hm
  -- and here what stands behind the last one
  rcases free_or_last_separator isBlank text with hfree | ⟨front, c, rest, rfl, hc, hrest⟩
  · rw [tokens_of_free (free_concat hblank hfree), tokens_of_free hfree,
      tokensOfPiece_concat_trailingMark hm]
  · rw [List.append_assoc, List.cons_append, tokens_append_blank hc, tokens_append_blank hc,
      tokens_of_free (free_concat hblank hrest), tokens_of_free hrest,
      tokensOfPiece_concat_trailingMark hm, List.append_assoc]

theorem isLeadingMark_toLower (c : Char) : isLeadingMark c.toLower = isLeadingMark c :=
  apply_toLower isLeadingMark (by decide) c

theorem isTrailingMark_toLower (c : Char) : isTrailingMark c.toLower = isTrailingMark c :=
  apply_toLower isTrailingMark (by decide) c

theorem lowerChar_of_leadingMark {m : Char} (hm : isLeadingMark m = true) : lowerChar m = [m] :=
  forall_leadingMark (p := fun m => lowerChar m = [m]) (by decide +kernel) hm

theorem lowerChar_of_trailingMark {m : Char} (hm : isTrailingMark m = true) : lowerChar m = [m] :=
  forall_trailingMark (p := fun m => lowerChar m = [m]) (by decide +kernel) hm

/-- A character that can take the place of another one in any text without a change to the tokens. -/
structure ReadAlike (c d : Char) : Prop extends Alike c d where
  isLeadingMark_eq : isLeadingMark d = isLeadingMark c
  isTrailingMark_eq : isTrailingMark d = isTrailingMark c

instance (c d : Char) : Decidable (ReadAlike c d) :=
  decidable_of_iff ((isBlank d = isBlank c ∧ isCaseIgnorable d = isCaseIgnorable c ∧
      isCased d = isCased c ∧ lowerChar d = lowerChar c ∧ (d = 'Σ' ↔ c = 'Σ')) ∧
      isLeadingMark d = isLeadingMark c ∧ isTrailingMark d = isTrailingMark c)
    ⟨fun ⟨⟨hblank, hignored, hcased, hsmall, hsigma⟩, hlead, htrail⟩ =>
      ⟨⟨hblank, hignored, hcased, hsmall, hsigma⟩, hlead, htrail⟩,
      fun ⟨⟨hblank, hignored, hcased, hsmall, hsigma⟩, hlead, htrail⟩ =>
      ⟨⟨hblank, hignored, hcased, hsmall, hsigma⟩, hlead, htrail⟩⟩

theorem ReadAlike.refl (c : Char) : ReadAlike c c := ⟨Alike.refl c, rfl, rfl⟩

theorem ReadAlike.symm {c d : Char} (h : ReadAlike c d) : ReadAlike d c :=
  ⟨h.toAlike.symm, h.isLeadingMark_eq.symm, h.isTrailingMark_eq.symm⟩

theorem readAlike_toLower (c : Char) : ReadAlike c c.toLower :=
  ⟨alike_toLower c, isLeadingMark_toLower c, isTrailingMark_toLower c⟩

theorem ReadAlike.eq_of_mark {m d : Char} (h : ReadAlike m d)
    (hm : isLeadingMark m = true ∨ isTrailingMark m = true) : d = m := by
  have hsmall : lowerChar m = [m] ∧ lowerChar d = [d] := by
    rcases hm with hm | hm
    · exact ⟨lowerChar_of_leadingMark hm, lowerChar_of_leadingMark (h.isLeadingMark_eq.trans hm)⟩
    · exact ⟨lowerChar_of_trailingMark hm, lowerChar_of_trailingMark (h.isTrailingMark_eq.trans hm)⟩
  exact List.singleton_inj.1 (hsmall.2.symm.trans (h.lowerChar_eq.trans hsmall.1))

theorem tokensOfPiece_of_unmarked {piece : List Char} (hsome : piece ≠ [])
    (hplain : ∀ c ∈ piece, isLeadingMark c = false ∧ isTrailingMark c = false) :
    tokensOfPiece piece = [lower piece] := by
  obtain ⟨first, rest, rfl⟩ := List.exists_cons_of_ne_nil hsome
  have hlead : isLeadingMark first = false := (hplain first List.mem_cons_self).1
  have hcore : dropWhileEnd isTrailingMark (first :: rest) = first :: rest :=
    dropWhileEnd_of_free fun c hc => (hplain c hc).2
  simp [tokensOfPiece, hlead, hcore]

theorem tokensOfPiece_eq (piece : List Char) : tokensOfPiece piece =
    let rest := piece.dropWhile isLeadingMark
    let core := dropWhileEnd isTrailingMark rest
    (piece.takeWhile isLeadingMark).map ([·]) ++ (if core.isEmpty then [] else [lower core]) ++
      (rest.reverse.takeWhile isTrailingMark).reverse.map ([·]) := by
  rw [tokensOfPiece, drop_length_dropWhileEnd]

section ReadAlike

variable {f : Char → Char} (hf : ∀ c, ReadAlike c (f c))
include hf

theorem takeWhile_map_mark {p : Char → Bool} (hp : ∀ c, p (f c) = p c)
    (hmark : ∀ c, p c = true → isLeadingMark c = true ∨ isTrailingMark c = true)
    (text : List Char) : (text.map f).takeWhile p = text.takeWhile p := by
  have hfix : ∀ c ∈ text.takeWhile p, f c = c :=
    fun c hc => (hf c).eq_of_mark (hmark c (List.mem_takeWhile_imp hc))
  have hpf : p ∘ f = p := funext hp
  rw [List.takeWhile_map, hpf, List.map_congr_left hfix, List.map_id']

theorem tokensOfPiece_map (piece : List Char) :
    tokensOfPiece (piece.map f) = tokensOfPiece piece := by
  have hlead : isLeadingMark ∘ f = isLeadingMark := funext fun c => (hf c).isLeadingMark_eq
  have htrail : isTrailingMark ∘ f = isTrailingMark := funext fun c => (hf c).isTrailingMark_eq
  have hfront : (piece.map f).takeWhile isLeadingMark = piece.takeWhile isLeadingMark :=
    takeWhile_map_mark hf (fun c => (hf c).isLeadingMark_eq) (fun _ => Or.inl) piece
  have hrest : (piece.map f).dropWhile isLeadingMark = (piece.dropWhile isLeadingMark).map f := by
    rw [List.dropWhile_map, hlead]
  have hcore (rest : List Char) : dropWhileEnd isTrailingMark (rest.map f) =
      (dropWhileEnd isTrailingMark rest).map f := by
    rw [dropWhileEnd_map, htrail]
  have hend (rest : List Char) : (rest.map f).reverse.takeWhile isTrailingMark =
      rest.reverse.takeWhile isTrailingMark := by
    rw [← List.map_reverse]
    exact takeWhile_map_mark hf (fun c => (hf c).isTrailingMark_eq) (fun _ => Or.inr) rest.reverse
  simp only [tokensOfPiece_eq, hfront, hrest, hcore, hend, List.isEmpty_map,
    lower_map fun c => (hf c).toAlike]

theorem tokens_map (text : List Char) : tokens (text.map f) = tokens text := by
  have hblank : isBlank ∘ f = isBlank := funext fun c => (hf c).isBlank_eq
  simp only [tokens, words, pieces_map, hblank, List.flatMap_map]
  exact List.flatMap_congr fun piece _ => tokensOfPiece_map hf piece

end ReadAlike

theorem tokens_asciiLower (text : List Char) : tokens (asciiLower text) = tokens text :=
  tokens_map readAlike_toLower text

theorem tokens_replace {c d : Char} (h : ReadAlike c d) (front rest : List Char) :
    tokens (front ++ d :: rest) = tokens (front ++ c :: rest) := by
  -- what the two texts become when the one character takes the place of the other throughout
  let undo (x : Char) : Char := if x = d then c else x
  have hundo (x : Char) : ReadAlike x (undo x) := by
    by_cases hx : x = d
    · rw [hx, show undo d = c from if_pos rfl]
      exact h.symm
    · rw [show undo x = x from if_neg hx]
      exact .refl x
  have hsame : undo d = undo c := by
    show (if d = d then c else d) = if c = d then c else c
    rw [if_pos rfl, ite_self]
  rw [← tokens_map hundo (front ++ d :: rest), ← tokens_map hundo (front ++ c :: rest)]
  simp only [List.map_append, List.map_cons, hsame]

end SemanticWiki.Grammar
