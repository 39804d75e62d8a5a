import SemanticWiki.Proofs.Grammar.Token
import SemanticWiki.Proofs.Text.Lowercase

/-! What becomes of the characters of a text. Between blanks a text consists of chunks, and a chunk of
marks in front, a core and marks behind. Every mark is a token and so is the core in lowercase, so
nothing is lost but blanks and capitals. And nothing is left to do: the tokens with blanks between them
have the same tokens again. -/

namespace SemanticWiki.Grammar

open Text

theorem not_leading_of_small {d : Char} (h : Small d) : isLeadingMark d = false := by
  rw [← Bool.not_eq_true]
  intro hmark
  exact h.reached (forall_leadingMark (p := fun m => m.toNat ∈ unreached) (by decide +kernel) hmark)

theorem not_trailing_of_small {d : Char} (h : Small d) : isTrailingMark d = false := by
  rw [← Bool.not_eq_true]
  intro hmark
  exact h.reached (forall_trailingMark (p := fun m => m.toNat ∈ unreached) (by decide +kernel) hmark)

/-- A chunk with all the marks that can be taken off it, first in front and then behind. -/
structure Chunk where
  lead : List Char
  core : List Char
  trail : List Char
  lead_marks : ∀ c ∈ lead, isLeadingMark c = true
  trail_marks : ∀ c ∈ trail, isTrailingMark c = true
  lead_longest : ∀ c ∈ (core ++ trail).head?, isLeadingMark c = false
  trail_longest : ∀ c ∈ core.getLast?, isTrailingMark c = false

namespace Chunk

def text (chunk : Chunk) : List Char := chunk.lead ++ (chunk.core ++ chunk.trail)

def tokens (chunk : Chunk) : List (List Char) :=
  chunk.lead.map ([·]) ++ (if chunk.core = [] then [] else [lower chunk.core]) ++
    chunk.trail.map ([·])

theorem exists_text_eq (piece : List Char) : ∃ chunk : Chunk, chunk.text = piece := by
  have hlead := List.takeWhile_append_dropWhile (p := isLeadingMark) (l := piece)
  have hfirst := List.head?_dropWhile_not isLeadingMark piece
  generalize hrest : piece.dropWhile isLeadingMark = rest at hlead hfirst
  have hcut := dropWhileEnd_append_takeWhile isTrailingMark rest
  have hlast := List.head?_dropWhile_not isTrailingMark rest.reverse
  have htext : piece.takeWhile isLeadingMark ++ (dropWhileEnd isTrailingMark rest ++
      (rest.reverse.takeWhile isTrailingMark).reverse) = piece := by
    rw [hcut, hlead]
  refine ⟨⟨piece.takeWhile isLeadingMark, dropWhileEnd isTrailingMark rest,
    (rest.reverse.takeWhile isTrailingMark).reverse, ?_, ?_, ?_, ?_⟩, ?_⟩
  · exact fun c hc => List.mem_takeWhile_imp hc
  · exact fun c hc => List.mem_takeWhile_imp (List.mem_reverse.1 hc)
  · intro c hc
    rw [hcut] at hc
    simpa [Option.mem_def.1 hc] using hfirst
  · intro c hc
    rw [dropWhileEnd, List.getLast?_reverse] at hc
    simpa [Option.mem_def.1 hc] using hlast
  · exact htext

theorem dropWhileEnd_core (chunk : Chunk) :
    dropWhileEnd isTrailingMark (chunk.core ++ chunk.trail) = chunk.core := by
  have htrail : dropWhileEnd isTrailingMark chunk.trail = [] := by
    rw [dropWhileEnd, List.reverse_eq_nil_iff, List.dropWhile_eq_nil_iff]
    exact fun c hc => chunk.trail_marks c (List.mem_reverse.1 hc)
  rw [dropWhileEnd_append, htrail, List.isEmpty_nil, if_pos rfl]
  rcases List.eq_nil_or_concat chunk.core with hnil | ⟨front, last, hconcat⟩
  · rw [hnil]
    rfl
  · have hlast : isTrailingMark last = false :=
      chunk.trail_longest last (by rw [hconcat, List.concat_eq_append, List.getLast?_concat]; rfl)
    have hkept : dropWhileEnd isTrailingMark [last] = [last] := dropWhileEnd_of_free (by simpa using hlast)
    rw [hconcat, List.concat_eq_append, dropWhileEnd_append, hkept]
    rfl

theorem tokensOfPiece_text (chunk : Chunk) : tokensOfPiece chunk.text = chunk.tokens := by
  have hrest : (chunk.core ++ chunk.trail).takeWhile isLeadingMark = [] ∧
      (chunk.core ++ chunk.trail).dropWhile isLeadingMark = chunk.core ++ chunk.trail := by
    have hfirst := chunk.lead_longest
    cases hcase : chunk.core ++ chunk.trail with
    | nil => exact ⟨rfl, rfl⟩
    | cons c rest =>
      rw [hcase] at hfirst
      have hc : ¬ isLeadingMark c = true := by simpa using hfirst c rfl
      exact ⟨List.takeWhile_cons_of_neg hc, List.dropWhile_cons_of_neg hc⟩
  have hlead : chunk.text.takeWhile isLeadingMark = chunk.lead := by
    rw [text, List.takeWhile_append_of_pos chunk.lead_marks, hrest.1, List.append_nil]
  have hbehind : chunk.text.dropWhile isLeadingMark = chunk.core ++ chunk.trail := by
    rw [text, List.dropWhile_append_of_pos chunk.lead_marks, hrest.2]
  simp only [tokensOfPiece, hlead, hbehind, chunk.dropWhileEnd_core, List.drop_left, tokens,
    List.isEmpty_iff]

theorem tokensOfPiece_token (chunk : Chunk) {token : List Char} (h : token ∈ chunk.tokens) :
    tokensOfPiece token = [token] := by
  rw [tokens, List.mem_append, List.mem_append] at h
  rcases h with (hlead | hcore) | htrail
  · obtain ⟨m, hm, rfl⟩ := List.mem_map.1 hlead
    exact tokensOfPiece_cons_leadingMark (chunk.lead_marks m hm) []
  · split at hcore
    · cases hcore
    · rename_i hsome
      obtain rfl := List.mem_singleton.1 hcore
      have hfirst : ∀ c ∈ chunk.core.head?, isLeadingMark c = false := by
        intro c hc
        apply chunk.lead_longest
        rwa [List.head?_append_of_ne_nil _ hsome]
      have hlowered : ∀ c ∈ (lower chunk.core ++ []).head?, isLeadingMark c = false := by
        rw [List.append_nil]
        exact head?_lower_free (fun _ => not_leading_of_small) hfirst
      have hlast := getLast?_lower_free (fun _ => not_trailing_of_small) chunk.trail_longest
      have hagain := tokensOfPiece_text ⟨[], lower chunk.core, [], by simp, by simp, hlowered, hlast⟩
      rw [text, tokens, List.nil_append, List.append_nil] at hagain
      rw [hagain, if_neg (lower_ne_nil hsome), lower_lower]
      rfl
  · obtain ⟨m, hm, rfl⟩ := List.mem_map.1 htrail
    exact tokensOfPiece_concat_trailingMark (chunk.trail_marks m hm) []

theorem token_free (chunk : Chunk) (hfree : ∀ c ∈ chunk.text, isBlank c = false)
    {token : List Char} (h : token ∈ chunk.tokens) :
    token ≠ [] ∧ ∀ c ∈ token, isBlank c = false := by
  rw [text, List.forall_mem_append, List.forall_mem_append] at hfree
  obtain ⟨hlead, hcore, htrail⟩ := hfree
  rw [tokens, List.mem_append, List.mem_append] at h
  rcases h with (hmark | hword) | hmark
  · obtain ⟨m, hm, rfl⟩ := List.mem_map.1 hmark
    exact ⟨List.cons_ne_nil m [], by simpa using hlead m hm⟩
  · split at hword
    · cases hword
    · rename_i hsome
      obtain rfl := List.mem_singleton.1 hword
      exact ⟨lower_ne_nil hsome, lower_free (fun _ => Small.not_blank) hcore⟩
  · obtain ⟨m, hm, rfl⟩ := List.mem_map.1 hmark
    exact ⟨List.cons_ne_nil m [], by simpa using htrail m hm⟩

end Chunk

theorem exists_chunks (text : List Char) : ∃ chunks : List Chunk,
    Spaced isBlank (chunks.map Chunk.text) (' ' :: text) ∧
      tokens text = chunks.flatMap Chunk.tokens := by
  choose chunkOf htext using Chunk.exists_text_eq
  have hpieces : (words text).map (Chunk.text ∘ chunkOf) = words text :=
    (List.map_congr_left fun piece _ => htext piece).trans (List.map_id _)
  refine ⟨(words text).map chunkOf, ?_, ?_⟩
  · rw [List.map_map, hpieces]
    exact spaced_pieces (by decide) text
  · rw [tokens, List.flatMap_map]
    refine List.flatMap_congr fun piece _ => ?_
    rw [← (chunkOf piece).tokensOfPiece_text, htext]

theorem mem_tokens {text token : List Char} (h : token ∈ tokens text) :
    token ≠ [] ∧ (∀ c ∈ token, isBlank c = false) ∧ tokensOfPiece token = [token] := by
  obtain ⟨piece, hpiece, htoken⟩ := List.mem_flatMap.1 h
  obtain ⟨chunk, rfl⟩ := Chunk.exists_text_eq piece
  rw [chunk.tokensOfPiece_text] at htoken
  obtain ⟨hsome, hfree⟩ := chunk.token_free (mem_pieces hpiece).2 htoken
  exact ⟨hsome, hfree, chunk.tokensOfPiece_token htoken⟩

theorem tokens_intercalate_tokens (text : List Char) :
    tokens ([' '].intercalate (tokens text)) = tokens text := by
  have hwords : words ([' '].intercalate (tokens text)) = tokens text :=
    pieces_intercalate (by decide) fun token htoken =>
      ⟨(mem_tokens htoken).1, (mem_tokens htoken).2.1⟩
  rw [tokens, hwords]
  calc (tokens text).flatMap tokensOfPiece
      = (tokens text).flatMap ([·]) := List.flatMap_congr fun token htoken => (mem_tokens htoken).2.2
    _ = tokens text := List.flatMap_singleton' _

theorem tokenize_lossless_and_stable (text : String) :
    (∃ chunks : List Chunk, Spaced isBlank (chunks.map Chunk.text) (' ' :: text.toList) ∧
      tokenize text = (chunks.flatMap Chunk.tokens).map String.ofList) ∧
    (∀ token ∈ tokenize text, token ≠ "" ∧ ∀ c ∈ token.toList, isBlank c = false) ∧
    tokenize (" ".intercalate (tokenize text)) = tokenize text := by
  refine ⟨?_, ?_, ?_⟩
  · obtain ⟨chunks, hspaced, htokens⟩ := exists_chunks text.toList
    exact ⟨chunks, hspaced, by rw [tokenize, htokens]⟩
  · intro word hword
    obtain ⟨token, htoken, rfl⟩ := List.mem_map.1 hword
    obtain ⟨hsome, hfree, -⟩ := mem_tokens htoken
    refine ⟨?_, by rwa [String.toList_ofList]⟩
    rwa [Ne, ← String.toList_eq_nil_iff, String.toList_ofList]
  · have htext : (" ".intercalate (tokenize text)).toList =
        [' '].intercalate (tokens text.toList) := by
      simp [tokenize, String.toList_intercalate, Function.comp_def]
    rw [tokenize, htext, tokens_intercalate_tokens, tokenize]

example : tokenize "¿¡Ab¿c.Ä!?, .." = ["¿", "¡", "ab¿c.ä", "!", "?", ",", ".", "."] := by
  decide +kernel

end SemanticWiki.Grammar
