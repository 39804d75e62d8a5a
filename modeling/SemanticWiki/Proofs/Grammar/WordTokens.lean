import SemanticWiki.Grammar.Language
import SemanticWiki.Proofs.Grammar.Joining
import SemanticWiki.Proofs.Word.NormalForm

/-! What a reader sees of a word. The tokens of a well-formed word are its parts in lowercase, in
every form in which a language shows it. So they tell as much about a word as its key does. -/

namespace SemanticWiki

open Text

namespace Text

theorem lowerAfter_of_basic {text : List Char} (h : ∀ c ∈ text, c.toNat < 0x80)
    (before : List Char) : lowerAfter before text = asciiLower text := by
  induction text generalizing before with
  | nil => rfl
  | cons c rest ih =>
    obtain ⟨hc, hrest⟩ := List.forall_mem_cons.1 h
    have hsigma : c ≠ 'Σ' := by
      rintro rfl
      exact absurd hc (by decide)
    rw [lowerAfter, if_neg hsigma, ih hrest, lowerChar, if_pos hc]
    rfl

theorem lower_of_basic {text : List Char} (h : ∀ c ∈ text, c.toNat < 0x80) :
    lower text = asciiLower text := lowerAfter_of_basic h []

theorem compose_of_basic {text : List Char} (h : ∀ c ∈ text, c.toNat < 0x80) :
    compose text = text := by
  refine if_pos (List.all_eq_true.2 fun c hc => ?_)
  have hbasic : c.toNat < 0x80 := h c hc
  simp only [decide_eq_true_eq]
  omega

end Text

namespace Grammar

theorem asciiLower_capitalizeWords {text : List Char} (h : ∀ c ∈ text, c.toNat < 0x80) :
    asciiLower (capitalizeWords text) = asciiLower text := by
  rw [capitalizeWords]
  generalize true = start
  induction text generalizing start with
  | nil => rfl
  | cons c rest ih =>
    obtain ⟨hc, hrest⟩ := List.forall_mem_cons.1 h
    rw [capitalizeWords.go]
    split
    · rename_i hspace
      subst hspace
      exact congrArg (' ' :: ·) (ih hrest true)
    · have hfirst : asciiLower (if start then upperChar c else [c]) = [c.toLower] := by
        split
        · exact Piece.asciiLower_upperChar hc
        · rfl
      rw [asciiLower_append, hfirst, ih hrest]
      rfl

end Grammar

namespace Word

def tokens (word : String) : List String := Grammar.tokenize (pretty word)

def isPartChar (c : Char) : Bool := c.isAlphanum || c == '-'

theorem isPartChar_spec {c : Char} (hc : isPartChar c = true) :
    c.toNat < 0x80 ∧ isBlank c = false ∧ Grammar.isLeadingMark c = false ∧
      Grammar.isTrailingMark c = false ∧ c ≠ '_' := by
  have hbasic : c.toNat < 0x80 := by
    simp only [isPartChar, Bool.or_eq_true, beq_iff_eq] at hc
    rcases hc with hc | rfl
    · exact basic_of_isAlphanum hc
    · decide
  exact forall_basic (p := fun c => isPartChar c = true → c.toNat < 0x80 ∧ isBlank c = false ∧
    Grammar.isLeadingMark c = false ∧ Grammar.isTrailingMark c = false ∧ c ≠ '_')
    (by decide +kernel) hbasic hc

theorem isPartChar_toLower (c : Char) : isPartChar c.toLower = isPartChar c :=
  apply_toLower isPartChar (by decide) c

/-- The word consists of these parts, with an underscore between any two. -/
structure HasParts (word : String) (parts : List (List Char)) : Prop where
  text : word.toList = ['_'].intercalate parts
  nonempty : ∀ part ∈ parts, part ≠ []
  chars : ∀ part ∈ parts, ∀ c ∈ part, isPartChar c = true

theorem hasParts_normalize {raw : String} (hvalid : isValidOrEmpty (normalize raw) = true) :
    ∃ parts, HasParts (normalize raw) parts := by
  have htext := toList_normalize raw
  refine ⟨_, htext, fun part hpart => (mem_pieces hpart).1, fun part hpart c hc => ?_⟩
  have hfree : isSeparator c = false := (mem_pieces hpart).2 c hc
  have hmem : c ∈ (normalize raw).toList := htext ▸ mem_intercalate_of_mem hpart hc
  have hchar : isWordChar c = true := by
    unfold isValidOrEmpty at hvalid
    split at hvalid
    · rename_i hnil
      rw [hnil] at hmem
      cases hmem
    · rename_i first rest hcons
      rw [Bool.and_eq_true, List.all_eq_true] at hvalid
      rw [hcons] at hmem
      rcases List.mem_cons.1 hmem with rfl | hmem
      · simp [isWordChar, Char.isAlphanum, hvalid.1]
      · exact hvalid.2 c hmem
  have hspace : c ≠ ' ' := by
    rintro rfl
    exact absurd hfree (by decide)
  simpa [isWordChar, isPartChar, not_underscore hfree, hspace] using hchar

variable {word other : String} {parts parts' : List (List Char)}

theorem basic_of_mem_intercalate {separator : Char} (hseparator : separator.toNat < 0x80)
    (hchars : ∀ part ∈ parts, ∀ c ∈ part, isPartChar c = true) :
    ∀ c ∈ [separator].intercalate parts, c.toNat < 0x80 := by
  intro c hc
  rcases mem_intercalate hc with rfl | ⟨part, hpart, hc⟩
  · exact hseparator
  · exact (isPartChar_spec (hchars part hpart c hc)).1

theorem HasParts.basic (h : HasParts word parts) : ∀ c ∈ word.toList, c.toNat < 0x80 := by
  rw [h.text]
  exact basic_of_mem_intercalate (by decide) h.chars

theorem HasParts.toList_pretty (h : HasParts word parts) :
    (pretty word).toList = [' '].intercalate parts := by
  have hparts : parts.map (List.map fun c => if c = '_' then ' ' else c) = parts := by
    refine (List.map_congr_left fun part hpart => ?_).trans (List.map_id parts)
    refine (List.map_congr_left fun c hc => ?_).trans (List.map_id part)
    exact if_neg (isPartChar_spec (h.chars part hpart c hc)).2.2.2.2
  rw [pretty, String.toList_map, h.text, map_intercalate, hparts]
  rfl

theorem tokensOfPiece_of_part {part : List Char} (hsome : part ≠ [])
    (hchars : ∀ c ∈ part, isPartChar c = true) :
    Grammar.tokensOfPiece part = [asciiLower part] := by
  have hplain : ∀ c ∈ part, Grammar.isLeadingMark c = false ∧ Grammar.isTrailingMark c = false := by
    intro c hc
    obtain ⟨-, -, hlead, htrail, -⟩ := isPartChar_spec (hchars c hc)
    exact ⟨hlead, htrail⟩
  have hlower : lower part = asciiLower part :=
    lower_of_basic fun c hc => (isPartChar_spec (hchars c hc)).1
  rw [Grammar.tokensOfPiece_of_unmarked hsome hplain, hlower]

theorem HasParts.tokens_eq (h : HasParts word parts) :
    tokens word = parts.map fun part => String.ofList (asciiLower part) := by
  have hwords : Text.words (pretty word).toList = parts := by
    rw [h.toList_pretty]
    refine pieces_intercalate (by decide) fun part hpart => ⟨h.nonempty part hpart, ?_⟩
    exact fun c hc => (isPartChar_spec (h.chars part hpart c hc)).2.1
  have htokens : parts.flatMap Grammar.tokensOfPiece = parts.map asciiLower := by
    rw [List.map_eq_flatMap]
    exact List.flatMap_congr fun part hpart =>
      tokensOfPiece_of_part (h.nonempty part hpart) (h.chars part hpart)
  rw [tokens, Grammar.tokenize, Grammar.tokens, hwords, htokens, List.map_map]
  rfl

theorem HasParts.tokens_ne_nil (h : HasParts word parts) (hword : word ≠ "") :
    tokens word ≠ [] := by
  rw [h.tokens_eq]
  intro hnil
  obtain rfl := List.map_eq_nil_iff.1 hnil
  exact hword (String.toList_eq_nil_iff.1 h.text)

theorem HasParts.key_eq (h : HasParts word parts) :
    key word = String.ofList (['_'].intercalate (parts.map asciiLower)) := by
  rw [key, lower_of_basic h.basic, asciiLower, h.text, map_intercalate]
  rfl

theorem HasParts.not_mark (h : HasParts word parts) {m : Char}
    (hm : (Grammar.isLeadingMark m || Grammar.isTrailingMark m) = true) :
    String.ofList [m] ∉ tokens word := by
  rw [h.tokens_eq]
  intro hmem
  obtain ⟨part, hpart, htext⟩ := List.mem_map.1 hmem
  have hlower : asciiLower part = [m] := by simpa using congrArg String.toList htext
  obtain ⟨c, rfl, rfl⟩ := List.map_eq_singleton_iff.1 hlower
  have hchar : isPartChar c = true := h.chars [c] hpart c (List.mem_singleton_self c)
  obtain ⟨-, -, hlead, htrail, -⟩ := isPartChar_spec hchar
  simp [Grammar.isLeadingMark_toLower, Grammar.isTrailingMark_toLower, hlead, htrail] at hm

theorem key_eq_of_tokens_eq (h : HasParts word parts) (h' : HasParts other parts')
    (htokens : tokens word = tokens other) : key word = key other := by
  have hparts : parts.map asciiLower = parts'.map asciiLower := by
    rw [h.tokens_eq, h'.tokens_eq] at htokens
    have htexts := congrArg (List.map String.toList) htokens
    simpa [Function.comp_def] using htexts
  rw [h.key_eq, h'.key_eq, hparts]

theorem hasParts_joined (hnonempty : ∀ part ∈ parts, part ≠ [])
    (hchars : ∀ part ∈ parts, ∀ c ∈ part, isPartChar c = true) :
    HasParts (normalize (" ".intercalate (parts.map String.ofList))) parts := by
  refine ⟨?_, hnonempty, hchars⟩
  have htext : (" ".intercalate (parts.map String.ofList)).toList = [' '].intercalate parts := by
    simp [String.toList_intercalate, Function.comp_def]
  have hbasic : ∀ c ∈ [' '].intercalate parts, c.toNat < 0x80 :=
    basic_of_mem_intercalate (by decide) hchars
  have hfree : ∀ part ∈ parts, part ≠ [] ∧ ∀ c ∈ part, isSeparator c = false := by
    refine fun part hpart => ⟨hnonempty part hpart, fun c hc => ?_⟩
    obtain ⟨-, hblank, -, -, hunderscore⟩ := isPartChar_spec (hchars part hpart c hc)
    simp [isSeparator, hblank, hunderscore]
  rw [toList_normalize, htext, compose_of_basic hbasic, pieces_intercalate (by decide) hfree]

theorem HasParts.hasParts_key (h : HasParts word parts) :
    HasParts (key word) (parts.map asciiLower) := by
  refine ⟨?_, ?_, ?_⟩
  · rw [h.key_eq, String.toList_ofList]
  · intro lowered hlowered
    obtain ⟨part, hpart, rfl⟩ := List.mem_map.1 hlowered
    simpa [asciiLower] using h.nonempty part hpart
  · intro lowered hlowered c hc
    obtain ⟨part, hpart, rfl⟩ := List.mem_map.1 hlowered
    obtain ⟨d, hd, rfl⟩ := List.mem_map.1 hc
    rw [isPartChar_toLower]
    exact h.chars part hpart d hd

theorem HasParts.tokens_key (h : HasParts word parts) : tokens (key word) = tokens word := by
  rw [h.hasParts_key.tokens_eq, h.tokens_eq, List.map_map]
  simp only [Function.comp_def, asciiLower_asciiLower]

theorem tokens_eq_of_key_eq (h : HasParts word parts) (h' : HasParts other parts')
    (hkey : key word = key other) : tokens word = tokens other := by
  rw [← h.tokens_key, ← h'.tokens_key, hkey]

theorem HasParts.normalize_tokens (h : HasParts word parts) :
    normalize (" ".intercalate (tokens word)) = key word := by
  have hkey := h.hasParts_key
  have hjoined := hasParts_joined hkey.nonempty hkey.chars
  have htokens : tokens word = (parts.map asciiLower).map String.ofList := by
    rw [h.tokens_eq, List.map_map]
    rfl
  rw [htokens, ← String.toList_inj, hjoined.text, hkey.text]

theorem HasParts.key_key (h : HasParts word parts) : key (key word) = key word := by
  rw [h.hasParts_key.key_eq, h.key_eq, List.map_map]
  simp only [Function.comp_def, asciiLower_asciiLower]

theorem HasParts.tokenize_inflect (h : HasParts word parts) (g : Language) (cat : Cat) :
    Grammar.tokenize (g.inflect cat word) = tokens word := by
  have hbasic : ∀ c ∈ (pretty word).toList, c.toNat < 0x80 := by
    rw [h.toList_pretty]
    exact basic_of_mem_intercalate (by decide) h.chars
  rw [Language.inflect]
  split
  · rw [tokens, Grammar.tokenize, Grammar.tokenize, String.toList_ofList,
      ← Grammar.tokens_asciiLower, Grammar.asciiLower_capitalizeWords hbasic,
      Grammar.tokens_asciiLower]
  · rfl

end Word

end SemanticWiki
