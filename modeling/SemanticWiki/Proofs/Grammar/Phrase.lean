import SemanticWiki.Grammar.Registry
import SemanticWiki.Proofs.Grammar.Form
import SemanticWiki.Proofs.Grammar.Joining
import SemanticWiki.Proofs.Text.Accented

/-! Sentences that are joined from phrases and marks. What a reader sees of such a sentence is what he
would see of its parts one by one: every mark, and every word of the phrases in small letters. -/

namespace SemanticWiki.Piece

open Text Grammar

def accentedLetters : List Char :=
  (Language.builtin.flatMap Language.functionWords).flatMap fun word =>
    word.toList.filter fun c => isLetter c && !c.isAlpha

theorem accentedLetters_latin :
    (accentedLetters.all fun a => accentedCodes.contains a.toNat) = true := by
  decide +kernel

def isPhraseLetter (c : Char) : Bool :=
  c.isAlpha || accentedLetters.any fun a => c == a || upperChar a == [c]

def isPhraseChar (c : Char) : Bool := isPhraseLetter c || c.isDigit || c == '-' || c == ' '

structure IsPhrase (text : List Char) : Prop where
  first : text.head?.any isPhraseLetter = true
  chars : text.all isPhraseChar = true
  spaced : [' '].intercalate (words text) = text

instance (text : List Char) : Decidable (IsPhrase text) :=
  decidable_of_iff (text.head?.any isPhraseLetter = true ∧ text.all isPhraseChar = true ∧
      [' '].intercalate (words text) = text)
    ⟨fun ⟨hfirst, hchars, hspaced⟩ => ⟨hfirst, hchars, hspaced⟩,
      fun ⟨hfirst, hchars, hspaced⟩ => ⟨hfirst, hchars, hspaced⟩⟩

theorem forall_phraseLetter {p : Char → Prop} (hbasic : ∀ c, c.isAlpha = true → p c)
    (haccented : ∀ n ∈ accentedCodes, p (Char.ofNat n) ∧ p (accentedCapital n)) {c : Char}
    (hc : isPhraseLetter c = true) : p c := by
  rw [isPhraseLetter, Bool.or_eq_true, List.any_eq_true] at hc
  rcases hc with hc | ⟨a, ha, hca⟩
  · exact hbasic c hc
  · have hcode : a.toNat ∈ accentedCodes :=
      List.contains_iff_mem.1 (List.all_eq_true.1 accentedLetters_latin a ha)
    obtain ⟨hsmall, hcapital⟩ := haccented a.toNat hcode
    have hupper := (upperChar_accented a.toNat hcode).1
    rw [Char.ofNat_toNat] at hsmall hupper
    rw [hupper, Bool.or_eq_true, beq_iff_eq, beq_iff_eq, List.singleton_inj] at hca
    rcases hca with rfl | rfl
    · exact hsmall
    · exact hcapital

theorem isLetter_of_phraseLetter {c : Char} (hc : isPhraseLetter c = true) : isLetter c = true :=
  forall_phraseLetter (p := fun c => isLetter c = true) (fun _ => isLetter_of_isAlpha)
    (by decide +kernel) hc

theorem hasPlainCapital_of_phraseLetter {c : Char} (hc : isPhraseLetter c = true) :
    HasPlainCapital c := by
  have hmarks : ∀ n ∈ accentedCodes, isLeadingMark (accentedCapital n) = isLeadingMark (Char.ofNat n) ∧
      isTrailingMark (accentedCapital n) = isTrailingMark (Char.ofNat n) := by
    decide +kernel
  refine forall_phraseLetter (p := HasPlainCapital) (fun d hd => ?_) (fun n hn => ?_) hc
  · exact hasPlainCapital_of_basic (basic_of_isAlpha hd)
  · obtain ⟨hsmall, hcapital⟩ := upperChar_accented n hn
    obtain ⟨hlead, htrail⟩ := hmarks n hn
    exact ⟨⟨accentedCapital n, hsmall, alike_accented hn, hlead, htrail⟩,
      ⟨accentedCapital n, hcapital, .refl _⟩⟩

theorem unmarked_of_phraseChar {c : Char} (hc : isPhraseChar c = true) :
    isLeadingMark c = false ∧ isTrailingMark c = false := by
  let p (c : Char) : Prop := isLeadingMark c = false ∧ isTrailingMark c = false
  have hbasic {d : Char} (hd : d.isAlphanum = true) : p d :=
    forall_basic (p := fun d => d.isAlphanum = true → p d) (by decide) (basic_of_isAlphanum hd) hd
  simp only [isPhraseChar, Bool.or_eq_true, beq_iff_eq] at hc
  rcases hc with ((hletter | hdigit) | rfl) | rfl
  · refine forall_phraseLetter (p := p) (fun d hd => ?_) (by decide +kernel) hletter
    exact hbasic (by simp [Char.isAlphanum, hd])
  · exact hbasic (by simp [Char.isAlphanum, hdigit])
  · decide
  · decide

namespace IsPhrase

variable {text : List Char} (h : IsPhrase text)
include h

theorem firstLetterPlain : FirstLetterPlain text := by
  obtain ⟨c, hc, hletter⟩ := (Option.any_eq_true _ _).1 h.first
  obtain ⟨rest, rfl⟩ := List.head?_eq_some_iff.1 hc
  intro d hd
  rw [List.find?_cons_of_pos (isLetter_of_phraseLetter hletter)] at hd
  exact Option.some.inj hd ▸ hasPlainCapital_of_phraseLetter hletter

theorem tokens_eq : Grammar.tokens text = (words text).map lower := by
  rw [Grammar.tokens, List.map_eq_flatMap]
  refine List.flatMap_congr fun word hword => ?_
  have hunmarked : ∀ c ∈ word, isLeadingMark c = false ∧ isTrailingMark c = false := by
    intro c hc
    have hmem : c ∈ text := h.spaced ▸ mem_intercalate_of_mem hword hc
    exact unmarked_of_phraseChar (List.all_eq_true.1 h.chars c hmem)
  exact tokensOfPiece_of_unmarked (mem_pieces hword).1 hunmarked

end IsPhrase

theorem tokenize_join (pieces : List Piece) (hmarks : ∀ p ∈ pieces, p.WellMarked)
    (hphrases : ∀ p ∈ pieces, p.isMark = false → IsPhrase p.text) :
    tokenize (String.ofList (join pieces)) =
      pieces.flatMap (fun p => tokenize (String.ofList p.text)) ∧
    ∀ p ∈ pieces, tokenize (String.ofList p.text) =
      if p.isMark then [String.ofList p.text]
      else (words p.text).map fun word => String.ofList (lower word) := by
  have hmark {p : Piece} (hp : p ∈ pieces) (hpmark : p.isMark = true) :
      p.text.find? isLetter = none ∧ Grammar.tokens p.text = [p.text] := by
    obtain ⟨m, hm, hside⟩ := hmarks p hp hpmark
    obtain ⟨hletter, htokens⟩ := mark_spec hside
    rw [hm]
    exact ⟨by simp [hletter], htokens⟩
  have hfirst : ∀ p ∈ pieces, FirstLetterPlain p.text := by
    intro p hp
    cases hpmark : p.isMark with
    | true =>
      intro c hc
      rw [(hmark hp hpmark).1] at hc
      cases hc
    | false => exact (hphrases p hp hpmark).firstLetterPlain
  refine ⟨?_, fun p hp => ?_⟩
  · rw [tokenize, String.toList_ofList, tokens_join hmarks hfirst, List.map_flatMap]
    simp only [tokenize, String.toList_ofList]
  · rw [tokenize, String.toList_ofList]
    cases hpmark : p.isMark with
    | true => rw [(hmark hp hpmark).2, if_pos rfl, List.map_singleton]
    | false =>
      rw [(hphrases p hp hpmark).tokens_eq, if_neg Bool.false_ne_true, List.map_map]
      rfl

def surveyQuestion : List Piece :=
  [⟨"¿".toList, true⟩, ⟨"útil New York".toList, false⟩, ⟨",".toList, true⟩,
    ⟨"x-ray 2".toList, false⟩, ⟨"?".toList, true⟩]

theorem surveyQuestion_read :
    String.ofList (join surveyQuestion) = "¿Útil New York, x-ray 2?" ∧
      tokenize "¿Útil New York, x-ray 2?" = ["¿", "útil", "new", "york", ",", "x-ray", "2", "?"] := by
  have hjoin : String.ofList (join surveyQuestion) = "¿Útil New York, x-ray 2?" := by decide +kernel
  have hmarks : ∀ p ∈ surveyQuestion, p.WellMarked := by
    simp [surveyQuestion, WellMarked, isLeadingMark, isTrailingMark]
  have hphrases : ∀ p ∈ surveyQuestion, p.isMark = false → IsPhrase p.text := by decide +kernel
  have hread := (tokenize_join surveyQuestion hmarks hphrases).1
  rw [hjoin] at hread
  refine ⟨hjoin, hread.trans ?_⟩
  decide +kernel

end SemanticWiki.Piece
