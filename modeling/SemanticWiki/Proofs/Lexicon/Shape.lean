import SemanticWiki.Proofs.Grammar.WordTokens
import SemanticWiki.Proofs.Lexicon.Validation

/-! The shape of words that an editor can save. What passes the checks is empty or starts with a
basic letter, and it keeps that letter in every form in which a language shows it. -/

namespace SemanticWiki

open Text

def Element.WellWorded (e : Element) : Prop :=
  ∀ word, .word word ∈ e.values →
    word = "" ∨ Word.isValidOrEmpty word = true ∧ Word.isReserved word = false

theorem Element.mem_values_of_word {e : Element} {slot : Nat} (hslot : e.word slot ≠ "") :
    .word (e.word slot) ∈ e.values := by
  unfold Element.word at hslot ⊢
  cases hvalue : e.values[slot]? with
  | none => simp [hvalue] at hslot
  | some value =>
    cases value with
    | flag on => simp [hvalue, Value.word?] at hslot
    | word text => simpa [hvalue, Value.word?] using List.mem_of_getElem? hvalue

theorem Element.WellWorded.word {e : Element} (h : e.WellWorded) (slot : Nat)
    (hslot : e.word slot ≠ "") :
    Word.isValidOrEmpty (e.word slot) = true ∧ Word.isReserved (e.word slot) = false :=
  (h _ (Element.mem_values_of_word hslot)).resolve_left hslot

theorem Element.word_mem_words {e : Element} {slot : Nat} (hslot : e.word slot ≠ "") :
    e.word slot ∈ e.words := mem_words.2 ⟨mem_values_of_word hslot, hslot⟩

def Element.Checked (e : Element) : Prop :=
  ∃ raw, Lexicon.validateValues e.kind raw = .ok e.values

theorem Element.Checked.wellWorded {e : Element} (h : e.Checked) : e.WellWorded := by
  obtain ⟨raw, hraw⟩ := h
  exact fun word hword => Lexicon.validateValues_word hraw hword

theorem Element.Checked.hasParts {e : Element} (h : e.Checked) {word : String}
    (hword : word ∈ e.words) : ∃ parts, Word.HasParts word parts := by
  obtain ⟨raw, hraw⟩ := h
  obtain ⟨hvalue, hsome⟩ := Element.mem_words.1 hword
  obtain ⟨-, slot, text, -, -, ⟨-, hadmits⟩, rfl⟩ := Lexicon.entered_word hraw hvalue
  rw [if_neg hsome] at hadmits
  exact Word.hasParts_normalize hadmits.1

theorem Kind.exists_cat {kind : Kind} {i : Nat} {slot : Slot} (hslot : kind.slots[i]? = some slot)
    (hform : slot.form = .word) : ∃ cat : Cat, cat.kind = kind ∧ cat.slot = i := by
  have hcovered : ∀ kind ∈ all, kind.slots.length ≤ 3 ∧ ∀ i < 3, ∀ slot ∈ kind.slots[i]?,
      slot.form = .word → ∃ cat ∈ Cat.all, cat.kind = kind ∧ cat.slot = i := by decide
  have hkind : kind ∈ all := by cases kind <;> decide
  obtain ⟨hlength, hcats⟩ := hcovered kind hkind
  obtain ⟨hi, -⟩ := List.getElem?_eq_some_iff.1 hslot
  obtain ⟨cat, -, hcat⟩ := hcats i (Nat.lt_of_lt_of_le hi hlength) slot hslot hform
  exact ⟨cat, hcat⟩

theorem Element.Checked.exists_cat {e : Element} (h : e.Checked) {word : String}
    (hword : word ∈ e.words) : ∃ cat : Cat, cat.kind = e.kind ∧ e.word cat.slot = word := by
  obtain ⟨raw, hraw⟩ := h
  obtain ⟨i, slot, text, hslot, hvalue, ⟨hform, -⟩, -⟩ :=
    Lexicon.entered_word hraw (Element.mem_words.1 hword).1
  obtain ⟨cat, hkind, rfl⟩ := Kind.exists_cat hslot hform
  have hstored : e.word cat.slot = word := by
    rw [Element.word, hvalue]
    rfl
  exact ⟨cat, hkind, hstored⟩

theorem Language.inflect_firstLetterBasic (g : Language) (cat : Cat) {word : String}
    (hword : word ≠ "") (hvalid : Word.isValidOrEmpty word = true) :
    Piece.FirstLetterBasic (g.inflect cat word).toList := by
  obtain ⟨c, rest, htext⟩ : ∃ c rest, word.toList = c :: rest :=
    List.exists_cons_of_ne_nil (by simpa using hword)
  have hc : c.isAlpha = true := by
    simp only [Word.isValidOrEmpty, htext, Bool.and_eq_true] at hvalid
    exact hvalid.1
  have hbasic : c.toNat < 0x80 := basic_of_isAlpha hc
  have hpretty : ∃ more, (Word.pretty word).toList = c :: more := by
    have hne : c ≠ '_' := by rintro rfl; exact absurd hc (by decide)
    simp [Word.pretty, String.toList_map, htext, hne]
  obtain ⟨more, hpretty⟩ := hpretty
  rw [inflect]
  split
  · -- a language that capitalizes its nouns puts the capital of the letter in front
    have hne : c ≠ ' ' := by rintro rfl; exact absurd hc (by decide)
    obtain ⟨capital, hcapital, hupper⟩ := upperChar_of_isAlpha hc
    rw [String.toList_ofList, hpretty, Grammar.capitalizeWords, Grammar.capitalizeWords.go,
      if_neg hne, if_pos rfl, hcapital]
    exact Piece.firstLetterBasic_cons (isLetter_of_isAlpha hupper) (basic_of_isAlpha hupper) _
  · rw [hpretty]
    exact Piece.firstLetterBasic_cons (isLetter_of_isAlpha hc) hbasic more

end SemanticWiki
