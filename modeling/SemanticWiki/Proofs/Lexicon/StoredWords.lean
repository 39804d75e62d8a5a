import SemanticWiki.Proofs.Grammar.Form
import SemanticWiki.Proofs.Grammar.Typing
import SemanticWiki.Proofs.Lexicon.Upkeep

/-! Words as they are stored. The checks of the lexicon are made on the normal form, and nothing but
the lexicon brings in words. So whatever editors have entered, a stored word consists of parts in
basic letters, digits and hyphens, the one in front of which is no keyword of a built-in language. -/

namespace SemanticWiki

open Text

def Slot.Holds (slot : Slot) : Value → Prop
  | .flag _ => slot.form = .flag
  | .word text => slot.form = .word ∧ (slot.mandatory = true → text ≠ "")

theorem Slot.Admits.holds {slot : Slot} {value : Value} (h : slot.Admits value) :
    slot.Holds value.normal := by
  cases value with
  | flag on => exact h
  | word raw =>
    obtain ⟨hform, hword⟩ := h
    refine ⟨hform, fun hmandatory hempty => ?_⟩
    rw [if_pos hempty, hmandatory] at hword
    cases hword

namespace Word

variable {word : String} {first : List Char} {rest parts : List (List Char)}

theorem HasParts.normalize_eq (h : HasParts word parts) : normalize word = word := by
  have hpieces : pieces isSeparator word.toList = parts := by
    rw [h.text]
    refine pieces_intercalate (by decide) fun part hpart => ⟨h.nonempty part hpart, fun c hc => ?_⟩
    obtain ⟨-, hblank, -, -, hunderscore⟩ := isPartChar_spec (h.chars part hpart c hc)
    simp [isSeparator, hblank, hunderscore]
  rw [normalize, compose_of_basic h.basic, normalizeComposed_eq_intercalate, hpieces, ← h.text,
    String.ofList_toList]

theorem HasParts.takeWhile_eq (h : HasParts word (first :: rest)) :
    word.toList.takeWhile (· != '_') = first := by
  have hfirst : ∀ c ∈ first, (c != '_') = true := by
    intro c hc
    have hunderscore := (isPartChar_spec (h.chars first List.mem_cons_self c hc)).2.2.2.2
    simpa using hunderscore
  rw [h.text]
  cases rest with
  | nil => simpa using hfirst
  | cons next rest =>
    rw [List.intercalate_cons_cons, List.append_assoc, List.takeWhile_append_of_pos hfirst]
    simp

theorem HasParts.letter_of_valid (h : HasParts word (first :: rest))
    (hvalid : isValidOrEmpty word = true) : ∃ c more, first = c :: more ∧ c.isAlpha = true := by
  obtain ⟨c, more, rfl⟩ := List.exists_cons_of_ne_nil (h.nonempty first List.mem_cons_self)
  have htext : ∃ behind, word.toList = c :: behind := by
    rw [h.text]
    cases rest with
    | nil => exact ⟨more, by simp⟩
    | cons next rest => exact ⟨_, by rw [List.intercalate_cons_cons]; rfl⟩
  obtain ⟨behind, htext⟩ := htext
  rw [isValidOrEmpty, htext, Bool.and_eq_true] at hvalid
  exact ⟨c, more, rfl, hvalid.1⟩

theorem HasParts.first_of_unreserved (h : HasParts word (first :: rest))
    (hunreserved : isReserved word = false) :
    String.ofList (asciiLower first) ∉ functionWords := by
  rw [isReserved, Bool.or_eq_false_iff, h.takeWhile_eq] at hunreserved
  have hkeyword := hunreserved.2
  rw [isFunctionWord, String.toList_ofList] at hkeyword
  simpa using hkeyword

end Word

theorem Language.IsBuiltin.functionWords_subset {g : Language} (h : g.IsBuiltin) :
    g.functionWords ⊆ Word.functionWords := by
  obtain ⟨b, hb, code, name, rfl⟩ := h
  have hkept : ∀ b ∈ Language.builtin, ∀ t ∈ b.functionWords, t ∈ Word.functionWords := by
    decide +kernel
  exact hkept b hb

theorem Element.Checked.holds {e : Element} (h : e.Checked) :
    List.Forall₂ Slot.Holds e.kind.slots e.values := by
  obtain ⟨raw, hraw⟩ := h
  obtain ⟨hadmits, hvalues⟩ := Lexicon.validateValues_ok_iff.1 hraw
  rw [hvalues, List.forall₂_map_right_iff]
  exact hadmits.imp fun _ _ => Slot.Admits.holds

theorem Element.Checked.exists_first {e : Element} (h : e.Checked) {word : String}
    (hword : word ∈ e.words) : ∃ first rest, Word.HasParts word (first :: rest) ∧
      (∃ c more, first = c :: more ∧ c.isAlpha = true) ∧
      String.ofList (asciiLower first) ∉ Word.functionWords := by
  obtain ⟨parts, hparts⟩ := h.hasParts hword
  obtain ⟨hvalue, hsome⟩ := Element.mem_words.1 hword
  obtain ⟨hvalid, hunreserved⟩ := (h.wellWorded word hvalue).resolve_left hsome
  cases parts with
  | nil => exact absurd (String.toList_eq_nil_iff.1 hparts.text) hsome
  | cons first rest =>
    exact ⟨first, rest, hparts, hparts.letter_of_valid hvalid,
      hparts.first_of_unreserved hunreserved⟩

namespace Ontology

theorem stored_words_well_formed (name baseIri : String) (edits : List Lexicon.Edit) :
    let o := (new name baseIri).edited edits
    ∀ e ∈ o.elements, List.Forall₂ Slot.Holds e.kind.slots e.values ∧
      ∀ word, .word word ∈ e.values → word ≠ "" →
        Word.normalize word = word ∧
        ∃ first rest, Word.HasParts word (first :: rest) ∧
          (∃ c more, first = c :: more ∧ c.isAlpha = true) ∧
          String.ofList (asciiLower first) ∉ Word.functionWords ∧
          ∀ g : Language, g.IsBuiltin → String.ofList (asciiLower first) ∉ g.functionWords := by
  intro o e he
  have hchecked : e.Checked := ((maintained_new name baseIri).edited edits).checked e he
  refine ⟨hchecked.holds, fun word hvalue hsome => ?_⟩
  obtain ⟨first, rest, hparts, hletter, hunreserved⟩ :=
    hchecked.exists_first (Element.mem_words.2 ⟨hvalue, hsome⟩)
  refine ⟨hparts.normalize_eq, first, rest, hparts, hletter, hunreserved, fun g hg hmem => ?_⟩
  exact hunreserved (hg.functionWords_subset hmem)

theorem den_haag_stored :
    let city : ElementId := ⟨.first⟩
    let enter (text : String) : Lexicon.Edit :=
      .save .individual (.fresh city .individual) 0 [.word text, .flag false]
    let o := (new "wiki" "http://example.org/").edited
      [.allocate .individual, enter "THE Hague", enter " Den__ Haag "]
    o.elements = [⟨city, .individual, [.word "Den_Haag", .flag false]⟩] ∧
      Word.normalize "Den_Haag" = "Den_Haag" ∧
      ∃ first rest, Word.HasParts "Den_Haag" (first :: rest) ∧
        String.ofList (asciiLower first) ∉ Language.german.functionWords := by
  intro city enter o
  have helements : o.elements = [⟨city, .individual, [.word "Den_Haag", .flag false]⟩] := by
    decide +kernel
  obtain ⟨-, hwords⟩ := stored_words_well_formed "wiki" "http://example.org/"
    [.allocate .individual, enter "THE Hague", enter " Den__ Haag "]
    ⟨city, .individual, [.word "Den_Haag", .flag false]⟩ (helements ▸ List.mem_singleton_self _)
  obtain ⟨hnormal, first, rest, hparts, -, -, hlanguages⟩ :=
    hwords "Den_Haag" List.mem_cons_self (by decide)
  exact ⟨helements, hnormal, first, rest, hparts,
    hlanguages .german ⟨.german, by decide, "de", "Deutsch", rfl⟩⟩

end Ontology

end SemanticWiki
