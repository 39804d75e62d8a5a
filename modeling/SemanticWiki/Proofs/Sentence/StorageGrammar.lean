import SemanticWiki.Proofs.Sentence.Storage

/-! The grammar of storage forms. A form is a code, a gap, a question mark for a question, and in
parentheses a head with a numeral for each element of the statement. What is read is exactly what has
such a form, blanks around it apart: nothing else is accepted, and a form tells its sentence. -/

namespace SemanticWiki

open Text

namespace Text

inductive Numeral : List Char → Nat → Prop
  | plain {digits : List Char} (hsome : digits ≠ []) (hdigits : ∀ c ∈ digits, c.isDigit = true) :
      Numeral digits (Nat.ofDigitChars 10 digits 0)
  | signed {digits : List Char} (hsome : digits ≠ []) (hdigits : ∀ c ∈ digits, c.isDigit = true) :
      Numeral ('+' :: digits) (Nat.ofDigitChars 10 digits 0)

variable {text : List Char} {n : Nat}

theorem decimal?_eq_some_iff : decimal? text = some n ↔
    text ≠ [] ∧ (∀ c ∈ text, c.isDigit = true) ∧ Nat.ofDigitChars 10 text 0 = n := by
  rw [decimal?, decimalNumber_eq, Option.ite_none_right_eq_some, List.all_eq_true, and_assoc]
  simp only [Option.some.injEq]

end Text

theorem ElementId.ofNat?_eq_some_iff {n : Nat} {id : ElementId} :
    ofNat? n = some id ↔ id.val = n := by
  constructor
  · intro h
    obtain ⟨serial, hserial, rfl⟩ := Option.map_eq_some_iff.1 h
    unfold Serial.ofNat? at hserial
    split at hserial
    · obtain rfl := Option.some.inj hserial
      rfl
    · cases hserial
  · rintro rfl
    exact id.ofNat?_val

theorem Statement.ofParts?_eq_some_iff {head : String} {ids : List ElementId} {s : Statement} :
    ofParts? head ids = some s ↔ s.head = head ∧ s.elements = ids := by
  constructor
  · intro h
    unfold ofParts? at h
    split at h
    all_goals first
      | obtain rfl := Option.some.inj h
        exact ⟨rfl, rfl⟩
      | cases h
  · rintro ⟨rfl, rfl⟩
    exact s.ofParts?_elements

namespace Sentence

variable {s : Sentence} {text body : List Char} {statement : Statement}

/-- A text that has the form of the sentence: the code of its language, one or more blanks, a question
mark if it is a question, and then in parentheses the head of its statement and a numeral for each
element, with one or more blanks in front of each numeral and any number of them at the two ends. -/
inductive StorageForm (s : Sentence) : List Char → Prop
  | mk {gap space arguments : List Char} {numerals : List (List Char)} (hcode : IsCode s.language)
      (hgap : gap ≠ []) (hblank : ∀ c ∈ gap, isBlank c = true)
      (hspace : ∀ c ∈ space, isBlank c = true)
      (hnumerals : List.Forall₂ (fun text id => Numeral text id.val) numerals s.statement.elements)
      (harguments : Spaced isBlank numerals arguments) :
      StorageForm s (s.language.toList ++ gap ++ (if s.question then ['?'] else []) ++ ['('] ++
        space ++ s.statement.head.toList ++ arguments ++ [')'])

theorem readElementId?_eq_some_iff {id : ElementId} :
    readElementId? text = some id ↔ Numeral text id.val := by
  have hread (digits : List Char) : (decimal? digits).bind ElementId.ofNat? = some id ↔
      digits ≠ [] ∧ (∀ c ∈ digits, c.isDigit = true) ∧ Nat.ofDigitChars 10 digits 0 = id.val := by
    simp only [Option.bind_eq_some_iff, decimal?_eq_some_iff, ElementId.ofNat?_eq_some_iff]
    constructor
    · rintro ⟨n, ⟨hsome, hdigits, rfl⟩, hid⟩
      exact ⟨hsome, hdigits, hid.symm⟩
    · rintro ⟨hsome, hdigits, hid⟩
      exact ⟨_, ⟨hsome, hdigits, rfl⟩, hid.symm⟩
  unfold readElementId?
  constructor
  · intro h
    obtain ⟨hsome, hdigits, hid⟩ := (hread _).1 h
    rw [← hid]
    revert hsome hdigits
    split
    · exact fun hsome hdigits => .signed hsome hdigits
    · exact fun hsome hdigits => .plain hsome hdigits
  · intro h
    rw [hread]
    generalize hnumber : id.val = n at h
    cases h with
    | plain hsome hdigits =>
      split
      · exact absurd (hdigits '+' List.mem_cons_self) (by decide)
      · exact ⟨hsome, hdigits, rfl⟩
    | signed hsome hdigits => exact ⟨hsome, hdigits, rfl⟩

theorem readElementIds_eq_ok_iff {parts : List (List Char)} {ids : List ElementId} :
    readElementIds parts = .ok ids ↔ List.Forall₂ (fun text id => Numeral text id.val) parts ids := by
  induction parts generalizing ids with
  | nil =>
    rw [readElementIds, List.forall₂_nil_left_iff]
    constructor
    · rintro ⟨⟩
      rfl
    · rintro rfl
      rfl
  | cons part parts ih =>
    rw [readElementIds]
    constructor
    · intro h
      cases hid : readElementId? part with
      | none =>
        rw [hid] at h
        cases h
      | some id =>
        rw [hid] at h
        dsimp only at h
        cases hrest : readElementIds parts with
        | error fault =>
          rw [hrest] at h
          cases h
        | ok rest =>
          rw [hrest] at h
          obtain rfl := Except.ok.inj h
          exact .cons (readElementId?_eq_some_iff.1 hid) (ih.1 hrest)
    · intro h
      cases h with
      | cons hid hrest =>
        rw [readElementId?_eq_some_iff.2 hid, ih.2 hrest]
        rfl

theorem readStatement_eq_ok_iff : readStatement body = .ok statement ↔
    ∃ space arguments numerals, body = space ++ (statement.head.toList ++ arguments) ∧
      (∀ c ∈ space, isBlank c = true) ∧
      List.Forall₂ (fun text id => Numeral text id.val) numerals statement.elements ∧
      Spaced isBlank numerals arguments := by
  have hspace : isBlank ' ' = true := by decide
  constructor
  · intro h
    unfold readStatement at h
    cases hwords : words body with
    | nil =>
      rw [hwords] at h
      cases h
    | cons head numerals =>
      rw [hwords] at h
      obtain ⟨ids, hids, h⟩ := bind_ok h
      have hnumerals := readElementIds_eq_ok_iff.1 hids
      split at h
      · rename_i found hfound
        obtain rfl := Except.ok.inj h
        obtain ⟨hhead, rfl⟩ := Statement.ofParts?_eq_some_iff.1 hfound
        have hspaced := (pieces_eq_iff_spaced hspace).1 hwords
        generalize hbehind : ' ' :: body = behind at hspaced
        cases hspaced with
        | @cons gap part arguments parts hgap hblank hpart hfree hrest =>
          obtain ⟨c, gap, rfl⟩ := List.exists_cons_of_ne_nil hgap
          obtain ⟨-, hbody⟩ := List.cons.inj hbehind
          refine ⟨gap, arguments, numerals, ?_, ?_, hnumerals, hrest⟩
          · rw [hbody, hhead, String.toList_ofList]
            rfl
          · exact (List.forall_mem_cons.1 hblank).2
      · cases h
  · rintro ⟨space, arguments, numerals, rfl, hblank, hnumerals, harguments⟩
    obtain ⟨hpart, hfree⟩ := bodyParts_free statement _ List.mem_cons_self
    have hspaced : Spaced isBlank (statement.head.toList :: numerals)
        (' ' :: (space ++ (statement.head.toList ++ arguments))) :=
      .cons (List.cons_ne_nil ' ' space) (List.forall_mem_cons.2 ⟨hspace, hblank⟩) hpart hfree harguments
    have hwords : words (space ++ (statement.head.toList ++ arguments)) =
        statement.head.toList :: numerals := (pieces_eq_iff_spaced hspace).2 hspaced
    unfold readStatement
    rw [hwords]
    refine bind_eq_ok_iff.2 ⟨statement.elements, readElementIds_eq_ok_iff.2 hnumerals, ?_⟩
    rw [String.ofList_toList, Statement.ofParts?_elements]
    rfl

theorem storageForm_iff : StorageForm s text ↔ ∃ blank gap body, StoredAs s text blank gap body := by
  constructor
  · rintro ⟨hcode, hgap, hblank, hspace, hnumerals, harguments⟩
    rename_i gap space arguments numerals
    obtain ⟨blank, gap, rfl⟩ := List.exists_cons_of_ne_nil hgap
    obtain ⟨hfirst, hblank⟩ := List.forall_mem_cons.1 hblank
    refine ⟨blank, gap, space ++ (s.statement.head.toList ++ arguments), hcode, hfirst, hblank, ?_, ?_⟩
    · simp only [framed, List.append_assoc, List.cons_append, List.nil_append]
    · exact readStatement_eq_ok_iff.2 ⟨space, arguments, numerals, rfl, hspace, hnumerals, harguments⟩
  · rintro ⟨blank, gap, body, h⟩
    obtain ⟨space, arguments, numerals, rfl, hspace, hnumerals, harguments⟩ :=
      readStatement_eq_ok_iff.1 h.readStatement_eq
    have hform := StorageForm.mk h.code (List.cons_ne_nil blank gap)
      (List.forall_mem_cons.2 ⟨h.blank_first, h.blank_gap⟩) hspace hnumerals harguments
    rw [h.text_eq]
    simpa only [framed, List.append_assoc, List.cons_append, List.nil_append] using hform

theorem storage_grammar_exact (input : String) :
    (∀ s, restore input = .ok s ↔ StorageForm s (trim input.toList)) ∧
      ((∃ s, StorageForm s (trim input.toList)) ∨
        ∃ fault, restore input = .error (.malformedStorage input fault)) := by
  have hiff (s : Sentence) : restore input = .ok s ↔ StorageForm s (trim input.toList) := by
    rw [restore_eq_ok_iff, storageForm_iff]
    constructor
    · exact storedAs_of_readStored
    · rintro ⟨blank, gap, body, h⟩
      exact h.readStored
  refine ⟨hiff, ?_⟩
  cases hread : readStored input.toList with
  | ok s => exact .inl ⟨s, (hiff s).1 (restore_eq_ok_iff.2 hread)⟩
  | error fault =>
    refine .inr ⟨fault, ?_⟩
    rw [restore, hread]
    rfl

end Sentence

end SemanticWiki
