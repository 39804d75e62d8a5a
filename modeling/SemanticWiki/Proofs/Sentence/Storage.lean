import SemanticWiki.Proofs.Except
import SemanticWiki.Proofs.Text.LetterCase
import SemanticWiki.Proofs.Text.Pieces
import SemanticWiki.Sentence.Storage

/-! Sentences in storage. A storage form is read back as the sentence that it was written for, if the
language of the sentence has a code that can be told from what follows. Whatever is read has such a
code, so all the forms that are read as one sentence have one canonical form among them. -/

namespace SemanticWiki

namespace Text

theorem decimalNumber_eq (digits : List Char) :
    decimalNumber digits = Nat.ofDigitChars 10 digits 0 := Nat.ofDigitChars_eq_foldl.symm

theorem decimal?_toDigits (n : Nat) : decimal? (Nat.toDigits 10 n) = some n := by
  have hdigits : (Nat.toDigits 10 n).all Char.isDigit = true := by
    rw [List.all_eq_true]
    intro c hc
    exact Nat.isDigit_of_mem_toDigits (by decide) (by decide) hc
  unfold decimal?
  rw [if_pos ⟨Nat.toDigits_ne_nil, hdigits⟩, decimalNumber_eq, Nat.ofDigitChars_ten_toDigits]

theorem not_blank_of_isDigit {c : Char} (hc : c.isDigit = true) : isBlank c = false :=
  forall_basic (p := fun c => c.isDigit = true → isBlank c = false) (by decide)
    (basic_of_isDigit hc) hc

theorem trim_of_not_blank {first last : Char} {text rest front : List Char}
    (hstart : text = first :: rest) (hend : text = front ++ [last])
    (hfirst : isBlank first = false) (hlast : isBlank last = false) : trim text = text := by
  have htrimStart : trimStart text = text := by
    rw [hstart]
    exact List.dropWhile_cons_of_neg (by simp [hfirst])
  have hkept : dropWhileEnd isBlank [last] = [last] :=
    dropWhileEnd_of_free fun c hc => List.mem_singleton.1 hc ▸ hlast
  rw [trim, htrimStart, hend, dropWhileEnd_append, hkept]
  rfl

end Text

theorem ElementId.ofNat?_val (id : ElementId) : ElementId.ofNat? id.val = some id := by
  have hserial : Serial.ofNat? id.val = some id.toSerial := dif_pos ⟨id.pos, id.fits⟩
  rw [ofNat?, hserial]
  rfl

theorem Statement.ofParts?_elements (s : Statement) : ofParts? s.head s.elements = some s := by
  cases s <;> rfl

namespace Sentence

open Text

structure IsCode (language : String) : Prop where
  nonempty : language ≠ ""
  chars : ∀ c ∈ language.toList, isCodeChar c = true

def numeral (id : ElementId) : List Char := Nat.toDigits 10 id.val

theorem not_blank_of_isCodeChar {c : Char} (hc : isCodeChar c = true) : isBlank c = false := by
  have hbasic : c.toNat < 0x80 := by
    simp only [isCodeChar, Bool.or_eq_true, beq_iff_eq] at hc
    rcases hc with hc | rfl
    · exact basic_of_isAlphanum hc
    · decide
  exact forall_basic (p := fun c => isCodeChar c = true → isBlank c = false) (by decide +kernel)
    hbasic hc

variable {s : Sentence} {input : String}

/-! The outer form: a code, a gap, a question mark for a question, and a body in parentheses. -/

def framed (question : Bool) (body : List Char) : List Char :=
  (if question then ['?'] else []) ++ '(' :: (body ++ [')'])

/-- The text consists of the code of the language, blanks, and the form of the statement. -/
structure StoredAs (s : Sentence) (text : List Char) (blank : Char) (gap body : List Char) :
    Prop where
  code : IsCode s.language
  blank_first : isBlank blank = true
  blank_gap : ∀ c ∈ gap, isBlank c = true
  text_eq : text = s.language.toList ++ blank :: (gap ++ framed s.question body)
  readStatement_eq : readStatement body = .ok s.statement

theorem parenthesized?_eq_some_iff {text body : List Char} :
    parenthesized? text = some body ↔ text = '(' :: (body ++ [')']) := by
  constructor
  · intro h
    unfold parenthesized? at h
    split at h
    · split at h
      · rename_i hlast
        obtain ⟨front, rfl⟩ := List.getLast?_eq_some_iff.1 hlast
        obtain rfl := Option.some.inj h
        rw [List.dropLast_concat]
      · cases h
    · cases h
  · rintro rfl
    rw [parenthesized?, List.getLast?_concat, if_pos rfl, List.dropLast_concat]

def readParenthesized (language : List Char) (question : Bool) (text : List Char) :
    Except StorageFault Sentence :=
  match parenthesized? text with
  | none => .error .notParenthesized
  | some body => (readStatement body).map (⟨·, question, String.ofList language⟩)

theorem readParenthesized_ok (language : List Char) (question : Bool) {body : List Char}
    {statement : Statement} (h : readStatement body = .ok statement) :
    readParenthesized language question ('(' :: (body ++ [')'])) =
      .ok ⟨statement, question, String.ofList language⟩ := by
  unfold readParenthesized
  rw [parenthesized?_eq_some_iff.2 rfl]
  dsimp only
  rw [h]
  rfl

theorem storedAs_of_readStored {text : List Char} (h : readStored text = .ok s) :
    ∃ blank gap body, StoredAs s (trim text) blank gap body := by
  have hcut := List.takeWhile_append_dropWhile (p := (!isBlank ·)) (l := trim text)
  have hfirst := List.head?_dropWhile_not (!isBlank ·) (trim text)
  unfold readStored at h
  dsimp only at h
  generalize (trim text).takeWhile (!isBlank ·) = code at h hcut
  generalize (trim text).dropWhile (!isBlank ·) = behind at h hcut hfirst
  cases behind with
  | nil => cases h
  | cons blank rest =>
    have hblank : isBlank blank = true := by simpa using hfirst
    have hgap : rest.takeWhile isBlank ++ trimStart rest = rest := List.takeWhile_append_dropWhile
    dsimp only at h
    generalize trimStart rest = tail at h hgap
    split at h
    · cases h
    · rename_i hcode
      simp only [Bool.or_eq_true, Bool.not_eq_true', not_or, Bool.not_eq_false,
        List.isEmpty_iff, List.all_eq_true] at hcode
      split at h
      · cases h
      · rename_i body hbody
        obtain ⟨statement, hstatement, h⟩ := bind_ok h
        obtain rfl := Except.ok.inj h
        have hframed := parenthesized?_eq_some_iff.1 hbody
        have hgapBlank : ∀ c ∈ rest.takeWhile isBlank, isBlank c = true :=
          List.all_eq_true.1 List.all_takeWhile
        generalize rest.takeWhile isBlank = gap at hgap hgapBlank
        refine ⟨blank, gap, body, ⟨by simpa using hcode.1, by simpa using hcode.2⟩, hblank,
          hgapBlank, ?_, hstatement⟩
        rw [← hcut, ← hgap, String.toList_ofList]
        congr 3
        -- the question mark is taken off the tail if there is one
        revert hframed
        split
        · rintro rfl
          rfl
        · rintro rfl
          rfl

theorem StoredAs.readStored {text : List Char} {blank : Char} {gap body : List Char}
    (h : StoredAs s (trim text) blank gap body) : readStored text = .ok s := by
  have hunblank : ∀ c ∈ s.language.toList, (!isBlank c) = true := by
    intro c hc
    rw [not_blank_of_isCodeChar (h.code.chars c hc)]
    rfl
  have hlanguage : (trim text).takeWhile (!isBlank ·) = s.language.toList := by
    rw [h.text_eq, List.takeWhile_append_of_pos hunblank,
      List.takeWhile_cons_of_neg (by simp [h.blank_first]), List.append_nil]
  have hbehind : (trim text).dropWhile (!isBlank ·) =
      blank :: (gap ++ framed s.question body) := by
    rw [h.text_eq, List.dropWhile_append_of_pos hunblank,
      List.dropWhile_cons_of_neg (by simp [h.blank_first])]
  have hframed : trimStart (gap ++ framed s.question body) = framed s.question body := by
    rw [trimStart, List.dropWhile_append_of_pos h.blank_gap, framed]
    cases s.question <;> rfl
  have hchecked : (s.language.toList.isEmpty || !s.language.toList.all isCodeChar) = false := by
    have hsome : s.language.toList ≠ [] := by simpa using h.code.nonempty
    rw [List.all_eq_true.2 h.code.chars, Bool.not_true, Bool.or_false, List.isEmpty_eq_false_iff]
    exact hsome
  unfold Sentence.readStored
  dsimp only
  rw [hlanguage, hbehind]
  dsimp only
  rw [hchecked, if_neg Bool.false_ne_true, hframed, framed]
  have hsentence : (⟨s.statement, s.question, String.ofList s.language.toList⟩ : Sentence) = s := by
    rw [String.ofList_toList]
  have hbody (question : Bool) := readParenthesized_ok s.language.toList question h.readStatement_eq
  refine Eq.trans ?_ (congrArg Except.ok hsentence)
  cases s.question with
  | false => exact hbody false
  | true => exact hbody true

/-! The storage form that is written. -/

theorem readElementId?_numeral (id : ElementId) : readElementId? (numeral id) = some id := by
  obtain ⟨c, rest, hnumeral⟩ := List.exists_cons_of_ne_nil (Nat.toDigits_ne_nil (n := id.val) (b := 10))
  have hdigit : c.isDigit = true := by
    apply Nat.isDigit_of_mem_toDigits (b := 10) (n := id.val) (by decide) (by decide)
    rw [hnumeral]
    exact List.mem_cons_self
  -- a numeral has no sign, so all of it is read as digits
  have hunsigned : c ≠ '+' := by
    rintro rfl
    exact absurd hdigit (by decide)
  have hread : readElementId? (c :: rest) = (decimal? (c :: rest)).bind ElementId.ofNat? := by
    unfold readElementId?
    split
    · rename_i hsign
      exact absurd (List.cons.inj hsign).1 hunsigned
    · rfl
  rw [numeral, hnumeral, hread, ← hnumeral, decimal?_toDigits]
  exact id.ofNat?_val

theorem readElementIds_numerals (ids : List ElementId) :
    readElementIds (ids.map numeral) = .ok ids := by
  induction ids with
  | nil => rfl
  | cons id rest ih =>
    rw [List.map_cons, readElementIds, readElementId?_numeral, ih]
    rfl

def bodyParts (statement : Statement) : List (List Char) :=
  statement.head.toList :: statement.elements.map numeral

theorem bodyParts_free (statement : Statement) :
    ∀ part ∈ bodyParts statement, part ≠ [] ∧ ∀ c ∈ part, isBlank c = false := by
  have hheads : ∀ head ∈ ["every", "no", "instance", "not-instance", "relation"],
      head.toList ≠ [] ∧ head.toList.all (!isBlank ·) = true := by decide
  have hhead : statement.head ∈ ["every", "no", "instance", "not-instance", "relation"] := by
    cases statement <;> simp [Statement.head]
  have hfree : ∀ c ∈ statement.head.toList, isBlank c = false := by
    simpa using (hheads _ hhead).2
  refine List.forall_mem_cons.2 ⟨⟨(hheads _ hhead).1, hfree⟩, fun part hpart => ?_⟩
  obtain ⟨id, -, rfl⟩ := List.mem_map.1 hpart
  refine ⟨Nat.toDigits_ne_nil, fun c hc => not_blank_of_isDigit ?_⟩
  exact Nat.isDigit_of_mem_toDigits (by decide) (by decide) hc

theorem readStatement_body (statement : Statement) :
    readStatement ([' '].intercalate (bodyParts statement)) = .ok statement := by
  have hwords : words ([' '].intercalate (bodyParts statement)) = bodyParts statement :=
    pieces_intercalate (by decide) (bodyParts_free statement)
  unfold readStatement
  rw [hwords, bodyParts]
  dsimp only
  refine bind_eq_ok_iff.2 ⟨statement.elements, readElementIds_numerals _, ?_⟩
  rw [String.ofList_toList, Statement.ofParts?_elements]
  rfl

theorem toList_store (s : Sentence) :
    s.store.toList =
      s.language.toList ++ ' ' :: framed s.question ([' '].intercalate (bodyParts s.statement)) := by
  have hnumerals : s.statement.elements.map (toString ·.val) =
      s.statement.elements.map (String.ofList ∘ numeral) :=
    List.map_congr_left fun id _ => Nat.toString_eq_ofList_toDigits
  have hsome : s.statement.elements.map numeral ≠ [] := by
    cases s.statement <;> simp [Statement.elements]
  have hquestion : (if s.question then "?" else "").toList = if s.question then ['?'] else [] := by
    cases s.question <;> rfl
  rw [store, hnumerals, framed, bodyParts, List.intercalate_cons_of_ne_nil hsome]
  simp [hquestion, String.toList_intercalate, Function.comp_def]

theorem storedAs_store (hcode : IsCode s.language) :
    StoredAs s (trim s.store.toList) ' ' [] ([' '].intercalate (bodyParts s.statement)) := by
  obtain ⟨first, more, hfirst⟩ : ∃ first more, s.language.toList = first :: more :=
    List.exists_cons_of_ne_nil (by simpa using hcode.nonempty)
  have hunblank : isBlank first = false :=
    not_blank_of_isCodeChar (hcode.chars first (hfirst ▸ List.mem_cons_self))
  have htrim : trim s.store.toList = s.store.toList := by
    have hstart := toList_store s
    have hend := hstart
    rw [hfirst, List.cons_append] at hstart
    rw [framed, ← List.cons_append, ← List.append_assoc, ← List.cons_append,
      ← List.append_assoc] at hend
    exact trim_of_not_blank hstart hend hunblank (by decide)
  rw [htrim]
  exact ⟨hcode, by decide, by simp, toList_store s, readStatement_body s.statement⟩

theorem restore_eq_ok_iff : restore input = .ok s ↔ readStored input.toList = .ok s := by
  rw [restore]
  cases readStored input.toList with
  | ok s' =>
    constructor
    · rintro ⟨⟩
      rfl
    · rintro ⟨⟩
      rfl
  | error fault =>
    constructor
    · rintro ⟨⟩
    · rintro ⟨⟩

theorem restore_store (hcode : IsCode s.language) : restore s.store = .ok s :=
  restore_eq_ok_iff.2 (storedAs_store hcode).readStored

theorem isCode_of_restore (h : restore input = .ok s) : IsCode s.language := by
  obtain ⟨blank, gap, body, hstored⟩ := storedAs_of_readStored (restore_eq_ok_iff.1 h)
  exact hstored.code

theorem storage_round_trip (s : Sentence) (input : String) :
    (restore s.store = .ok s ↔ IsCode s.language) ∧
      (restore input = .ok s → IsCode s.language ∧ restore s.store = .ok s) := by
  refine ⟨⟨isCode_of_restore, restore_store⟩, fun h => ?_⟩
  have hcode := isCode_of_restore h
  exact ⟨hcode, restore_store hcode⟩

theorem storage_round_trip_spaced :
    let three : ElementId := ⟨⟨3, by decide, by decide⟩⟩
    let five : ElementId := ⟨⟨5, by decide, by decide⟩⟩
    let s : Sentence := ⟨.subsumption three five, true, "en"⟩
    restore "  en   ?(every  003 +5)  " = .ok s ∧ s.store = "en ?(every 3 5)" ∧
      restore "en ?(every 3 5)" = .ok s := by
  intro three five s
  have hread : restore "  en   ?(every  003 +5)  " = .ok s := rfl
  have hstore : s.store = "en ?(every 3 5)" := by decide +kernel
  have hagain : restore s.store = .ok s := ((storage_round_trip s _).2 hread).2
  exact ⟨hread, hstore, hstore ▸ hagain⟩

end Sentence

end SemanticWiki
