import Mathlib.Data.List.Forall2
import SemanticWiki.Lexicon
import SemanticWiki.Proofs.Except

/-! Which values pass the checks of an editor's form, and what becomes of them. The values have to
match the slots one by one, and what is stored for them is their normal form. -/

namespace SemanticWiki

def Value.normal : Value → Value
  | word raw => word (Word.normalize raw)
  | flag on => flag on

/-- What an editor may enter in a slot: a flag in a slot for flags, and in a slot for words one that
comes out well-formed and is no keyword. An optional word may be left out. -/
def Slot.Admits (slot : Slot) : Value → Prop
  | .flag _ => slot.form = .flag
  | .word raw => slot.form = .word ∧
    if Word.normalize raw = "" then slot.mandatory = false
    else Word.isValidOrEmpty (Word.normalize raw) = true ∧
      Word.isReserved (Word.normalize raw) = false

namespace Lexicon

theorem validateWord_ok_iff {slot : Slot} {raw word : String} (hform : slot.form = .word) :
    validateWord slot raw = .ok word ↔ slot.Admits (.word raw) ∧ word = Word.normalize raw := by
  simp only [validateWord, Slot.Admits, hform, true_and, String.isEmpty_iff]
  by_cases hempty : Word.normalize raw = ""
  · cases hmandatory : slot.mandatory <;> simp [hempty, eq_comm]
  · cases hvalid : Word.isValidOrEmpty (Word.normalize raw) <;>
      cases hreserved : Word.isReserved (Word.normalize raw) <;> simp [hempty, eq_comm]

theorem validateValue_ok_iff {kind : Kind} {slot : Slot} {value normal : Value} :
    validateValue kind slot value = .ok normal ↔ slot.Admits value ∧ normal = value.normal := by
  cases value with
  | flag on => cases hform : slot.form <;>
      simp [validateValue, Slot.Admits, Value.normal, hform, @eq_comm _ normal]
  | word raw =>
    cases hform : slot.form with
    | flag => simp [validateValue, Slot.Admits, hform]
    | word =>
      have hiff (word : String) : validateWord slot raw = .ok word ↔
          slot.Admits (.word raw) ∧ word = Word.normalize raw := validateWord_ok_iff hform
      cases hword : validateWord slot raw with
      | error fault =>
        have hrefused : ¬ slot.Admits (.word raw) := fun hadmits => by
          cases hword.symm.trans ((hiff _).2 ⟨hadmits, rfl⟩)
        simp [validateValue, hform, hword, hrefused, Except.map]
      | ok word =>
        obtain ⟨hadmits, rfl⟩ := (hiff word).1 hword
        simp [validateValue, hform, hword, hadmits, Except.map, Value.normal, @eq_comm _ normal]

theorem validateEach_ok_iff {kind : Kind} {slots : List Slot} {values normal : List Value}
    (hlength : values.length = slots.length) :
    (slots.zip values).mapM (fun (slot, value) => validateValue kind slot value) = .ok normal ↔
      List.Forall₂ Slot.Admits slots values ∧ normal = values.map Value.normal := by
  induction slots generalizing values normal with
  | nil =>
    obtain rfl := List.length_eq_zero_iff.1 hlength
    simp [pure, Except.pure, eq_comm]
  | cons slot slots ih =>
    cases values with
    | nil => simp at hlength
    | cons value values =>
      have hrest {normal : List Value} := @ih values normal (by simpa using hlength)
      rw [List.zip_cons_cons, List.mapM_cons, List.forall₂_cons, List.map_cons]
      constructor
      · intro h
        obtain ⟨first, hfirst, h⟩ := bind_ok h
        obtain ⟨others, hothers, h⟩ := bind_ok h
        obtain rfl := Except.ok.inj h
        obtain ⟨hadmits, rfl⟩ := validateValue_ok_iff.1 hfirst
        obtain ⟨hall, rfl⟩ := hrest.1 hothers
        exact ⟨⟨hadmits, hall⟩, rfl⟩
      · rintro ⟨⟨hadmits, hall⟩, rfl⟩
        refine bind_eq_ok_iff.2 ⟨_, validateValue_ok_iff.2 ⟨hadmits, rfl⟩, ?_⟩
        exact bind_eq_ok_iff.2 ⟨_, hrest.2 ⟨hall, rfl⟩, rfl⟩

theorem validateValues_ok_iff {kind : Kind} {values normal : List Value} :
    validateValues kind values = .ok normal ↔
      List.Forall₂ Slot.Admits kind.slots values ∧ normal = values.map Value.normal := by
  unfold validateValues
  split
  · rename_i hlength
    simp only [reduceCtorEq, false_iff]
    exact fun h => hlength h.1.length_eq.symm
  · rename_i hlength
    exact validateEach_ok_iff (Decidable.not_not.1 hlength)

theorem getElem?_of_forall₂ {α β : Type} {R : α → β → Prop} {as : List α} {bs : List β}
    (h : List.Forall₂ R as bs) {i : Nat} {a : α} (ha : as[i]? = some a) :
    ∃ b, bs[i]? = some b ∧ R a b := by
  induction h generalizing i with
  | nil => simp at ha
  | cons hfirst _ ih =>
    cases i with
    | zero =>
      obtain rfl := Option.some.inj ha
      exact ⟨_, rfl, hfirst⟩
    | succ i => exact ih ha

section Validated

variable {kind : Kind} {raw values : List Value} (h : validateValues kind raw = .ok values)
include h

theorem value_of_slot {i : Nat} {slot : Slot} (hslot : kind.slots[i]? = some slot) :
    ∃ value, slot.Admits value ∧ values[i]? = some value.normal := by
  obtain ⟨hadmits, rfl⟩ := validateValues_ok_iff.1 h
  obtain ⟨value, hvalue, hadmitted⟩ := getElem?_of_forall₂ hadmits hslot
  exact ⟨value, hadmitted, by rw [List.getElem?_map, hvalue, Option.map_some]⟩

theorem entered_word {word : String} (hword : .word word ∈ values) :
    ∃ (i : Nat) (slot : Slot) (text : String), kind.slots[i]? = some slot ∧
      values[i]? = some (.word word) ∧ slot.Admits (.word text) ∧ word = Word.normalize text := by
  obtain ⟨hadmits, rfl⟩ := validateValues_ok_iff.1 h
  obtain ⟨i, hi⟩ := List.mem_iff_getElem?.1 hword
  obtain ⟨entered, hentered, hnormal⟩ : ∃ entered, raw[i]? = some entered ∧
      entered.normal = .word word := by simpa using hi
  obtain ⟨slot, hslot, hadmitted⟩ := getElem?_of_forall₂ hadmits.flip hentered
  cases entered with
  | flag on => cases hnormal
  | word text => exact ⟨i, slot, text, hslot, hi, hadmitted, (Value.word.inj hnormal).symm⟩

theorem validateValues_word {word : String} (hword : .word word ∈ values) :
    word = "" ∨ Word.isValidOrEmpty word = true ∧ Word.isReserved word = false := by
  obtain ⟨-, slot, text, -, -, ⟨-, hadmits⟩, rfl⟩ := entered_word h hword
  split at hadmits
  · rename_i hempty
    exact .inl hempty
  · exact .inr hadmits

end Validated

end Lexicon

end SemanticWiki
