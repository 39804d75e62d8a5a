import SemanticWiki.Ontology

/-! Editing words. The values that an editor submits for an element are checked slot by slot and
brought to normal form; the ontology then sees to it that no word has two owners. A save that is
refused changes nothing. -/

namespace SemanticWiki.Lexicon

structure Detail where
  slot : Slot
  value : Value
deriving DecidableEq

def details (kind : Kind) (e : Element) : List Detail :=
  (kind.slots.zip e.values).map fun (slot, value) => ⟨slot, value.pretty⟩

def validateWord (slot : Slot) (raw : String) : Except WordError String :=
  let word := Word.normalize raw
  if word.isEmpty then
    if slot.mandatory then .error (.empty slot.label) else .ok word
  else if !Word.isValidOrEmpty word then .error (.invalidCharacter raw)
  else if Word.isReserved word then .error (.reserved (Word.pretty word))
  else .ok word

def validateValue (kind : Kind) (slot : Slot) (value : Value) : Except WordError Value :=
  match slot.form, value with
  | .flag, .flag on => .ok (.flag on)
  | .word, .word raw => (validateWord slot raw).map Value.word
  | .word, .flag _ => .error (.slotMismatch kind (.flagInWordSlot slot.label))
  | .flag, .word _ => .error (.slotMismatch kind (.wordInFlagSlot slot.label))

def validateValues (kind : Kind) (values : List Value) : Except WordError (List Value) :=
  if values.length ≠ kind.slots.length then
    .error (.slotMismatch kind (.wrongCount kind.slots.length values.length))
  else (kind.slots.zip values).mapM fun (slot, value) => validateValue kind slot value

structure Saved where
  result : Except LexiconError Nat
  element : Element
  ontology : Ontology

/-- `wordNumber` is the slot that the editor was about to change. -/
def save (kind : Kind) (o : Ontology) (e : Element) (wordNumber : Nat) (values : List Value) :
    Saved :=
  if e.kind ≠ kind then ⟨.error (.kindMismatch e.id.val kind e.kind), e, o⟩
  else if kind.slots.length ≤ wordNumber then
    ⟨.error (.wordNumberOutOfRange kind wordNumber), e, o⟩
  else match validateValues kind values with
    | .error fault => ⟨.error (.invalidWord fault), e, o⟩
    | .ok values =>
      match o.commit e.id kind values with
      | (.ok revision, o) => ⟨.ok revision, { e with values }, o⟩
      | (.error fault, o) => ⟨.error fault, e, o⟩

end SemanticWiki.Lexicon
