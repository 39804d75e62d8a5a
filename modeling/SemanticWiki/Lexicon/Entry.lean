import SemanticWiki.Element
import SemanticWiki.Json.Reader

/-! Entries of a lexicon: the type and the words of an element that is still to be created. A lexicon
file is an array of entries. -/

namespace SemanticWiki

structure LexiconEntry where
  tag : String
  words : List String
  definite : Bool := false
deriving DecidableEq

namespace LexiconEntry

/-- Words go into the word slots in order. Slots without a word stay empty, and words without a slot
are ignored. -/
def fill (definite : Bool) : List Slot → List String → List Value
  | [], _ => []
  | slot :: slots, words =>
    match slot.form with
    | .flag => .flag definite :: fill definite slots words
    | .word => .word (words.headD "") :: fill definite slots words.tail

def values (entry : LexiconEntry) (kind : Kind) : List Value :=
  fill entry.definite kind.slots entry.words

structure Draft where
  tag : Option String := none
  words : Option (List String) := none
  definite : Option Bool := none

def Draft.field (key : String) : Text.Reader (Draft → Option Draft) := do
  match key with
  | "type" =>
    let tag ← Json.string
    return fun d => if d.tag.isSome then none else some { d with tag }
  | "words" =>
    let words ← Json.array Json.string
    return fun d => if d.words.isSome then none else some { d with words }
  | "definite" =>
    let definite ← Json.boolean
    return fun d => if d.definite.isSome then none else some { d with definite }
  | _ =>
    Json.anyValue
    return some

def named : Text.Reader LexiconEntry := do
  let fields ← Json.object Json.string Draft.field
  match fields.foldlM (fun d set => set d) ({} : Draft) with
  | some { tag := some tag, words := some words, definite } =>
    return { tag, words, definite := definite.getD false }
  | _ => failure

def listed : Text.Reader LexiconEntry := do
  Json.mark '['
  let tag ← Json.string
  Json.mark ','
  let words ← Json.array Json.string
  Json.gaps
  if (← Text.Reader.peek?) = some ',' then
    Json.mark ','
    let definite ← Json.boolean
    Json.mark ']'
    return { tag, words, definite }
  else
    Json.mark ']'
    return { tag, words }

def read : Text.Reader LexiconEntry := do
  Json.gaps
  if (← Text.Reader.peek?) = some '[' then listed else named

def readAll? (text : String) : Option (List LexiconEntry) := Json.document? (Json.array read) text

end LexiconEntry

end SemanticWiki
