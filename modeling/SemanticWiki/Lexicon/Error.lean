import SemanticWiki.Basic
import SemanticWiki.Element.Kind

/-! Why words are refused. -/

namespace SemanticWiki

inductive SlotFault where
  | wrongCount (expected actual : Nat)
  | flagInWordSlot (label : String)
  | wordInFlagSlot (label : String)
deriving DecidableEq

def SlotFault.message : SlotFault → String
  | wrongCount expected actual => s!"expected {expected} value(s), got {actual}"
  | flagInWordSlot label => s!"slot \"{label}\" takes a word, not a flag"
  | wordInFlagSlot label => s!"slot \"{label}\" takes a flag, not a word"

inductive WordError where
  | empty (slot : String)
  | invalidCharacter (word : String)
  | reserved (word : String)
  | duplicate (word : String) (owner : Nat)
  | slotMismatch (kind : Kind) (fault : SlotFault)
deriving DecidableEq

def WordError.diagnostic : WordError → Diagnostic
  | empty slot =>
    { code := "wikilex::word::empty"
      message := s!"no word defined: please specify the {slot}"
      help := "This word form is mandatory for the element kind. Enter a word before saving." }
  | invalidCharacter word =>
    { code := "wikilex::word::invalid_character"
      message := s!"invalid character in \"{word}\": only a-z, A-Z, 0-9, -, and spaces are " ++
        s!"allowed, and the first character must be one of a-z A-Z"
      help := "Words must start with a letter. Digits, hyphens and spaces may follow." }
  | reserved word =>
    { code := "wikilex::word::reserved"
      message := s!"'{word}' is a predefined word and cannot be used here"
      help := "Function words such as \"every\", \"the\" or \"is\" belong to the controlled " ++
        "language itself and cannot name an ontology element." }
  | duplicate word owner =>
    { code := "wikilex::word::duplicate"
      message := s!"the word '{word}' is already used; please use a different one"
      help := s!"Every word form may name at most one element of the ontology. " ++
        s!"The word is currently owned by element {owner}." }
  | slotMismatch kind fault =>
    { code := "wikilex::word::slot_mismatch"
      message := s!"malformed lexicon values for {kind.title}: {fault.message}"
      help := "Submit exactly one value per word slot, using words for word slots and flags for " ++
        "flag slots." }

inductive LexiconError where
  | invalidWord (error : WordError)
  | unknownElement (id : Nat)
  /-- The kind of an element never changes. -/
  | kindMismatch (id : Nat) (expected actual : Kind)
  | wordNumberOutOfRange (kind : Kind) (wordNumber : Nat)
deriving DecidableEq

def LexiconError.diagnostic : LexiconError → Diagnostic
  | invalidWord error => error.diagnostic
  | unknownElement id =>
    { code := "wikilex::lexicon::unknown_element"
      message := s!"element {id} has been removed from the ontology"
      help := "Removed elements cannot be edited. Create a new element instead." }
  | kindMismatch id expected actual =>
    { code := "wikilex::lexicon::kind_mismatch"
      message := s!"element {id} is a {actual.title}, not a {expected.title}"
      help := "An element's kind is fixed at creation. Use the lexicon changer of its own kind." }
  | wordNumberOutOfRange kind wordNumber =>
    { code := "wikilex::lexicon::word_number"
      message := s!"word number {wordNumber} is out of range for a {kind.title} " ++
        s!"({kind.slots.length} slot(s))"
      help := "The edited word number must refer to one of the element's slots." }

end SemanticWiki
