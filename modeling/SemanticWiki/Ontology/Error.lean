import SemanticWiki.Basic

/-! Why a change of the element registry or of the sentence store is refused. -/

namespace SemanticWiki

inductive OntologyError where
  | unknownElement (id : Nat)
  | elementInUse (id : Nat) (word : String) (sentenceCount : Nat)
  | unknownSentence (id : Nat)
  | numbersExhausted
deriving DecidableEq

def OntologyError.diagnostic : OntologyError → Diagnostic
  | unknownElement id =>
    { code := "wikilex::ontology::unknown_element"
      message := s!"element {id} does not exist"
      help := "The element was never registered or has been removed." }
  | elementInUse _ word sentenceCount =>
    { code := "wikilex::ontology::element_in_use"
      message := s!"element \"{word}\" is used by {sentenceCount} sentence(s) and cannot be removed"
      help := "Retract the sentences that mention the element first." }
  | unknownSentence id =>
    { code := "wikilex::ontology::unknown_sentence"
      message := s!"sentence {id} does not exist"
      help := "The sentence was never asserted or has already been retracted." }
  | numbersExhausted =>
    { code := "wikilex::ontology::exhausted"
      message := "element allocator exhausted: cannot allocate more than u64::MAX elements"
      help := "The element ID space is exhausted. Check for allocation loops." }

end SemanticWiki
