import SemanticWiki.Basic
import SemanticWiki.Grammar.Category
import SemanticWiki.Grammar.Construct

/-! Why a text cannot be read as a sentence, or a sentence cannot be put into words. -/

namespace SemanticWiki

inductive StorageFault where
  | missingLanguage
  | invalidLanguage
  | notParenthesized
  | emptyExpression
  | invalidElementId (text : String)
  | unknownHead (head : String) (arguments : Nat)
deriving DecidableEq

def StorageFault.message : StorageFault → String
  | missingLanguage => "missing language code"
  | invalidLanguage => "invalid language code"
  | notParenthesized => "expected a parenthesized expression"
  | emptyExpression => "empty expression"
  | invalidElementId text => s!"invalid element id \"{text}\""
  | unknownHead head arguments => s!"unknown head \"{head}\" with {arguments} argument(s)"

inductive WordingFault where
  | noRule (construct : Construct) (question : Bool)
  | missingArgument (role : Role)
  | missingForm (id : Nat) (cat : Cat)
  /-- The first of no spellings is asked for, and the program ends. -/
  | noSpelling
deriving DecidableEq

def WordingFault.message : WordingFault → String
  | noRule construct question => s!"no rule for {construct.name} (question: {question})"
  | missingArgument role => s!"missing {role.letter} argument"
  | missingForm id cat => s!"element el:{id} has no {cat.name} form"
  | noSpelling => "index out of bounds: the len is 0 but the index is 0"

inductive GrammarError where
  | parseFailed (input language : String)
  | ambiguousParse (input language : String) (readings : Nat)
  | malformedStorage (input : String) (fault : StorageFault)
  | unresolvedElement (id : Nat)
  /-- The element is of a kind that its position in the sentence does not take. -/
  | kindMismatch (id : Nat) (expected : List Kind) (actual : Kind)
  | unsupportedLanguage (language : String)
  | linearizationFailed (cat : Cat) (language : String) (fault : WordingFault)
deriving DecidableEq

/-- The program ends with this error and does not answer with it: no caller may handle it. -/
def GrammarError.isPanic : GrammarError → Bool
  | linearizationFailed _ _ .noSpelling => true
  | _ => false

def GrammarError.diagnostic : GrammarError → Diagnostic
  | parseFailed input language =>
    { code := "wikilex::grammar::parse_failed"
      message := s!"could not parse \"{input}\" as a {language} sentence"
      help := "The text does not match any sentence pattern of the language, or uses " ++
        "words that are not in the lexicon. Try simple sentences like " ++
        "\"Every man is a human.\" or \"Mary likes John.\"." }
  | ambiguousParse input language readings =>
    { code := "wikilex::grammar::ambiguous"
      message := s!"\"{input}\" has {readings} different readings in {language}"
      help := "Some lexicon words overlap so that the text can be read in more than one " ++
        "way. Rename one of the overlapping words." }
  | malformedStorage input fault =>
    { code := "wikilex::grammar::deserialize"
      message := s!"malformed serialized sentence \"{input}\": {fault.message}"
      help := "Serialized sentences look like \u0060en (every 3 5)\u0060 or \u0060en ?(instance 4 3)\u0060: " ++
        "a language code, an optional \u0060?\u0060, and a parenthesized head with element ids." }
  | unresolvedElement id =>
    { code := "wikilex::grammar::unresolved"
      message := s!"sentence refers to unknown element {id}"
      help := "The element was removed or never registered in this ontology." }
  | kindMismatch id expected actual =>
    { code := "wikilex::grammar::kind_mismatch"
      message := s!"element {id} is a {actual.title}, but the sentence needs a " ++
        " or ".intercalate (expected.map Kind.title)
      help := "Each sentence position accepts one kind of element: nouns for concepts, " ++
        "proper names for individuals, verbs or transitive adjectives for relations." }
  | unsupportedLanguage language =>
    { code := "wikilex::grammar::unsupported_language"
      message := s!"unsupported language: \"{language}\""
      help := "No grammar is registered for this language code. " ++
        "Use \u0060Engine::languages()\u0060 to list the visible languages." }
  | linearizationFailed cat language fault =>
    { code := "wikilex::grammar::lin_failed"
      message := s!"linearization failed for {cat.name} in \"{language}\": {fault.message}"
      help := "The element has no word for the form this sentence needs. " ++
        "Fill in the missing word form in the lexicon." }

end SemanticWiki
