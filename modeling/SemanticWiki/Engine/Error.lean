import SemanticWiki.Config.Error
import SemanticWiki.Export.Error
import SemanticWiki.Lexicon.Error
import SemanticWiki.Ontology.Error
import SemanticWiki.Reason.Error

/-! Why the wiki refuses a request: a reason of its own, or the reason of one of its parts. -/

namespace SemanticWiki

inductive EngineError where
  | inconsistentSentence (sentence : String)
  | questionNotAssertable
  | notAQuestion
  | conflict (attempts : Nat)
deriving DecidableEq

def EngineError.diagnostic : EngineError → Diagnostic
  | inconsistentSentence sentence =>
    { code := "wikilex::engine::inconsistent"
      message := s!"sentence would make the ontology inconsistent: \"{sentence}\""
      help := "The sentence contradicts what the wiki already states. Nothing was added." }
  | questionNotAssertable =>
    { code := "wikilex::engine::question"
      message := "questions cannot be asserted"
      help := "Ask questions with \u0060Engine::answer()\u0060 instead." }
  | notAQuestion =>
    { code := "wikilex::engine::not_a_question"
      message := "only questions can be answered"
      help := "Assert declarative sentences with \u0060Engine::add_sentence()\u0060." }
  | conflict attempts =>
    { code := "wikilex::engine::conflict"
      message := s!"ontology kept changing during {attempts} consistency check(s)"
      help := "Concurrent edits invalidated every snapshot. Retry the operation." }

inductive WikiError where
  | lexicon (error : LexiconError)
  | grammar (error : GrammarError)
  | ontology (error : OntologyError)
  | reason (error : ReasonError)
  | exporting (error : ExportError)
  | config (error : ConfigError)
  | engine (error : EngineError)
deriving DecidableEq

def WikiError.diagnostic : WikiError → Diagnostic
  | lexicon e => e.diagnostic
  | grammar e => e.diagnostic
  | ontology e => e.diagnostic
  | reason e => e.diagnostic
  | exporting e => e.diagnostic
  | config e => e.diagnostic
  | engine e => e.diagnostic

end SemanticWiki
