import SemanticWiki.Basic
import SemanticWiki.Grammar.Error
import SemanticWiki.Iri

/-! Why an ontology is not exported. -/

namespace SemanticWiki

inductive RenderFault where
  | unknownElement (id : Nat)
  | invalidIri (iri : String) (error : IriError)
  | grammar (error : GrammarError)
deriving DecidableEq

def RenderFault.message : RenderFault → String
  | unknownElement id => s!"sentence refers to unknown element el:{id}"
  | invalidIri iri error => s!"invalid IRI <{iri}>: {error.message}"
  | grammar error => error.diagnostic.message

inductive ExportError where
  | unknownExporter (name : String)
  | render (exporter : String) (fault : RenderFault)
deriving DecidableEq

def ExportError.diagnostic : ExportError → Diagnostic
  | unknownExporter name =>
    { code := "wikilex::export::unknown"
      message := s!"unknown exporter: \"{name}\""
      help := "Use \u0060Engine::exporters()\u0060 to list the registered exporters." }
  | render exporter fault =>
    { code := "wikilex::export::render"
      message := s!"exporter \"{exporter}\" failed: {fault.message}"
      help := "The ontology snapshot could not be rendered in this format." }

end SemanticWiki
