import SemanticWiki.Export.FunctionalSyntax
import SemanticWiki.Export.LexiconReport
import SemanticWiki.Export.NTriples
import SemanticWiki.Export.OwlXml

/-! The formats that an ontology is exported in. -/

namespace SemanticWiki

inductive Exporter where
  | functionalSyntax (annotate : Bool)
  | owlXml (annotate : Bool)
  | nTriples
  | lexiconReport (registry : Registry) (languages : List String)

namespace Exporter

def name : Exporter → String
  | functionalSyntax true => "owl-fss"
  | functionalSyntax false => "owl-fss-plain"
  | owlXml true => "owl-xml"
  | owlXml false => "owl-xml-plain"
  | nTriples => "ntriples"
  | lexiconReport .. => "lexicon-report"

def contentType : Exporter → String
  | functionalSyntax _ => "text/owl-functional"
  | owlXml _ => "application/owl+xml"
  | nTriples => "application/n-triples"
  | lexiconReport .. => "application/json"

def render : Exporter → Snapshot → Except RenderFault String
  | functionalSyntax annotate => Export.FunctionalSyntax.render annotate
  | owlXml annotate => Export.OwlXml.render annotate
  | nTriples => Export.NTriples.render
  | lexiconReport registry languages => Export.LexiconReport.render registry languages

def run (x : Exporter) (s : Snapshot) : Except ExportError String :=
  (x.render s).mapError (.render x.name)

end Exporter

end SemanticWiki
