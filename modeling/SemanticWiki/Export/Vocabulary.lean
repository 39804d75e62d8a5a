import SemanticWiki.Export.Error
import SemanticWiki.Ontology.Snapshot

/-! What the exports of an ontology have in common: the vocabularies they use, the class that an
element belongs to in them, and its identifier. -/

namespace SemanticWiki.Export

def owl : String := "http://www.w3.org/2002/07/owl#"

def rdfs : String := "http://www.w3.org/2000/01/rdf-schema#"

def rdf : String := "http://www.w3.org/1999/02/22-rdf-syntax-ns#"

def entityType : Kind → String
  | .concept => "Class"
  | .individual => "NamedIndividual"
  | .relation | .transitiveAdjective => "ObjectProperty"

def elementOf (s : Snapshot) (id : ElementId) : Except RenderFault Element :=
  match s.element? id with
  | some e => .ok e
  | none => .error (.unknownElement id.val)

def iriOf (s : Snapshot) (e : Element) : String := s.baseIri ++ "#" ++ e.headword

end SemanticWiki.Export
