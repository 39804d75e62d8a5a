import SemanticWiki.Export.Vocabulary
import SemanticWiki.Export.Xml

/-! Ontologies as documents of nested elements: one declaration for every element, with its words as
labels if wanted, and one block for every axiom. -/

namespace SemanticWiki.Export.OwlXml

def entityNode (s : Snapshot) (e : Element) : Xml :=
  .element (entityType e.kind) [("IRI", iriOf s e)] []

def entity (s : Snapshot) (id : ElementId) : Except RenderFault Xml := do
  return entityNode s (← elementOf s id)

def label (s : Snapshot) (e : Element) (word : String) : Xml :=
  .element "AnnotationAssertion" []
    [.element "AnnotationProperty" [("abbreviatedIRI", "rdfs:label")] [],
     .element "IRI" [] [.text (iriOf s e)],
     .element "Literal" [] [.text (Word.pretty word)]]

def declaration (annotate : Bool) (s : Snapshot) (e : Element) : List Xml :=
  .element "Declaration" [] [entityNode s e] ::
    if annotate then e.words.map (label s e) else []

def axiomNode (s : Snapshot) : Axiom → Except RenderFault Xml
  | .subClassOf sub sup => do
    return .element "SubClassOf" [] [← entity s sub, ← entity s sup]
  | .disjointClasses first second => do
    return .element "DisjointClasses" [] [← entity s first, ← entity s second]
  | .classAssertion individual cls => do
    return .element "ClassAssertion" [] [← entity s cls, ← entity s individual]
  | .negativeClassAssertion individual cls => do
    let complement := Xml.element "ObjectComplementOf" [] [← entity s cls]
    return .element "ClassAssertion" [] [complement, ← entity s individual]
  | .objectPropertyAssertion subject property object => do
    return .element "ObjectPropertyAssertion" []
      [← entity s property, ← entity s subject, ← entity s object]

def namespaceNode (name iri : String) : Xml :=
  .element "Prefix" [("name", name), ("IRI", iri)] []

def nodes (annotate : Bool) (s : Snapshot) : Except RenderFault (List Xml) := do
  let axioms ← s.axioms.mapM (axiomNode s)
  return [namespaceNode "owl" owl, namespaceNode "rdfs" rdfs] ++
    s.elements.flatMap (declaration annotate s) ++ axioms

def render (annotate : Bool) (s : Snapshot) : Except RenderFault String := do
  return Xml.document "Ontology" [("xmlns", owl), ("ontologyIRI", s.baseIri)]
    (← nodes annotate s)

end SemanticWiki.Export.OwlXml
