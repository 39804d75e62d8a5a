import SemanticWiki.Export.Vocabulary

/-! Ontologies in functional-style syntax: one declaration for every element, with its words as
labels if wanted, and one line for every axiom. -/

namespace SemanticWiki.Export.FunctionalSyntax

def entity (s : Snapshot) (id : ElementId) : Except RenderFault String := do
  return ":" ++ (← elementOf s id).headword

def declaration (annotate : Bool) (e : Element) : List String :=
  ("Declaration(" ++ entityType e.kind ++ "(:" ++ e.headword ++ "))") ::
    if annotate then
      e.words.map fun word =>
        "AnnotationAssertion(rdfs:label :" ++ e.headword ++ " \"" ++ Word.pretty word ++ "\")"
    else []

def axiomLine (s : Snapshot) : Axiom → Except RenderFault String
  | .subClassOf sub sup => do
    return "SubClassOf(" ++ (← entity s sub) ++ " " ++ (← entity s sup) ++ ")"
  | .disjointClasses first second => do
    return "DisjointClasses(" ++ (← entity s first) ++ " " ++ (← entity s second) ++ ")"
  | .classAssertion individual cls => do
    return "ClassAssertion(" ++ (← entity s cls) ++ " " ++ (← entity s individual) ++ ")"
  | .negativeClassAssertion individual cls => do
    return "ClassAssertion(ObjectComplementOf(" ++ (← entity s cls) ++ ") " ++
      (← entity s individual) ++ ")"
  | .objectPropertyAssertion subject property object => do
    return "ObjectPropertyAssertion(" ++ (← entity s property) ++ " " ++ (← entity s subject) ++
      " " ++ (← entity s object) ++ ")"

def header (baseIri : String) : List String :=
  ["Prefix(:=<" ++ baseIri ++ "#>)",
   "Prefix(owl:=<" ++ owl ++ ">)",
   "Prefix(rdfs:=<" ++ rdfs ++ ">)",
   "",
   "Ontology(<" ++ baseIri ++ ">"]

def lines (annotate : Bool) (s : Snapshot) : Except RenderFault (List String) := do
  let axioms ← s.axioms.mapM (axiomLine s)
  return header s.baseIri ++ s.elements.flatMap (declaration annotate) ++ axioms ++ [")"]

def render (annotate : Bool) (s : Snapshot) : Except RenderFault String := do
  return String.join ((← lines annotate s).map (· ++ "\n"))

end SemanticWiki.Export.FunctionalSyntax
