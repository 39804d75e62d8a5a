import SemanticWiki.Export.Vocabulary
import SemanticWiki.Text.Numeral

/-! Ontologies as triples, one on a line. Every identifier is checked before it is written. A class
complement is an anonymous class, numbered by the statement it stands in. -/

namespace SemanticWiki.Export.NTriples

inductive Term where
  | iri (text : String)
  | blank (label : String)
  | literal (text : String)
deriving DecidableEq

structure Triple where
  subject : Term
  predicate : String
  object : Term
deriving DecidableEq

def literalChar (c : Char) : String :=
  match c with
  | '\x08' => "\\b"
  | '\t' => "\\t"
  | '\n' => "\\n"
  | '\x0c' => "\\f"
  | '\r' => "\\r"
  | '"' => "\\\""
  | '\\' => "\\\\"
  | c =>
    if c.toNat < 0x20 || c.toNat == 0x7f || c.toNat == 0xFFFE || c.toNat == 0xFFFF then
      "\\u" ++ String.ofList ((Text.hexText 4 c.toNat).toList.map Char.toUpper)
    else c.toString

def Term.print : Term → String
  | iri text => "<" ++ text ++ ">"
  | blank label => "_:" ++ label
  | literal text => "\"" ++ String.join (text.toList.map literalChar) ++ "\""

def Triple.print (t : Triple) : String :=
  t.subject.print ++ " <" ++ t.predicate ++ "> " ++ t.object.print ++ " .\n"

def rdfType : String := rdf ++ "type"

def checked (iri : String) : Except RenderFault Term :=
  match Iri.check iri with
  | .ok _ => .ok (.iri iri)
  | .error error => .error (.invalidIri iri error)

def node (s : Snapshot) (id : ElementId) : Except RenderFault Term := do
  checked (iriOf s (← elementOf s id))

def declaration (s : Snapshot) (e : Element) : Except RenderFault (List Triple) := do
  let subject ← checked (iriOf s e)
  return ⟨subject, rdfType, .iri (owl ++ entityType e.kind)⟩ ::
    e.words.map fun word => ⟨subject, rdfs ++ "label", .literal (Word.pretty word)⟩

def statement (s : Snapshot) (ax : Axiom) (n : Nat) : Except RenderFault (List Triple) :=
  match ax with
  | .subClassOf sub sup => do
    return [⟨← node s sub, rdfs ++ "subClassOf", ← node s sup⟩]
  | .disjointClasses first second => do
    return [⟨← node s first, owl ++ "disjointWith", ← node s second⟩]
  | .classAssertion individual cls => do
    return [⟨← node s individual, rdfType, ← node s cls⟩]
  | .negativeClassAssertion individual cls => do
    let complement := Term.blank ("c" ++ toString n)
    let cls ← node s cls
    let individual ← node s individual
    return [⟨complement, rdfType, .iri (owl ++ "Class")⟩,
      ⟨complement, owl ++ "complementOf", cls⟩,
      ⟨individual, rdfType, complement⟩]
  | .objectPropertyAssertion subject property object => do
    let subject ← node s subject
    let property ← elementOf s property
    let _ ← checked (iriOf s property)
    return [⟨subject, iriOf s property, ← node s object⟩]

def triples (s : Snapshot) : Except RenderFault (List Triple) := do
  let ontology ← checked s.baseIri
  let declarations ← s.elements.mapM (declaration s)
  let statements ← s.axioms.zipIdx.mapM fun (ax, n) => statement s ax n
  return ⟨ontology, rdfType, .iri (owl ++ "Ontology")⟩ :: (declarations.flatten ++ statements.flatten)

def render (s : Snapshot) : Except RenderFault String := do
  return String.join ((← triples s).map Triple.print)

end SemanticWiki.Export.NTriples
