import SemanticWiki.Axiom
import SemanticWiki.Grammar.Error

/-! Statements: what a sentence says, apart from its language. A statement names its elements by
number, and whether it makes sense depends on the kinds of those elements. -/

namespace SemanticWiki

inductive Statement where
  /-- "Every man is a human." -/
  | subsumption (sub sup : ElementId)
  /-- "No man is a woman." -/
  | disjointness (concept other : ElementId)
  /-- "Mary is a woman." -/
  | membership (individual concept : ElementId)
  /-- "Mary is not a man." -/
  | nonMembership (individual concept : ElementId)
  /-- "Mary likes John." or "Zurich is located in Switzerland." -/
  | relation (subject relation object : ElementId)
deriving DecidableEq

namespace Statement

def head : Statement → String
  | subsumption .. => "every"
  | disjointness .. => "no"
  | membership .. => "instance"
  | nonMembership .. => "not-instance"
  | relation .. => "relation"

def elements : Statement → List ElementId
  | subsumption a b | disjointness a b | membership a b | nonMembership a b => [a, b]
  | relation a r b => [a, r, b]

def ofParts? : String → List ElementId → Option Statement
  | "every", [a, b] => some (subsumption a b)
  | "no", [a, b] => some (disjointness a b)
  | "instance", [a, b] => some (membership a b)
  | "not-instance", [a, b] => some (nonMembership a b)
  | "relation", [a, r, b] => some (relation a r b)
  | _, _ => none

def mentions (s : Statement) (id : ElementId) : Bool := s.elements.contains id

def expectKind (kindOf : ElementId → Option Kind) (allowed : List Kind) (id : ElementId) :
    Except GrammarError Kind :=
  match kindOf id with
  | none => .error (.unresolvedElement id.val)
  | some kind =>
    if allowed.contains kind then .ok kind else .error (.kindMismatch id.val allowed kind)

/-- The first element in storage order that does not fit is to blame. -/
def construct (kindOf : ElementId → Option Kind) : Statement → Except GrammarError Construct
  | subsumption sub sup => do
    let _ ← expectKind kindOf [.concept] sub
    let _ ← expectKind kindOf [.concept] sup
    return .subsumption
  | disjointness concept other => do
    let _ ← expectKind kindOf [.concept] concept
    let _ ← expectKind kindOf [.concept] other
    return .disjointness
  | membership individual concept => do
    let _ ← expectKind kindOf [.individual] individual
    let _ ← expectKind kindOf [.concept] concept
    return .membership
  | nonMembership individual concept => do
    let _ ← expectKind kindOf [.individual] individual
    let _ ← expectKind kindOf [.concept] concept
    return .nonMembership
  | relation a r b => do
    let _ ← expectKind kindOf [.individual] a
    let kind ← expectKind kindOf [.relation, .transitiveAdjective] r
    let _ ← expectKind kindOf [.individual] b
    return if kind = .transitiveAdjective then .adjectiveRelation else .verbRelation

def toAxiom : Statement → Axiom
  | subsumption sub sup => .subClassOf sub sup
  | disjointness concept other => .disjointClasses concept other
  | membership individual concept => .classAssertion individual concept
  | nonMembership individual concept => .negativeClassAssertion individual concept
  | relation a r b => .objectPropertyAssertion a r b

end Statement

end SemanticWiki
