import SemanticWiki.Reason.Hierarchy

/-! The closure of an axiom list under subsumption, and the verdicts read off it. An axiom list is
inconsistent when an individual falls into two disjoint classes or into a class that it is stated
not to belong to; then it entails everything. -/

namespace SemanticWiki.Reason

structure Closure where
  /-- For every class mentioned, the class and all classes above it. -/
  supers : List (ElementId × List ElementId)
  /-- For every individual with an asserted class, all classes it falls into. -/
  types : List (ElementId × List ElementId)
  /-- Disjoint pairs, in both directions. -/
  disjoint : List (ElementId × ElementId)
  /-- Individuals with the classes that they are stated not to belong to, each pair once. -/
  negative : List (ElementId × ElementId)
  relations : List (ElementId × ElementId × ElementId)

namespace Closure

def union (sets : List (List ElementId)) : List ElementId :=
  sets.flatten.eraseDups.mergeSort fun a b => a.val ≤ b.val

def typesOf (supers : List (ElementId × List ElementId))
    (asserted : List (ElementId × ElementId)) (individual : ElementId) : List ElementId :=
  union ((asserted.filter (·.1 == individual)).filterMap fun a => supers.lookup a.2)

def build (axioms : List Axiom) : Metered Closure := do
  let hierarchy := Hierarchy.ofAxioms axioms
  let supers ← hierarchy.classes.mapM fun cls => do return (cls, ← hierarchy.supers cls)
  let asserted := axioms.filterMap Axiom.assertion?
  return {
    supers
    types := (asserted.map (·.1)).eraseDups.map fun i => (i, typesOf supers asserted i)
    disjoint := (axioms.filterMap Axiom.disjoint?).flatMap fun (a, b) => [(a, b), (b, a)]
    negative := (axioms.filterMap Axiom.negative?).eraseDups
    relations := axioms.filterMap Axiom.property? }

def supersOf (c : Closure) (cls : ElementId) : List ElementId := (c.supers.lookup cls).getD [cls]

def anyPaid (test : α → Bool) : List α → Metered Bool
  | [] => return false
  | a :: rest => do
    tick
    if test a then return true else anyPaid test rest

def clash (c : Closure) (left right : List ElementId) : Metered Bool :=
  anyPaid (fun pair => c.disjoint.contains pair) (left.flatMap fun a => right.map (a, ·))

def anyClash (c : Closure) : List (ElementId × List ElementId) → Metered Bool
  | [] => return false
  | (_, types) :: rest => do
    if ← c.clash types types then return true else c.anyClash rest

def hasType (c : Closure) (individual cls : ElementId) : Bool :=
  ((c.types.lookup individual).getD []).contains cls

def consistent (c : Closure) : Metered Bool := do
  if ← c.anyClash c.types then return false
  let violated ← anyPaid (fun (i, cls) => c.hasType i cls) c.negative
  return !violated

def entails (c : Closure) : Axiom → Metered Bool
  | .subClassOf sub sup => do
    let supers := c.supersOf sub
    -- A class without instances is below every class.
    if supers.contains sup then return true else c.clash supers supers
  | .disjointClasses first second => c.clash (c.supersOf first) (c.supersOf second)
  | .classAssertion individual cls => return c.hasType individual cls
  | .negativeClassAssertion individual cls => do
    let supers := c.supersOf cls
    if ← anyPaid (fun (i, negated) => i == individual && supers.contains negated) c.negative then
      return true
    match c.types.lookup individual with
    | some types => c.clash types supers
    | none => return false
  | .objectPropertyAssertion subject property object =>
    return c.relations.contains (subject, property, object)

end Closure

end SemanticWiki.Reason
