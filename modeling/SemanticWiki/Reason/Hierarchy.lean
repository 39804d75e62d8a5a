import SemanticWiki.Axiom

/-! The class hierarchy of an axiom list: which classes it mentions, which are direct subclasses of
which, and the search for all classes above a class. The search pays for its steps: it is given a
number of them and either returns with those it has left or stops where it cannot pay. -/

namespace SemanticWiki

namespace Axiom

def classes : Axiom → List ElementId
  | subClassOf a b | disjointClasses a b => [a, b]
  | classAssertion _ c | negativeClassAssertion _ c => [c]
  | objectPropertyAssertion .. => []

def subClass? : Axiom → Option (ElementId × ElementId)
  | subClassOf a b => some (a, b)
  | _ => none

def disjoint? : Axiom → Option (ElementId × ElementId)
  | disjointClasses a b => some (a, b)
  | _ => none

def assertion? : Axiom → Option (ElementId × ElementId)
  | classAssertion i c => some (i, c)
  | _ => none

def negative? : Axiom → Option (ElementId × ElementId)
  | negativeClassAssertion i c => some (i, c)
  | _ => none

def property? : Axiom → Option (ElementId × ElementId × ElementId)
  | objectPropertyAssertion a r b => some (a, r, b)
  | _ => none

end Axiom

namespace Reason

abbrev Metered := StateT Nat Option

def tick : Metered Unit := fun steps =>
  match steps with
  | 0 => none
  | rest + 1 => some ((), rest)

def Metered.within (budget : Nat) (m : Metered α) : Option α := (m.run budget).map (·.1)

structure Hierarchy where
  /-- Every class mentioned, once, in the order of first mention. -/
  classes : List ElementId
  edges : List (ElementId × ElementId)

namespace Hierarchy

def ofAxioms (axioms : List Axiom) : Hierarchy where
  classes := (axioms.flatMap Axiom.classes).eraseDups
  edges := axioms.filterMap Axiom.subClass?

def above (h : Hierarchy) (cls : ElementId) : List ElementId :=
  (h.edges.filter (·.1 == cls)).map (·.2)

def search (h : Hierarchy) (unvisited : List ElementId) : List ElementId → Metered (List ElementId)
  | [] => pure []
  | cls :: stack =>
    if _ : cls ∈ unvisited then do
      tick
      let rest ← h.search (unvisited.erase cls) (h.above cls ++ stack)
      return cls :: rest
    else h.search unvisited stack
termination_by stack => (unvisited.length, stack.length)
decreasing_by
  · have := List.length_erase_of_mem ‹cls ∈ unvisited›
    have := List.length_pos_of_mem ‹cls ∈ unvisited›
    exact Prod.Lex.left _ _ (by omega)
  · exact Prod.Lex.right _ (by simp)

def supers (h : Hierarchy) (cls : ElementId) : Metered (List ElementId) := do
  return (← h.search h.classes [cls]).mergeSort fun a b => a.val ≤ b.val

end Hierarchy

end Reason

end SemanticWiki
