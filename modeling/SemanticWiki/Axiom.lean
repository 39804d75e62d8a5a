import SemanticWiki.Element

/-! What sentences state, in terms of classes, individuals and properties. -/

namespace SemanticWiki

inductive Axiom where
  | subClassOf (sub sup : ElementId)
  | disjointClasses (first second : ElementId)
  | classAssertion (individual cls : ElementId)
  | negativeClassAssertion (individual cls : ElementId)
  | objectPropertyAssertion (subject property object : ElementId)
deriving DecidableEq

structure AxiomSet where
  revision : Nat
  axioms : List Axiom
deriving DecidableEq

namespace AxiomSet

def extend (set : AxiomSet) (ax : Axiom) : AxiomSet := { set with axioms := set.axioms ++ [ax] }

def size (set : AxiomSet) : Nat := set.axioms.length

end AxiomSet

end SemanticWiki
