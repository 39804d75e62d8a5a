import SemanticWiki.Ontology

/-! An ontology as it was at one revision. -/

namespace SemanticWiki

structure Snapshot where
  name : String
  baseIri : String
  revision : Nat
  /-- By ascending number. -/
  elements : List Element
  /-- By ascending number. -/
  sentences : List (SentenceId × Sentence)

def Ontology.snapshot (o : Ontology) : Snapshot :=
  ⟨o.name, o.baseIri, o.revision, o.elements, o.sentences⟩

namespace Snapshot

def element? (s : Snapshot) (id : ElementId) : Option Element := s.elements.find? (·.id == id)

/-- What the asserted sentences state; questions state nothing. -/
def axioms (s : Snapshot) : List Axiom :=
  (s.sentences.filter (!·.2.question)).map (·.2.statement.toAxiom)

end Snapshot

end SemanticWiki
