/-! Constructions of sentences and the argument positions in them. -/

namespace SemanticWiki

/-- What a sentence says, as far as its wording depends on it. Relations are told apart by the kind of
their name, since verbs and adjectives read differently. -/
inductive Construct where
  | subsumption
  | disjointness
  | membership
  | nonMembership
  | verbRelation
  | adjectiveRelation
deriving DecidableEq

def Construct.name : Construct → String
  | subsumption => "Subsumption"
  | disjointness => "Disjointness"
  | membership => "Instance"
  | nonMembership => "NegatedInstance"
  | verbRelation => "VerbRelation"
  | adjectiveRelation => "AdjectiveRelation"

inductive Role where
  | subject
  | object
  | relation
deriving DecidableEq

def Role.letter : Role → String
  | subject => "A"
  | object => "B"
  | relation => "R"

end SemanticWiki
