import SemanticWiki.Statement

/-! Which elements fill the argument positions of a sentence pattern. -/

namespace SemanticWiki

structure Binding where
  subject : Option ElementId
  object : Option ElementId
  relation : Option ElementId
deriving DecidableEq

namespace Binding

def empty : Binding := ⟨none, none, none⟩

def get? (b : Binding) : Role → Option ElementId
  | .subject => b.subject
  | .object => b.object
  | .relation => b.relation

/-- A position already filled has to be filled with the same element. -/
def bind? (b : Binding) (role : Role) (id : ElementId) : Option Binding :=
  if (b.get? role).all (· == id) then
    some <| match role with
      | .subject => { b with subject := some id }
      | .object => { b with object := some id }
      | .relation => { b with relation := some id }
  else none

def assemble? (b : Binding) (construct : Construct) : Option Statement := do
  let subject ← b.subject
  let object ← b.object
  match construct with
  | .subsumption => return .subsumption subject object
  | .disjointness => return .disjointness subject object
  | .membership => return .membership subject object
  | .nonMembership => return .nonMembership subject object
  | .verbRelation | .adjectiveRelation => return .relation subject (← b.relation) object

def ofStatement : Statement → Binding
  | .subsumption a b | .disjointness a b | .membership a b | .nonMembership a b =>
    ⟨some a, some b, none⟩
  | .relation a r b => ⟨some a, some b, some r⟩

end Binding

end SemanticWiki
