import SemanticWiki.Element.Kind

/-! Lexical categories. A category is one word form of one kind of element, and so belongs to one
word slot of that kind. -/

namespace SemanticWiki

inductive Cat where
  | nounSg
  | nounPl
  | properName
  | verbFinite
  | verbInf
  | verbPastPart
  | trAdj
deriving DecidableEq

namespace Cat

def all : List Cat := [nounSg, nounPl, properName, verbFinite, verbInf, verbPastPart, trAdj]

def name : Cat → String
  | nounSg => "NounSg"
  | nounPl => "NounPl"
  | properName => "ProperName"
  | verbFinite => "VerbFinite"
  | verbInf => "VerbInf"
  | verbPastPart => "VerbPastPart"
  | trAdj => "TrAdj"

def kind : Cat → Kind
  | nounSg | nounPl => .concept
  | properName => .individual
  | verbFinite | verbInf | verbPastPart => .relation
  | trAdj => .transitiveAdjective

def slot : Cat → Nat
  | nounSg | properName | verbFinite | trAdj => 0
  | nounPl | verbInf => 1
  | verbPastPart => 2

def ofKind (kind : Kind) : List Cat := all.filter (·.kind == kind)

end Cat

end SemanticWiki
