import SemanticWiki.Grammar.Category
import SemanticWiki.Grammar.Construct
import SemanticWiki.Grammar.Morphology
import SemanticWiki.Word

/-! Languages given by sentence patterns. A rule spells one construction as a sequence of items.
The first rule for a construction is the one sentences are written with; the others are accepted
when sentences are read. -/

namespace SemanticWiki

inductive Item where
  /-- A keyword, written with the first spelling and read in any. -/
  | keyword (spellings : List String)
  /-- A punctuation mark, which a reader may leave out. -/
  | mark (text : String)
  /-- A proper name, after the definite article if the individual is named with one. -/
  | name (role : Role)
  | word (role : Role) (cat : Cat)
  /-- The indefinite article of the singular noun of an element. -/
  | indefinite (role : Role)
deriving DecidableEq

structure Rule where
  construct : Construct
  question : Bool
  items : List Item
deriving DecidableEq

inductive Indefinite where
  /-- `a` or `an`, by the sound of the noun. -/
  | bySound
  /-- Fixed spellings, of which the first is written. -/
  | fixed (spellings : List String)
deriving DecidableEq

structure Language where
  code : String
  name : String
  rules : List Rule
  /-- Spellings of the definite article; the first is written. -/
  definite : List String
  indefinite : Indefinite
  capitalizesNouns : Bool
deriving DecidableEq

namespace Language

def renamed (g : Language) (code name : String) : Language := { g with code, name }

def inflect (g : Language) (cat : Cat) (word : String) : String :=
  if g.capitalizesNouns && cat.kind == .concept then
    String.ofList (Grammar.capitalizeWords (Word.pretty word).toList)
  else Word.pretty word

def outputRule? (g : Language) (construct : Construct) (question : Bool) : Option Rule :=
  g.rules.find? fun r => r.construct == construct && r.question == question

def isIndefinite (g : Language) (token : String) : Bool :=
  match g.indefinite with
  | .bySound => token == "a" || token == "an"
  | .fixed spellings => spellings.contains token

end Language

end SemanticWiki
