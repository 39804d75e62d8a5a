import SemanticWiki.Grammar.Language

/-! English. A class can also be subsumed in the plural, and a verb can stand in the passive; both
are read but never written. -/

namespace SemanticWiki.Language

namespace English

def is : Item := .keyword ["is"]
def every : Item := .keyword ["every"]
def no : Item := .keyword ["no"]
def aClass : List Item := [.indefinite .object, .word .object .nounSg]
def stop : Item := .mark "."
def asked : Item := .mark "?"

def rules : List Rule :=
  [⟨.subsumption, false, [every, .word .subject .nounSg, is] ++ aClass ++ [stop]⟩,
   ⟨.subsumption, false,
    [.keyword ["all"], .word .subject .nounPl, .keyword ["are"], .word .object .nounPl, stop]⟩,
   ⟨.subsumption, true, [is, every, .word .subject .nounSg] ++ aClass ++ [asked]⟩,
   ⟨.disjointness, false, [no, .word .subject .nounSg, is] ++ aClass ++ [stop]⟩,
   ⟨.disjointness, true, [is, no, .word .subject .nounSg] ++ aClass ++ [asked]⟩,
   ⟨.membership, false, [.name .subject, is] ++ aClass ++ [stop]⟩,
   ⟨.membership, true, [is, .name .subject] ++ aClass ++ [asked]⟩,
   ⟨.nonMembership, false, [.name .subject, is, .keyword ["not"]] ++ aClass ++ [stop]⟩,
   ⟨.nonMembership, true, [is, .name .subject, .keyword ["not"]] ++ aClass ++ [asked]⟩,
   ⟨.verbRelation, false,
    [.name .subject, .word .relation .verbFinite, .name .object, stop]⟩,
   ⟨.verbRelation, false,
    [.name .object, is, .word .relation .verbPastPart, .keyword ["by"], .name .subject, stop]⟩,
   ⟨.verbRelation, true,
    [.keyword ["does"], .name .subject, .word .relation .verbInf, .name .object, asked]⟩,
   ⟨.adjectiveRelation, false,
    [.name .subject, is, .word .relation .trAdj, .name .object, stop]⟩,
   ⟨.adjectiveRelation, true,
    [is, .name .subject, .word .relation .trAdj, .name .object, asked]⟩]

end English

def english : Language where
  code := "en"
  name := "English"
  rules := English.rules
  definite := ["the"]
  indefinite := .bySound
  capitalizesNouns := false

end SemanticWiki.Language
