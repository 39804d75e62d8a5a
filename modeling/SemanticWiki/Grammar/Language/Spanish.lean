import SemanticWiki.Grammar.Language

/-! Spanish. Questions start with an inverted mark, and a question about a verb keeps the order of
the statement. -/

namespace SemanticWiki.Language

namespace Spanish

def es : Item := .keyword ["es"]
def todo : Item := .keyword ["todo", "toda"]
def ningun : Item := .keyword ["ningún", "ningun", "ninguna"]
def un : Item := .indefinite .object
def noun : Item := .word .object .nounSg
def stop : Item := .mark "."
def opened : Item := .mark "¿"
def asked : Item := .mark "?"

def rules : List Rule :=
  [⟨.subsumption, false, [todo, .word .subject .nounSg, es, un, noun, stop]⟩,
   ⟨.subsumption, false,
    [.keyword ["todos", "todas"], .keyword ["los", "las"], .word .subject .nounPl,
     .keyword ["son"], .word .object .nounPl, stop]⟩,
   ⟨.subsumption, true, [opened, es, todo, .word .subject .nounSg, un, noun, asked]⟩,
   ⟨.disjointness, false, [ningun, .word .subject .nounSg, es, un, noun, stop]⟩,
   ⟨.disjointness, true, [opened, es, ningun, .word .subject .nounSg, un, noun, asked]⟩,
   ⟨.membership, false, [.name .subject, es, un, noun, stop]⟩,
   ⟨.membership, true, [opened, es, .name .subject, un, noun, asked]⟩,
   ⟨.nonMembership, false, [.name .subject, .keyword ["no"], es, un, noun, stop]⟩,
   ⟨.nonMembership, true, [opened, .keyword ["no"], es, .name .subject, un, noun, asked]⟩,
   ⟨.verbRelation, false,
    [.name .subject, .word .relation .verbFinite, .name .object, stop]⟩,
   ⟨.verbRelation, true,
    [opened, .name .subject, .word .relation .verbFinite, .name .object, asked]⟩,
   ⟨.adjectiveRelation, false,
    [.name .subject, es, .word .relation .trAdj, .name .object, stop]⟩,
   ⟨.adjectiveRelation, true,
    [opened, es, .name .subject, .word .relation .trAdj, .name .object, asked]⟩]

end Spanish

def spanish : Language where
  code := "es"
  name := "Español"
  rules := Spanish.rules
  definite := ["el", "la"]
  indefinite := .fixed ["un", "una"]
  capitalizesNouns := false

end SemanticWiki.Language
