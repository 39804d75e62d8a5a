import SemanticWiki.Grammar.Language

/-! German. Nouns are capitalized and questions start with the verb. -/

namespace SemanticWiki.Language

namespace German

def ist : Item := .keyword ["ist"]
def jeder : Item := .keyword ["jeder", "jede", "jedes"]
def kein : Item := .keyword ["kein", "keine"]
def ein : Item := .indefinite .object
def noun : Item := .word .object .nounSg
def stop : Item := .mark "."
def asked : Item := .mark "?"

def rules : List Rule :=
  [⟨.subsumption, false, [jeder, .word .subject .nounSg, ist, ein, noun, stop]⟩,
   ⟨.subsumption, false,
    [.keyword ["alle"], .word .subject .nounPl, .keyword ["sind"], .word .object .nounPl, stop]⟩,
   ⟨.subsumption, true, [ist, jeder, .word .subject .nounSg, ein, noun, asked]⟩,
   ⟨.disjointness, false, [kein, .word .subject .nounSg, ist, ein, noun, stop]⟩,
   ⟨.disjointness, true, [ist, kein, .word .subject .nounSg, ein, noun, asked]⟩,
   ⟨.membership, false, [.name .subject, ist, ein, noun, stop]⟩,
   ⟨.membership, true, [ist, .name .subject, ein, noun, asked]⟩,
   ⟨.nonMembership, false, [.name .subject, ist, kein, noun, stop]⟩,
   ⟨.nonMembership, true, [ist, .name .subject, kein, noun, asked]⟩,
   ⟨.verbRelation, false,
    [.name .subject, .word .relation .verbFinite, .name .object, stop]⟩,
   ⟨.verbRelation, true,
    [.word .relation .verbFinite, .name .subject, .name .object, asked]⟩,
   ⟨.adjectiveRelation, false,
    [.name .subject, ist, .word .relation .trAdj, .name .object, stop]⟩,
   ⟨.adjectiveRelation, true,
    [ist, .name .subject, .word .relation .trAdj, .name .object, asked]⟩]

end German

def german : Language where
  code := "de"
  name := "Deutsch"
  rules := German.rules
  definite := ["der", "die", "das"]
  indefinite := .fixed ["ein", "eine", "einen"]
  capitalizesNouns := true

end SemanticWiki.Language
