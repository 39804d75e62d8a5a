import SemanticWiki.Grammar.Reading
import SemanticWiki.Grammar.Wording

/-! What the wiki asks of a language. Languages given by sentence patterns answer all of it; others
can be registered beside them. -/

namespace SemanticWiki

structure ConcreteGrammar where
  code : String
  name : String
  /-- The form in which a stored word is shown. -/
  inflect : Cat → String → String
  linearize : LexIndex → Statement → Bool → Except GrammarError String
  parse : LexIndex → String → Except GrammarError Reading

namespace ConcreteGrammar

def index (g : ConcreteGrammar) (revision : Nat) (elements : List Element) : LexIndex :=
  .ofForms g.inflect revision elements

end ConcreteGrammar

namespace Language

@[coe]
def toGrammar (g : Language) : ConcreteGrammar where
  code := g.code
  name := g.name
  inflect := g.inflect
  linearize := g.linearize
  parse := g.parse

instance : Coe Language ConcreteGrammar := ⟨toGrammar⟩

end Language

end SemanticWiki
