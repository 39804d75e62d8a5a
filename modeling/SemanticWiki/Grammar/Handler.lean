import SemanticWiki.Grammar.Concrete
import SemanticWiki.Ontology

/-! A language at work on an ontology. The handler keeps the index it built last and builds a new one
when the ontology has moved on, so a changed word is seen by the very next call. -/

namespace SemanticWiki

structure Handler where
  language : ConcreteGrammar
  cache : Option LexIndex

namespace Handler

def new (g : ConcreteGrammar) : Handler := ⟨g, none⟩

/-- Builds the index anew. It is kept unless the one kept is of a later revision. -/
def refresh (h : Handler) (o : Ontology) : LexIndex × Handler :=
  let index := h.language.index o.revision o.elements
  (index, if h.cache.all (·.revision ≤ o.revision) then { h with cache := some index } else h)

def lexicon (h : Handler) (o : Ontology) : LexIndex × Handler :=
  match h.cache with
  | some index => if index.revision = o.revision then (index, h) else h.refresh o
  | none => h.refresh o

def parse (h : Handler) (o : Ontology) (text : String) : Except GrammarError Sentence × Handler :=
  let (index, h) := h.lexicon o
  ((h.language.parse index text).map fun (s, question) => ⟨s, question, h.language.code⟩, h)

/-- The sentence in the words of this language, whatever language it was written in. -/
def render (h : Handler) (o : Ontology) (s : Sentence) : Except GrammarError String × Handler :=
  let (index, h) := h.lexicon o
  (h.language.linearize index s.statement s.question, h)

def wordOf (h : Handler) (e : Element) (slot : Nat) : Option String :=
  match (Cat.ofKind e.kind).find? (·.slot == slot) with
  | none => none
  | some cat => if (e.word slot).isEmpty then none else some (h.language.inflect cat (e.word slot))

end Handler

end SemanticWiki
