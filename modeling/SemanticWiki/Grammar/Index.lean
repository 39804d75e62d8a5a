import SemanticWiki.Element
import SemanticWiki.Grammar.Language
import SemanticWiki.Grammar.Token

/-! The lexical index of a language: the surface form of every word of the lexicon, with the tokens
it is read from. It is built from the registered elements at one revision of the ontology. -/

namespace SemanticWiki

structure LexEntry where
  id : ElementId
  cat : Cat
  surface : String
  /-- What a reader sees of the surface form; never empty in an index. -/
  tokens : List String
deriving DecidableEq

structure LexIndex where
  revision : Nat
  /-- In the order of the elements, and for one element in the order of the categories. -/
  entries : List LexEntry
  kinds : List (ElementId × Kind)
  definite : List ElementId
deriving DecidableEq

namespace LexIndex

def entryIn? (inflect : Cat → String → String) (e : Element) (cat : Cat) : Option LexEntry :=
  let word := e.word cat.slot
  let surface := inflect cat word
  let tokens := Grammar.tokenize surface
  if word.isEmpty || tokens.isEmpty then none else some ⟨e.id, cat, surface, tokens⟩

def ofForms (inflect : Cat → String → String) (revision : Nat) (elements : List Element) :
    LexIndex where
  revision := revision
  entries := elements.flatMap fun e => (Cat.ofKind e.kind).filterMap (entryIn? inflect e)
  kinds := elements.map fun e => (e.id, e.kind)
  definite := (elements.filter (·.isDefinite)).map (·.id)

def entryOf? (g : Language) (e : Element) (cat : Cat) : Option LexEntry := entryIn? g.inflect e cat

def build (g : Language) (revision : Nat) (elements : List Element) : LexIndex :=
  ofForms g.inflect revision elements

/-- The surface form of an element; the last entry counts if an element was indexed twice. -/
def surface? (index : LexIndex) (id : ElementId) (cat : Cat) : Option String :=
  (index.entries.reverse.find? fun e => e.id == id && e.cat == cat).map (·.surface)

def kindOf (index : LexIndex) (id : ElementId) : Option Kind := index.kinds.reverse.lookup id

def isDefinite (index : LexIndex) (id : ElementId) : Bool := index.definite.contains id

def maxTokens (index : LexIndex) : Nat := (index.entries.map (·.tokens.length)).foldl max 0

/-- The elements whose word in `cat` is at the front of `tokens`, with the length of the word:
longer words first, and words of one length in the order of the index. -/
def matchesFront (index : LexIndex) (tokens : List String) (cat : Cat) : List (ElementId × Nat) :=
  let longest := min index.maxTokens tokens.length
  (List.range' 1 longest).reverse.flatMap fun n =>
    (index.entries.filter fun e => e.cat == cat && e.tokens == tokens.take n).map fun e => (e.id, n)

def matchesAt (index : LexIndex) (tokens : List String) (pos : Nat) (cat : Cat) :
    List (ElementId × Nat) :=
  index.matchesFront (tokens.drop pos) cat

def size (index : LexIndex) : Nat := (index.entries.map (·.tokens)).eraseDups.length

end LexIndex

end SemanticWiki
