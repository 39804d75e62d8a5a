import SemanticWiki.Element.Allocator
import SemanticWiki.Lexicon.Error
import SemanticWiki.Sentence

/-! The ontology of a wiki: its registered elements, the index of their words and the asserted
sentences. Every change moves the revision on, so the revision tells whether anything derived from
the ontology is still up to date. An operation that is refused leaves the ontology as it is. -/

namespace SemanticWiki

structure Ontology where
  name : String
  baseIri : String
  allocator : Allocator
  /-- Registered elements by ascending number. -/
  elements : List Element
  /-- The owner of every word of a registered element, by the key of the word. -/
  words : List (String × ElementId)
  /-- Asserted sentences by ascending number. -/
  sentences : List (SentenceId × Sentence)
  /-- Numbers of removed elements, which never return. -/
  removed : List ElementId
  nextSentence : SentenceId
  /-- Raised by one with every change. A counter of 64 bits holds it until there have been `2 ^ 64`. -/
  revision : Nat

inductive CommitOutcome where
  | committed (id : SentenceId) (revision : Nat)
  /-- The ontology has moved; nothing was added. -/
  | stale (current : Nat)
deriving DecidableEq

namespace Ontology

def new (name baseIri : String) : Ontology where
  name := name
  baseIri := baseIri
  allocator := .initial
  elements := []
  words := []
  sentences := []
  removed := []
  nextSentence := .first
  revision := 0

/-- The element joins the ontology when words are committed for it. The number is used up in any case. -/
def allocate (o : Ontology) (kind : Kind) : Except OntologyError Element × Ontology :=
  let (id, allocator) := o.allocator.allocate
  (id.map (Element.fresh · kind), { o with allocator })

def get? (o : Ontology) (id : ElementId) : Option Element := o.elements.find? (·.id == id)

def kindOf (o : Ontology) (id : ElementId) : Option Kind := (o.get? id).map (·.kind)

def owner? (o : Ontology) (word : String) : Option ElementId := o.words.lookup (Word.key word)

def lookup (o : Ontology) (raw : String) : Option ElementId := o.owner? (Word.normalize raw)

def putElement (e : Element) : List Element → List Element
  | [] => [e]
  | f :: rest =>
    if f.id = e.id then e :: rest
    else if e.id.val < f.id.val then e :: f :: rest
    else f :: putElement e rest

def dropWords (index : List (String × ElementId)) (words : List String) :
    List (String × ElementId) :=
  index.filter fun (key, _) => !(words.map Word.key).contains key

def addWord (id : ElementId) (index : List (String × ElementId)) (word : String) :
    List (String × ElementId) :=
  (Word.key word, id) :: index.filter (·.1 != Word.key word)

def taken? (o : Ontology) (id : ElementId) (words : List String) : Option (String × ElementId) :=
  words.findSome? fun word =>
    match o.owner? word with
    | some owner => if owner = id then none else some (word, owner)
    | none => none

def store (o : Ontology) (e : Element) : Ontology :=
  let old := ((o.get? e.id).map (·.words)).getD []
  { o with
    elements := putElement e o.elements
    words := e.words.foldl (addWord e.id) (dropWords o.words old)
    revision := o.revision + 1 }

/-- Values that the element already has are no change. -/
def commit (o : Ontology) (id : ElementId) (kind : Kind) (values : List Value) :
    Except LexiconError Nat × Ontology :=
  let e : Element := ⟨id, kind, values⟩
  if o.removed.contains id then (.error (.unknownElement id.val), o)
  else match o.get? id with
    | some registered =>
      if registered.kind ≠ kind then (.error (.kindMismatch id.val kind registered.kind), o)
      else match o.taken? id e.words with
        | some (word, owner) =>
          (.error (.invalidWord (.duplicate (Word.pretty word) owner.val)), o)
        | none =>
          if registered.values = values then (.ok o.revision, o)
          else let o := o.store e; (.ok o.revision, o)
    | none =>
      match o.taken? id e.words with
      | some (word, owner) =>
        (.error (.invalidWord (.duplicate (Word.pretty word) owner.val)), o)
      | none => let o := o.store e; (.ok o.revision, o)

def mentions (o : Ontology) (id : ElementId) : Nat := o.sentences.countP (·.2.mentions id)

def removeElement (o : Ontology) (id : ElementId) : Except OntologyError Element × Ontology :=
  match o.get? id with
  | none => (.error (.unknownElement id.val), o)
  | some e =>
    if o.mentions id ≠ 0 then
      (.error (.elementInUse id.val (Word.pretty e.headword) (o.mentions id)), o)
    else
      (.ok e,
        { o with
          elements := o.elements.filter (·.id != id)
          words := dropWords o.words e.words
          removed := id :: o.removed
          revision := o.revision + 1 })

def validate (o : Ontology) (s : Sentence) : Except GrammarError Construct :=
  s.statement.construct o.kindOf

def putSentence (id : SentenceId) (s : Sentence) :
    List (SentenceId × Sentence) → List (SentenceId × Sentence)
  | [] => [(id, s)]
  | (key, other) :: rest =>
    if key = id then (id, s) :: rest
    else if id.val < key.val then (id, s) :: (key, other) :: rest
    else (key, other) :: putSentence id s rest

def addSentenceIf (o : Ontology) (s : Sentence) (expected : Option Nat) :
    Except GrammarError CommitOutcome × Ontology :=
  if expected.any (· != o.revision) then (.ok (.stale o.revision), o)
  else match o.validate s with
    | .error e => (.error e, o)
    | .ok _ =>
      (.ok (.committed o.nextSentence (o.revision + 1)),
        { o with
          sentences := putSentence o.nextSentence s o.sentences
          nextSentence := o.nextSentence.succ
          revision := o.revision + 1 })

def sentence? (o : Ontology) (id : SentenceId) : Option Sentence := o.sentences.lookup id

def retractSentence (o : Ontology) (id : SentenceId) : Except OntologyError Sentence × Ontology :=
  match o.sentence? id with
  | none => (.error (.unknownSentence id.val), o)
  | some s =>
    (.ok s,
      { o with
        sentences := o.sentences.filter (·.1 != id)
        revision := o.revision + 1 })

def axioms (o : Ontology) : AxiomSet where
  revision := o.revision
  axioms := (o.sentences.filter (!·.2.question)).map (·.2.statement.toAxiom)

end Ontology

end SemanticWiki
