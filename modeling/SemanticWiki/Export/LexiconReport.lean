import SemanticWiki.Export.Vocabulary
import SemanticWiki.Grammar.Registry
import SemanticWiki.Json.Printer
import SemanticWiki.Sentence.Storage

/-! The lexicon report: every element with its words, and every sentence in all languages that have
the words for it. -/

namespace SemanticWiki.Export

structure ReportedElement where
  id : ElementId
  tag : String
  words : List String
deriving DecidableEq

structure ReportedSentence where
  id : SentenceId
  stored : String
  texts : List (String × String)
deriving DecidableEq

structure LexiconReport where
  name : String
  revision : Nat
  elements : List ReportedElement
  sentences : List ReportedSentence
deriving DecidableEq

def ReportedElement.toJson (e : ReportedElement) : JsonValue :=
  .object [
    ("id", .number (toString e.id.val)),
    ("type", .string e.tag),
    ("words", .array (e.words.map .string))]

def ReportedSentence.toJson (e : ReportedSentence) : JsonValue :=
  .object [
    ("id", .number (toString e.id.val)),
    ("serialized", .string e.stored),
    ("text", .object (e.texts.map fun (code, text) => (code, .string text)))]

namespace LexiconReport

def putText (code text : String) : List (String × String) → List (String × String)
  | [] => [(code, text)]
  | (k, t) :: rest =>
    if k = code then (code, text) :: rest
    else if code < k then (code, text) :: (k, t) :: rest
    else (k, t) :: putText code text rest

def addText (s : Sentence) (texts : List (String × String)) (g : ConcreteGrammar × LexIndex) :
    Except GrammarError (List (String × String)) :=
  match g.1.linearize g.2 s.statement s.question with
  | .ok text => .ok (putText g.1.code text texts)
  | .error error => if error.isPanic then .error error else .ok texts

def textsOf (languages : List (ConcreteGrammar × LexIndex)) (s : Sentence) :
    Except GrammarError (List (String × String)) :=
  languages.foldlM (addText s) []

def ofSnapshot (registry : Registry) (codes : List String) (s : Snapshot) :
    Except RenderFault LexiconReport := do
  let languages ← codes.mapM fun code => do
    let g ← (registry.get code).mapError RenderFault.grammar
    return (g, g.index s.revision s.elements)
  let sentences ← s.sentences.mapM fun (id, sentence) => do
    let texts ← (textsOf languages sentence).mapError RenderFault.grammar
    return ⟨id, sentence.store, texts⟩
  return {
    name := s.name
    revision := s.revision
    elements := s.elements.map fun e => ⟨e.id, e.kind.tag, e.words.map Word.pretty⟩
    sentences }

def toJson (r : LexiconReport) : JsonValue :=
  .object [
    ("name", .string r.name),
    ("revision", .number (toString r.revision)),
    ("elements", .array (r.elements.map ReportedElement.toJson)),
    ("sentences", .array (r.sentences.map ReportedSentence.toJson))]

def render (registry : Registry) (codes : List String) (s : Snapshot) :
    Except RenderFault String := do
  return (← ofSnapshot registry codes s).toJson.print ""

end LexiconReport

end SemanticWiki.Export
