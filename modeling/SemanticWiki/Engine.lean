import SemanticWiki.Config
import SemanticWiki.Engine.Error
import SemanticWiki.Engine.World
import SemanticWiki.Export
import SemanticWiki.Lexicon
import SemanticWiki.Lexicon.Entry

/-! The wiki as a whole. Sentences are added optimistically: the reasoner judges the axioms of one
revision together with the new one, and the sentence is committed only if the ontology is still at
that revision. When the reasoner gives no verdict the sentence is committed unchecked, and the wiki
reports itself as out of sync until a consultation succeeds. -/

namespace SemanticWiki

structure Engine (σ : Type) where
  config : Config
  registry : Registry
  languages : List String
  reasoner : Reasoner σ
  exporters : List Exporter

structure ConsistencyReport where
  consistent : Bool
  revision : Nat
deriving DecidableEq

structure Answer where
  holds : Bool
  revision : Nat
deriving DecidableEq

structure ReasonerStatus where
  reasoner : String
  synced : Option Nat
  current : Nat
  /-- Whether the ontology has changed since the last verdict. -/
  pending : Bool
  lastError : Option ReasonError
deriving DecidableEq

namespace Engine

/-- Ordered by display name; languages of one name stay in the order of registration. -/
def visibleLanguages (registry : Registry) (hidden : List String) : List String :=
  ((registry.languages.filter (!hidden.contains ·.code)).mergeSort
    fun g h => !decide (h.name < g.name)).map (·.code)

def builtinExporters (registry : Registry) (languages : List String) : List Exporter :=
  [.functionalSyntax true, .functionalSyntax false, .owlXml true, .owlXml false, .nTriples,
   .lexiconReport registry languages]

def init (config : Config) (registry : Registry) (reasoner : Reasoner σ) :
    Except WikiError (Engine σ) :=
  match config.validate with
  | .error error => .error (.config error)
  | .ok _ =>
    let languages := visibleLanguages registry config.hiddenLanguages
    if !languages.isEmpty && !languages.contains config.defaultLanguage then
      .error (.config (.invalid (.hiddenDefaultLanguage config.defaultLanguage languages)))
    else .ok ⟨config, registry, languages, reasoner, builtinExporters registry languages⟩

def new (config : Config) : Except WikiError (Engine σ) :=
  init config .builtin (.ofBackend config.backend)

def start (e : Engine σ) (ontology : Ontology) (memory : σ) : World σ where
  ontology := ontology
  handlers :=
    (e.languages.filterMap fun code => (e.registry.get code).toOption).map Handler.new
  synced := none
  lastError := none
  memory := memory

def emptyOntology (e : Engine σ) : Ontology := .new e.config.name e.config.baseIri

/-! Words -/

def createElement (w : World σ) (tag : String) : Option Element × World σ :=
  match Kind.ofTag? tag with
  | none => (none, w)
  | some kind =>
    let (e, ontology) := w.ontology.allocate kind
    (e.toOption, { w with ontology })

def saveWords (kind : Kind) (w : World σ) (e : Element) (wordNumber : Nat) (values : List Value) :
    Except LexiconError Nat × Element × World σ :=
  let saved := Lexicon.save kind w.ontology e wordNumber values
  (saved.result, saved.element, { w with ontology := saved.ontology })

/-- The element uses up a number even if its words are refused. An unknown type yields nothing. -/
def addEntry (w : World σ) (entry : LexiconEntry) :
    Option (Except LexiconError Nat × Element) × World σ :=
  match createElement w entry.tag with
  | (none, w) => (none, w)
  | (some e, w) =>
    let (result, e, w) := saveWords e.kind w e 0 (entry.values e.kind)
    (some (result, e), w)

def removeElement (w : World σ) (id : ElementId) : Except OntologyError Element × World σ :=
  let (result, ontology) := w.ontology.removeElement id
  (result, { w with ontology })

/-! Languages -/

def handler (e : Engine σ) (w : World σ) (code : String) : Except GrammarError Handler :=
  match w.handlers.find? (·.language.code == code) with
  | some h => .ok h
  | none => (e.registry.get code).map Handler.new

def putHandler (h : Handler) : List Handler → List Handler
  | [] => [h]
  | g :: rest =>
    if g.language.code = h.language.code then h :: rest else g :: putHandler h rest

def withHandler (e : Engine σ) (w : World σ) (code : String)
    (work : Handler → Ontology → α × Handler) : Except GrammarError α × World σ :=
  match e.handler w code with
  | .error error => (.error error, w)
  | .ok h =>
    let (a, h) := work h w.ontology
    (.ok a, { w with handlers := putHandler h w.handlers })

def flattenResult : Except ε (Except ε α) → Except ε α
  | .ok result => result
  | .error error => .error error

def parse (e : Engine σ) (w : World σ) (code text : String) :
    Except GrammarError Sentence × World σ :=
  let (result, w) := e.withHandler w code fun h o => h.parse o text
  (flattenResult result, w)

def translate (e : Engine σ) (w : World σ) (s : Sentence) (code : String) :
    Except GrammarError String × World σ :=
  let (result, w) := e.withHandler w code fun h o => h.render o s
  (flattenResult result, w)

def describe (e : Engine σ) (w : World σ) (s : Sentence) : Except GrammarError String × World σ :=
  match e.translate w s s.language with
  | (.ok text, w) => (.ok text, w)
  | (.error error, w) => (if error.isPanic then .error error else .ok s.store, w)

/-! Sentences -/

def createSentence (e : Engine σ) (w : World σ) (stored : String) :
    Except GrammarError Sentence := do
  let s ← Sentence.restore stored
  let _ ← e.registry.get s.language
  let _ ← w.ontology.validate s
  return s

def checkedAssertion (e : Engine σ) (w : World σ) (statement : Statement) :
    Except GrammarError Sentence := do
  let s := Sentence.assertion statement e.config.defaultLanguage
  let _ ← w.ontology.validate s
  return s

def commitUnchecked (w : World σ) (s : Sentence) : Except WikiError SentenceId × World σ :=
  match w.ontology.addSentenceIf s none with
  | (.ok (.committed id _), ontology) => (.ok id, { w with ontology })
  | (.ok (.stale _), ontology) => (.error (.engine (.conflict 1)), { w with ontology })
  | (.error error, ontology) => (.error (.grammar error), { w with ontology })

def refusal : Except GrammarError String → WikiError
  | .ok text => .engine (.inconsistentSentence text)
  | .error panic => .grammar panic

/-- An attempt is lost when the ontology moves while the reasoner is busy. -/
def attempt (e : Engine σ) (s : Sentence) : Nat → World σ → Except WikiError SentenceId × World σ
  | 0, w => (.error (.engine (.conflict e.config.maxCommitRetries)), w)
  | attempts + 1, w =>
    let axioms := w.ontology.axioms
    match e.reasoner.consult (.consistency (axioms.extend s.statement.toAxiom)) w with
    | (.error error, w) => commitUnchecked (w.recordError error) s
    | (.ok false, w) =>
      let (text, w) := e.describe w s
      (.error (refusal text), w)
    | (.ok true, w) =>
      match w.ontology.addSentenceIf s (some axioms.revision) with
      | (.error error, ontology) => (.error (.grammar error), { w with ontology })
      | (.ok (.committed id revision), ontology) =>
        (.ok id, { w with ontology }.markSynced revision)
      | (.ok (.stale _), ontology) => e.attempt s attempts { w with ontology }

def addSentence (e : Engine σ) (w : World σ) (s : Sentence) :
    Except WikiError SentenceId × World σ :=
  if s.question then (.error (.engine .questionNotAssertable), w)
  else match w.ontology.validate s with
    | .error error => (.error (.grammar error), w)
    | .ok _ =>
      if e.config.checkOnAdd then e.attempt s e.config.maxCommitRetries w
      else commitUnchecked w s

def retractSentence (w : World σ) (id : SentenceId) : Except OntologyError Sentence × World σ :=
  let (result, ontology) := w.ontology.retractSentence id
  (result, { w with ontology })

/-! Reasoning -/

/-- After an outage this brings the wiki back in sync. -/
def checkConsistency (e : Engine σ) (w : World σ) :
    Except WikiError ConsistencyReport × World σ :=
  let axioms := w.ontology.axioms
  match e.reasoner.consult (.consistency axioms) w with
  | (.ok consistent, w) => (.ok ⟨consistent, axioms.revision⟩, w.markSynced axioms.revision)
  | (.error error, w) => (.error (.reason error), w.recordError error)

def isCurrent (w : World σ) (report : ConsistencyReport) : Bool :=
  report.revision == w.ontology.revision

def answer (e : Engine σ) (w : World σ) (s : Sentence) : Except WikiError Answer × World σ :=
  if !s.question then (.error (.engine .notAQuestion), w)
  else match w.ontology.validate s with
    | .error error => (.error (.grammar error), w)
    | .ok _ =>
      let axioms := w.ontology.axioms
      match e.reasoner.consult (.entailment axioms s.statement.toAxiom) w with
      | (.ok holds, w) => (.ok ⟨holds, axioms.revision⟩, w.markSynced axioms.revision)
      | (.error error, w) => (.error (.reason error), w.recordError error)

def status (e : Engine σ) (w : World σ) : ReasonerStatus where
  reasoner := e.reasoner.name
  synced := w.synced
  current := w.ontology.revision
  pending := w.synced != some w.ontology.revision
  lastError := w.lastError

/-! Export -/

def putExporter (x : Exporter) : List Exporter → List Exporter
  | [] => [x]
  | y :: rest => if y.name = x.name then x :: rest else y :: putExporter x rest

def registerExporter (e : Engine σ) (x : Exporter) : Engine σ :=
  { e with exporters := putExporter x e.exporters }

def runExporter (e : Engine σ) (w : World σ) (name : String) : Except ExportError String :=
  match e.exporters.find? (·.name == name) with
  | none => .error (.unknownExporter name)
  | some x => x.run w.ontology.snapshot

end Engine

end SemanticWiki
