import SemanticWiki.CommandLine.Command
import SemanticWiki.Config.Storage
import SemanticWiki.Engine.Info

/-! What a command line does. A run builds a wiki from a configuration and a lexicon, and lets one
command work on it. The run is a function of the arguments and of what the files hold. -/

namespace SemanticWiki.CommandLine

inductive Failure where
  | usage (error : UsageError)
  | unreadable (path : String)
  | malformedLexicon (path : String)
  | unknownType (tag : String)
  | wiki (error : WikiError)
deriving DecidableEq

namespace Failure

def message : Failure → String
  | usage error => error.message
  | unreadable path => s!"cannot read {path}"
  | malformedLexicon path => s!"{path} is no lexicon"
  | unknownType tag =>
    s!"unknown element type \"{tag}\" (expected one of: " ++
      ", ".intercalate (Kind.all.map Kind.tag) ++ ")"
  | wiki error => error.diagnostic.message

def code? : Failure → Option String
  | wiki error => some error.diagnostic.code
  | _ => none

def status : Failure → Nat
  | usage _ => 2
  | _ => 1

end Failure

structure Outcome where
  output : String := ""
  /-- Why sentences were left out. -/
  rejected : List String := []
  failure : Option Failure := none
deriving DecidableEq

def Outcome.status (o : Outcome) : Nat := (o.failure.map Failure.status).getD 0

abbrev Files := String → Option String

structure Progress (σ : Type) where
  world : World σ
  rejected : List String := []

/-- Work on the wiki that may fail half-way. What it has done until then stays done. -/
abbrev Job (σ : Type) := ExceptT Failure (StateM (Progress σ))

namespace Job

def change (work : World σ → α × World σ) : Job σ α := do
  let (a, world) := work (← get).world
  modify ({ · with world })
  return a

def ofExcept (failure : ε → Failure) : Except ε α → Job σ α
  | .ok a => return a
  | .error e => throw (failure e)

def file (files : Files) (path : String) : Job σ String :=
  match files path with
  | some text => return text
  | none => throw (.unreadable path)

end Job

def loadEntry (entry : LexiconEntry) : Job σ Unit := do
  match ← Job.change fun w => Engine.addEntry w entry with
  | none => throw (.unknownType entry.tag)
  | some (result, _) =>
    let _ ← Job.ofExcept (.wiki ∘ .lexicon) result

def loadLexicon (files : Files) (path : String) : Job σ Unit := do
  match LexiconEntry.readAll? (← Job.file files path) with
  | none => throw (.malformedLexicon path)
  | some entries => entries.forM loadEntry

def sentenceLines (text : String) : List String :=
  let lines := (Text.pieces (· == '\n') text.toList).map Text.trim
  (lines.filter fun line => !line.isEmpty && line.head? != some '#').map String.ofList

def parse (e : Engine σ) (language text : String) : Job σ Sentence := do
  Job.ofExcept (.wiki ∘ .grammar) (← Job.change fun w => e.parse w language text)

def fileResult : Except WikiError SentenceId → Job σ Unit
  | .ok _ => return
  | .error (.engine (.inconsistentSentence text)) =>
    let reason := (EngineError.inconsistentSentence text).diagnostic.message
    modify fun p => { p with rejected := p.rejected ++ [reason] }
  | .error error => throw (.wiki error)

def addLine (e : Engine σ) (language line : String) : Job σ Unit := do
  let s ← parse e language line
  fileResult (← Job.change fun w => e.addSentence w s)

def loadSentences (e : Engine σ) (files : Files) (language path : String) : Job σ Unit := do
  (sentenceLines (← Job.file files path)).forM (addLine e language)

def listLanguages (e : Engine σ) : Job σ String := do
  let lines ← e.languages.mapM fun code => do
    let h ← Job.ofExcept (.wiki ∘ .grammar) (e.handler (← get).world code)
    return code ++ "\t" ++ h.language.name ++ "\n"
  return String.join lines

def summary (added rejected : Nat) (consistent : Bool) : String :=
  let consistency := if consistent then "consistent" else "inconsistent"
  s!"{added} sentence(s) added, {rejected} rejected, ontology is {consistency}\n"

def verdict (e : Engine σ) : Job σ String := do
  let report ← Job.ofExcept .wiki (← Job.change e.checkConsistency)
  let p ← get
  return summary p.world.ontology.sentences.length p.rejected.length report.consistent

def Command.perform (e : Engine σ) (files : Files) (c : Command) : Job σ String := do
  let language := (·.getD e.config.defaultLanguage)
  match c with
  | .languages => listLanguages e
  | .parse code text => return (← CommandLine.parse e (language code) text).store ++ "\n"
  | .translate source target text =>
    let s ← CommandLine.parse e (language source) text
    let text ← Job.ofExcept (.wiki ∘ .grammar) (← Job.change fun w => e.translate w s target)
    return text ++ "\n"
  | .check sentences code =>
    loadSentences e files (language code) sentences
    verdict e
  | .ask sentences question code =>
    loadSentences e files (language code) sentences
    let s ← CommandLine.parse e (language code) question
    let answer ← Job.ofExcept .wiki (← Job.change fun w => e.answer w s)
    return if answer.holds then "yes\n" else "unknown\n"
  | .write sentences exporter code =>
    if let some path := sentences then
      loadSentences e files (language code) path
    Job.ofExcept (.wiki ∘ .exporting) (e.runExporter (← get).world exporter)
  | .info => return (e.info (← get).world).display

def Invocation.config? (i : Invocation) (files : Files) : Except WikiError Config :=
  match i.config with
  | some path => (Config.load path (files path)).mapError .config
  | none => .ok {}

def Invocation.job (i : Invocation) (files : Files) (e : Engine σ) : Job σ String := do
  if let some path := i.lexicon then
    loadLexicon files path
  i.command.perform e files

def conclude : Except Failure String × Progress σ → Outcome × Option (World σ)
  | (.ok output, p) => ({ output, rejected := p.rejected }, some p.world)
  | (.error failure, p) => ({ rejected := p.rejected, failure := some failure }, some p.world)

def Invocation.perform (i : Invocation) (files : Files) (new : Config → Except WikiError (Engine σ))
    (memory : σ) : Outcome × Option (World σ) :=
  match i.config? files >>= new with
  | .error error => ({ failure := some (.wiki error) }, none)
  | .ok e => conclude ((i.job files e).run.run { world := e.start e.emptyOntology memory })

def runWith (new : Config → Except WikiError (Engine σ)) (memory : σ) (files : Files)
    (arguments : List String) : Outcome × Option (World σ) :=
  match Invocation.ofArguments arguments with
  | .ok i => i.perform files new memory
  | .error .version => ({ output := "wikilex 0.3.0\n" }, none)
  | .error (.help topic) => ({ output := helpText topic }, none)
  | .error (.usage error) => ({ failure := some (.usage error) }, none)

def run (files : Files) (arguments : List String) : Outcome :=
  (runWith Engine.new () files arguments).1

end SemanticWiki.CommandLine
