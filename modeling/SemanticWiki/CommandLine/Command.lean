import SemanticWiki.CommandLine.Form

/-! The commands, and how a command line names one of them. -/

namespace SemanticWiki.CommandLine

inductive Command where
  | languages
  | parse (language : Option String) (text : String)
  | translate (source : Option String) (target text : String)
  | check (sentences : String) (language : Option String)
  | ask (sentences question : String) (language : Option String)
  | write (sentences : Option String) (exporter : String) (language : Option String)
  | info
deriving DecidableEq

structure Invocation where
  config : Option String
  lexicon : Option String
  command : Command
deriving DecidableEq

structure Usage where
  name : String
  summary : String
  options : List Parameter := []
  positionals : List Parameter := []
  command : Given → Except UsageError Command

def sentencesFile : Parameter := { name := "sentences", isFile := true }

def usages : List Usage := [
  { name := "languages"
    summary := "List the visible languages"
    command := fun _ => .ok .languages },
  { name := "parse"
    summary := "Parse a sentence and print its storage form"
    options := [⟨"lang", false⟩]
    positionals := [⟨"text", false⟩]
    command := fun given => do return .parse (given.lookup "lang") (← given.require "text") },
  { name := "translate"
    summary := "Render a sentence in another language"
    options := [⟨"from", false⟩, ⟨"to", false⟩]
    positionals := [⟨"text", false⟩]
    command := fun given => do
      return .translate (given.lookup "from") (← given.require "to") (← given.require "text") },
  { name := "check"
    summary := "Add the sentences of a file and check the ontology for consistency"
    options := [⟨"lang", false⟩]
    positionals := [sentencesFile]
    command := fun given => do
      return .check (← given.require "sentences") (given.lookup "lang") },
  { name := "ask"
    summary := "Ask a question against the sentences of a file"
    options := [⟨"lang", false⟩]
    positionals := [sentencesFile, ⟨"question", false⟩]
    command := fun given => do
      return .ask (← given.require "sentences") (← given.require "question")
        (given.lookup "lang") },
  { name := "export"
    summary := "Export the ontology built from a sentence file"
    options := [⟨"format", false⟩, ⟨"lang", false⟩]
    positionals := [sentencesFile]
    command := fun given => .ok <|
      .write (given.lookup "sentences") ((given.lookup "format").getD "owl-fss")
        (given.lookup "lang") },
  { name := "info"
    summary := "Show engine info"
    command := fun _ => .ok .info }]

def commonOptions : List Parameter := [⟨"config", true⟩, ⟨"lexicon", true⟩]

def programForm : Form := { options := commonOptions, version := true }

def Usage.form (u : Usage) : Form where
  options := u.options ++ commonOptions
  positionals := u.positionals
  topic := some u.name

def helpTopic (arguments : List String) : Interruption :=
  match arguments with
  | [] => .help none
  | name :: rest =>
    if name != "help" && !usages.any (·.name == name) then .usage (.unknownCommand name)
    else match rest with
      | [] => .help (some name)
      | extra :: _ => .usage (.unknownCommand extra)

def Usage.read (u : Usage) (before : Given) (arguments : List String) :
    Except Interruption Invocation := do
  let scan ← u.form.read arguments
  if let extra :: _ := scan.rest then
    throw (.usage (.unexpectedArgument extra))
  return {
    config := scan.given.lookup "config" <|> before.lookup "config"
    lexicon := scan.given.lookup "lexicon" <|> before.lookup "lexicon"
    command := ← (u.command scan.given).mapError .usage }

def Invocation.ofArguments (arguments : List String) : Except Interruption Invocation := do
  let scan ← programForm.read arguments
  match scan.rest with
  | [] => throw (.usage .missingCommand)
  | name :: rest =>
    if scan.separated then throw (.usage (.unexpectedArgument name))
    match usages.find? (·.name == name) with
    | some usage => usage.read scan.given rest
    | none => throw (if name = "help" then helpTopic rest else .usage (.unknownCommand name))

def Invocation.files (i : Invocation) : List String :=
  i.config.toList ++ i.lexicon.toList ++
    match i.command with
    | .check sentences _ | .ask sentences _ _ => [sentences]
    | .write sentences _ _ => sentences.toList
    | _ => []

def Parameter.placeholder (p : Parameter) : String := "<" ++ p.name ++ ">"

def Usage.line (u : Usage) : String :=
  " ".intercalate ("wikilex" :: u.name :: u.options.map (fun p => s!"[--{p.name} VALUE]") ++
    u.positionals.map Parameter.placeholder)

def helpText (topic : Option String) : String :=
  match topic.bind fun name => usages.find? (·.name == name) with
  | some usage => usage.summary ++ "\n\nUsage: " ++ usage.line ++ "\n"
  | none =>
    "Controlled-language lexicon and ontology engine\n\n" ++
    "Usage: wikilex [--config FILE] [--lexicon FILE] COMMAND\n\nCommands:\n" ++
    String.join (usages.map fun u => s!"  {u.line}\n      {u.summary}\n")

end SemanticWiki.CommandLine
