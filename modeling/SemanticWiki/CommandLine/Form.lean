import SemanticWiki.CommandLine.Argument

/-! What a command takes, and reading arguments by it. Arguments are read from left to right up to the
first one that is wrong, that asks for help or the version, or that has no place. -/

namespace SemanticWiki.CommandLine

structure Parameter where
  name : String
  /-- A file name must not be empty. -/
  isFile : Bool := false
deriving DecidableEq

inductive UsageError where
  | missingCommand
  | unknownCommand (name : String)
  | unexpectedArgument (text : String)
  | missingValue (option : String)
  | unwantedValue (option : String)
  | repeatedOption (option : String)
  | emptyFileName (parameter : String)
  | missingParameter (parameter : String)
deriving DecidableEq

def UsageError.message : UsageError → String
  | missingCommand => "a command is missing"
  | unknownCommand name => s!"unknown command '{name}'"
  | unexpectedArgument text => s!"unexpected argument '{text}'"
  | missingValue option => s!"the option '--{option}' needs a value"
  | unwantedValue option => s!"the option '--{option}' takes no value"
  | repeatedOption option => s!"the option '--{option}' cannot be used more than once"
  | emptyFileName parameter => s!"the file name for '{parameter}' is empty"
  | missingParameter parameter => s!"'{parameter}' is missing"

inductive Interruption where
  | version
  | help (command : Option String)
  | usage (error : UsageError)
deriving DecidableEq

abbrev Given := List (String × String)

namespace Given

def put (given : Given) (p : Parameter) (value : String) : Except UsageError Given :=
  if p.isFile && value.isEmpty then .error (.emptyFileName p.name)
  else if (given.lookup p.name).isSome then .error (.repeatedOption p.name)
  else .ok (given ++ [(p.name, value)])

def require (given : Given) (name : String) : Except UsageError String :=
  match given.lookup name with
  | some value => .ok value
  | none => .error (.missingParameter name)

end Given

structure Form where
  options : List Parameter
  positionals : List Parameter := []
  version : Bool := false
  topic : Option String := none

structure Scan where
  given : Given
  separated : Bool
  rest : List String

namespace Form

def option? (f : Form) (name : String) : Except UsageError Parameter :=
  match f.options.find? (·.name == name) with
  | some p => .ok p
  | none => .error (.unexpectedArgument ("--" ++ name))

def flag? (f : Form) (name : String) : Option Interruption :=
  if name = "help" then some (.help f.topic)
  else if name = "version" ∧ f.version then some .version
  else none

def letter (f : Form) (c : Char) : Interruption :=
  let name := if c = 'h' then "help" else if c = 'V' then "version" else ""
  (f.flag? name).getD (.usage (.unexpectedArgument ("-" ++ c.toString)))

def putOption (f : Form) (given : Given) (name value : String) : Except Interruption Given :=
  (f.option? name >>= (given.put · value)).mapError .usage

/-- The value of an option must not look like an option. -/
def scan (f : Form) (positionals : List Parameter) (separated : Bool) (given : Given) :
    List String → Except Interruption Scan
  | [] => .ok ⟨given, separated, []⟩
  | text :: rest =>
    match if separated then .plain text else Argument.ofText text with
    | .separator => f.scan positionals true given rest
    | .short c _ => .error (f.letter c)
    | .plain value =>
      match positionals with
      | [] => .ok ⟨given, separated, text :: rest⟩
      | p :: positionals => do
        f.scan positionals separated (← (given.put p value).mapError .usage) rest
    | .long name value =>
      match f.flag? name, value with
      | some _, some _ => .error (.usage (.unwantedValue name))
      | some request, none => .error request
      | none, some value => do f.scan positionals false (← f.putOption given name value) rest
      | none, none =>
        match rest with
        | [] => .error (.usage (.missingValue name))
        | next :: rest =>
          match Argument.ofText next with
          | .plain value => do f.scan positionals false (← f.putOption given name value) rest
          | _ => .error (.usage (.missingValue name))

def read (f : Form) (arguments : List String) : Except Interruption Scan :=
  f.scan f.positionals false [] arguments

end Form

end SemanticWiki.CommandLine
