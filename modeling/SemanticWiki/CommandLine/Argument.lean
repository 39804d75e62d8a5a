/-! How an argument of a command line is written. Options start with two dashes and may be joined to
their value by an equals sign; single letters start with one dash. -/

namespace SemanticWiki.CommandLine

inductive Argument where
  /-- Two dashes alone: what follows is no option, however it is written. -/
  | separator
  | long (name : String) (value : Option String)
  | short (letter : Char) (more : List Char)
  | plain (text : String)
deriving DecidableEq

def Argument.ofText (text : String) : Argument :=
  match text.toList with
  | ['-', '-'] => .separator
  | '-' :: '-' :: rest =>
    let name := rest.takeWhile (· != '=')
    match rest.drop name.length with
    | [] => .long (String.ofList name) none
    | _ :: value => .long (String.ofList name) (some (String.ofList value))
  | '-' :: letter :: more => .short letter more
  | _ => .plain text

end SemanticWiki.CommandLine
