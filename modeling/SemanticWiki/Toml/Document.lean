import SemanticWiki.Toml.Number
import SemanticWiki.Toml.Quoted
import SemanticWiki.Toml.Table

/-! Documents of the configuration language: pairs of keys and values, one on a line, under table
headers. A text is a document or it is not; where it goes wrong does not matter here. -/

namespace SemanticWiki.Toml

open Text Text.Reader

/-- Arrays and braces may be nested up to this depth, and dotted keys have at most as many parts. -/
def maxDepth : Nat := 79

def isSpace (c : Char) : Bool := c == ' ' || c == '\t'

def spaces : Reader Unit := skip (·.dropWhile isSpace)

/-- Skips blanks, line ends and comments. A comment must not hold control characters; one that does
ends in front of the first. -/
def dropGaps (inComment : Bool) : List Char → List Char
  | [] => []
  | '\r' :: '\n' :: rest => dropGaps false rest
  | c :: rest =>
    if c = '\n' then dropGaps false rest
    else if inComment then if isTextChar c then dropGaps true rest else c :: rest
    else if isSpace c then dropGaps false rest
    else if c = '#' then dropGaps true rest
    else c :: rest

def gaps : Reader Unit := skip (dropGaps false)

def lineEnd : Reader Unit := do
  spaces
  if (← peek?) = some '#' then
    let _ ← takeWhile isTextChar
  fun text =>
    match text with
    | [] => some ((), [])
    | '\n' :: rest => some ((), rest)
    | '\r' :: '\n' :: rest => some ((), rest)
    | _ => none

def isBareKeyChar (c : Char) : Bool := c.isAlphanum || c == '_' || c == '-'

def keyPart : Reader String := do
  match ← peek? with
  | some '"' | some '\'' => line?
  | _ => return String.ofList (← takeWhile1 isBareKeyChar)

def keyParts : Nat → Reader (List String)
  | 0 => failure
  | limit + 1 => do
    spaces
    let part ← keyPart
    spaces
    if (← peek?) = some '.' then
      char '.'
      return part :: (← keyParts limit)
    else return [part]

def key : Reader Key := do
  let parts ← keyParts maxDepth
  match parts.getLast? with
  | some last => return ⟨parts.dropLast, last⟩
  | none => failure

/-- A scalar without quotes. A date may be joined to a time of day by one space. -/
def unquoted : Reader Value := do
  let text ← takeWhile1 isScalarChar
  let time := fun rest =>
    match rest with
    | ' ' :: d :: _ => isDate text && d.isDigit
    | _ => false
  if time (← get) then
    char ' '
    let time ← takeWhile1 isScalarChar
    if isTimeWithOffset time then return .datetime (String.ofList (text ++ ' ' :: time))
    else failure
  else match scalar? text with
    | some v => return v
    | none => failure

def items (item : Reader Value) : Nat → Reader (List Value)
  | 0 => failure
  | fuel + 1 => do
    gaps
    if (← peek?) = some ']' then
      char ']'
      return []
    let v ← item
    gaps
    match ← any with
    | ',' => return v :: (← items item fuel)
    | ']' => return [v]
    | _ => failure

def pair (value : Reader Value) : Reader (Key × Value) := do
  let key ← key
  char '='
  spaces
  return (key, ← value)

def fields (value : Reader Value) : Nat → Reader (List (Key × Value))
  | 0 => failure
  | fuel + 1 => do
    let field ← pair value
    spaces
    match ← any with
    | ',' => return field :: (← fields value fuel)
    | '}' => return [field]
    | _ => failure

def braced (value : Reader Value) : Reader Value := do
  char '{'
  spaces
  if (← peek?) = some '}' then
    char '}'
    return .table .inline []
  let fields ← fields value (← get).length
  match insertPairs [] fields with
  | some entries => return .table .inline entries
  | none => failure

def value (depth : Nat) : Reader Value := do
  match ← peek? with
  | some '"' | some '\'' => return .string (← string?)
  | some '[' =>
    match depth with
    | 0 => failure
    | depth + 1 => do
      char '['
      return .array (← items (value depth) (← get).length)
  | some '{' =>
    match depth with
    | 0 => failure
    | depth + 1 => braced (value depth)
  | _ => unquoted

inductive Line where
  | pair (key : Key) (v : Value)
  | header (key : Key)
  | itemHeader (key : Key)

def line : Reader Line := do
  let content ← match ← peek? with
    | some '[' => do
      char '['
      if (← peek?) = some '[' then
        char '['
        let key ← key
        literal [']', ']']
        pure (Line.itemHeader key)
      else
        let key ← key
        char ']'
        pure (Line.header key)
    | _ => do
      let (key, v) ← pair (value maxDepth)
      pure (Line.pair key v)
  lineEnd
  gaps
  return content

def sections : List Line → List (Key × Value) × List Section
  | [] => ([], [])
  | .pair key v :: rest =>
    let (pairs, more) := sections rest
    ((key, v) :: pairs, more)
  | .header key :: rest =>
    let (pairs, more) := sections rest
    ([], ⟨key, false, pairs⟩ :: more)
  | .itemHeader key :: rest =>
    let (pairs, more) := sections rest
    ([], ⟨key, true, pairs⟩ :: more)

def parse? (text : String) : Option Entries := do
  let text := match text.toList with
    | '\ufeff' :: rest => rest
    | text => text
  let text := dropGaps false text
  let lines ← whole (untilEnd (text.length + 1) line) text
  let (pairs, sections) := sections lines
  assemble pairs sections

end SemanticWiki.Toml
