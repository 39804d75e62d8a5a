import SemanticWiki.Text.Numeral
import SemanticWiki.Toml.Quoted

/-! Writing strings and arrays. A string is written with the plainest quotes that hold it: double
quotes if nothing has to be escaped, else single quotes, else three of either, and with escapes only
if there is no other way. -/

namespace SemanticWiki.Toml

open Text

def longestRun (c : Char) (text : List Char) : Nat := go 0 text
where
  /-- `run` characters stand in front. -/
  go (run : Nat) : List Char → Nat
    | [] => run
    | d :: rest => if d = c then go (run + 1) rest else max run (go 0 rest)

def needsEscape (c : Char) : Bool := c != '\n' && !isTextChar c

def escape? (multiline : Bool) (c : Char) : Option String :=
  match c with
  | '\x08' => some "\\b"
  | '\t' => some "\\t"
  | '\n' => if multiline then none else some "\\n"
  | '\x0c' => some "\\f"
  | '\r' => some "\\r"
  | '\\' => some "\\\\"
  | c =>
    if needsEscape c then some ("\\u" ++ String.ofList ((hexText 4 c.toNat).toList.map Char.toUpper))
    else none

/-- The text between double quotes. Up to `quoteLimit` quotes in a row stand for themselves. -/
def escapeText (multiline : Bool) (quoteLimit : Nat) (quotes : Nat) : List Char → String
  | [] => ""
  | c :: rest =>
    if c = '"' then
      if quotes < quoteLimit then "\"" ++ escapeText multiline quoteLimit (quotes + 1) rest
      else "\\\"" ++ escapeText multiline quoteLimit 0 rest
    else (escape? multiline c).getD c.toString ++ escapeText multiline quoteLimit 0 rest

def printString (text : String) : String :=
  let cs := text.toList
  let controls := cs.any needsEscape
  let backslash := cs.contains '\\'
  let lines := cs.contains '\n'
  let double := longestRun '"' cs
  let single := longestRun '\'' cs
  let lineStart := if lines then "\n" else ""
  if !controls && !backslash && double == 0 && !lines then "\"" ++ escapeText false 0 0 cs ++ "\""
  else if !controls && single == 0 && !lines then "'" ++ text ++ "'"
  else if !controls && !backslash && double ≤ 2 then
    "\"\"\"" ++ lineStart ++ escapeText true 2 0 cs ++ "\"\"\""
  else if !controls && single ≤ 2 then "'''" ++ lineStart ++ text ++ "'''"
  else if lines then "\"\"\"\n" ++ escapeText true 2 0 cs ++ "\"\"\""
  else "\"" ++ escapeText false 0 0 cs ++ "\""

def printStrings : List String → String
  | [] => "[]"
  | [text] => "[" ++ printString text ++ "]"
  | texts => "[\n" ++ String.join (texts.map fun t => "    " ++ printString t ++ ",\n") ++ "]"

def printBool (on : Bool) : String := if on then "true" else "false"

end SemanticWiki.Toml
