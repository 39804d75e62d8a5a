import SemanticWiki.Text.Numeral
import SemanticWiki.Text.Reader

/-! Quoted strings. Double quotes allow escapes, single quotes take everything literally; tripled,
either may run over several lines. -/

namespace SemanticWiki.Toml

open Text

def isTextChar (c : Char) : Bool := c == '\t' || (' ' ≤ c && c != '\x7f')

def escaped? : Char → Option Char
  | 'b' => some '\x08'
  | 't' => some '\t'
  | 'n' => some '\n'
  | 'f' => some '\x0c'
  | 'r' => some '\r'
  | '"' => some '"'
  | '\\' => some '\\'
  | _ => none

def codePoint? (digits : List Char) : Option Char := hexNumber? digits >>= Text.scalar?

def basicBody : List Char → Option (List Char × List Char)
  | [] => none
  | '"' :: rest => some ([], rest)
  | '\\' :: 'u' :: a :: b :: c :: d :: rest => do
    let x ← codePoint? [a, b, c, d]
    (basicBody rest).map fun (text, rest) => (x :: text, rest)
  | '\\' :: 'U' :: a :: b :: c :: d :: e :: f :: g :: h :: rest => do
    let x ← codePoint? [a, b, c, d, e, f, g, h]
    (basicBody rest).map fun (text, rest) => (x :: text, rest)
  | '\\' :: c :: rest => do
    let x ← escaped? c
    (basicBody rest).map fun (text, rest) => (x :: text, rest)
  | c :: rest =>
    if isTextChar c && c != '\\' then (basicBody rest).map fun (text, rest) => (c :: text, rest)
    else none

def literalBody : List Char → Option (List Char × List Char)
  | [] => none
  | c :: rest =>
    if c = '\'' then some ([], rest)
    else if isTextChar c then (literalBody rest).map fun (text, rest) => (c :: text, rest)
    else none

/-- Splits a string of several lines from what follows it. The string ends with three quotes, and up
to two may stand in front of these as text. `quotes` counts the quotes just read, and `escaped`
tells whether a backslash stands in front. -/
def splitLines (quote : Char) (escapes : Bool) (quotes : Nat) (escaped : Bool) :
    List Char → Option (List Char × List Char)
  | [] => closed []
  | c :: rest =>
    if c = quote ∧ !escaped then splitLines quote escapes (quotes + 1) false rest
    else if 3 ≤ quotes then closed (c :: rest)
    else
      (splitLines quote escapes 0 (escapes && c == '\\' && !escaped) rest).map
        fun (body, rest) => (List.replicate quotes quote ++ c :: body, rest)
where
  closed (rest : List Char) : Option (List Char × List Char) :=
    if 3 ≤ quotes ∧ quotes ≤ 5 then some (List.replicate (quotes - 3) quote, rest) else none

def endsLine (text : List Char) : Bool :=
  match text.dropWhile fun c => c == ' ' || c == '\t' with
  | '\n' :: _ | '\r' :: '\n' :: _ => true
  | _ => false

/-- The text of a string of several lines. A backslash at the end of a line takes the blanks and
line ends behind it away; `skipping` tells that these are being read. -/
def decodeLines (skipping : Bool) : List Char → Option (List Char)
  | [] => some []
  | '\\' :: 'u' :: a :: b :: c :: d :: rest => do
    let x ← codePoint? [a, b, c, d]
    (decodeLines false rest).map (x :: ·)
  | '\\' :: 'U' :: a :: b :: c :: d :: e :: f :: g :: h :: rest => do
    let x ← codePoint? [a, b, c, d, e, f, g, h]
    (decodeLines false rest).map (x :: ·)
  | '\\' :: c :: rest =>
    match escaped? c with
    | some x => (decodeLines false rest).map (x :: ·)
    | none => if endsLine (c :: rest) then decodeLines true (c :: rest) else none
  | '\r' :: '\n' :: rest =>
    if skipping then decodeLines true rest else (decodeLines false rest).map ('\n' :: ·)
  | c :: rest =>
    if skipping && (c == ' ' || c == '\t' || c == '\n') then decodeLines true rest
    else if (isTextChar c || c == '\n') && c != '\\' then (decodeLines false rest).map (c :: ·)
    else none

def plainLines : List Char → Option (List Char)
  | [] => some []
  | '\r' :: '\n' :: rest => (plainLines rest).map ('\n' :: ·)
  | c :: rest =>
    if isTextChar c || c == '\n' then (plainLines rest).map (c :: ·) else none

/-- A line end directly behind the opening quotes is no text. -/
def dropFirstLineEnd : List Char → List Char
  | '\n' :: rest => rest
  | '\r' :: '\n' :: rest => rest
  | text => text

def line? : List Char → Option (String × List Char)
  | '"' :: rest => (basicBody rest).map fun (text, rest) => (String.ofList text, rest)
  | '\'' :: rest => (literalBody rest).map fun (text, rest) => (String.ofList text, rest)
  | _ => none

def string? : List Char → Option (String × List Char)
  | '"' :: '"' :: '"' :: rest => do
    let (body, rest) ← splitLines '"' true 0 false (dropFirstLineEnd rest)
    return (String.ofList (← decodeLines false body), rest)
  | '\'' :: '\'' :: '\'' :: rest => do
    let (body, rest) ← splitLines '\'' false 0 false (dropFirstLineEnd rest)
    return (String.ofList (← plainLines body), rest)
  | text => line? text

end SemanticWiki.Toml
