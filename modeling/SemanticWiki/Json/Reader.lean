import SemanticWiki.Text.Numeral
import SemanticWiki.Text.Reader

/-! Reading structured data. Each reader expects a value of one form, which may have blanks in front;
`anyValue` reads over a value whatever its form. -/

namespace SemanticWiki.Json

open Text Text.Reader

def gaps : Reader Unit := skip (·.dropWhile fun c => c == ' ' || c == '\t' || c == '\n' || c == '\r')

def mark (c : Char) : Reader Unit := do
  gaps
  char c

/-- What a string consists of: characters, and numbers of code units, two of which may have to be
put together to a character. -/
inductive Piece where
  | char (c : Char)
  | unit (n : Nat)

def escaped? : Char → Option Char
  | '"' => some '"'
  | '\\' => some '\\'
  | '/' => some '/'
  | 'b' => some '\x08'
  | 'f' => some '\x0c'
  | 'n' => some '\n'
  | 'r' => some '\r'
  | 't' => some '\t'
  | _ => none

def quotedBody : List Char → Option (List Piece × List Char)
  | [] => none
  | '"' :: rest => some ([], rest)
  | '\\' :: 'u' :: a :: b :: c :: d :: rest => do
    let n ← hexNumber? [a, b, c, d]
    (quotedBody rest).map fun (pieces, rest) => (.unit n :: pieces, rest)
  | '\\' :: c :: rest => do
    let x ← escaped? c
    (quotedBody rest).map fun (pieces, rest) => (.char x :: pieces, rest)
  | c :: rest =>
    if ' ' ≤ c && c != '\\' then
      (quotedBody rest).map fun (pieces, rest) => (.char c :: pieces, rest)
    else none

def surrogatePair? (high low : Nat) : Option Char :=
  if 0xd800 ≤ high ∧ high < 0xdc00 ∧ 0xdc00 ≤ low ∧ low < 0xe000 then
    scalar? (0x10000 + (high - 0xd800) * 0x400 + (low - 0xdc00))
  else none

/-- The text of a string. A surrogate without a partner belongs to no text. -/
def decode? : List Piece → Option (List Char)
  | [] => some []
  | .char c :: rest => (decode? rest).map (c :: ·)
  | .unit n :: rest =>
    match scalar? n, rest with
    | some c, rest => (decode? rest).map (c :: ·)
    | none, .unit m :: rest => do
      let c ← surrogatePair? n m
      (decode? rest).map (c :: ·)
    | none, _ => none

def quoted : Reader (List Piece) := do
  mark '"'
  quotedBody

def string : Reader String := do
  match decode? (← quoted) with
  | some text => return String.ofList text
  | none => failure

def boolean : Reader Bool := do
  gaps
  match ← peek? with
  | some 't' => literal ['t', 'r', 'u', 'e']; return true
  | _ => literal ['f', 'a', 'l', 's', 'e']; return false

def items (close : Char) (item : Reader α) : Nat → Reader (List α)
  | 0 => failure
  | fuel + 1 => do
    let a ← item
    gaps
    let c ← any
    if c = ',' then return a :: (← items close item fuel)
    else if c = close then return [a]
    else failure

def bracketed (opening close : Char) (item : Reader α) : Reader (List α) := do
  mark opening
  gaps
  if (← peek?) = some close then
    char close
    return []
  else items close item (← get).length

def array (item : Reader α) : Reader (List α) := bracketed '[' ']' item

def object (key : Reader κ) (field : κ → Reader α) : Reader (List α) :=
  bracketed '{' '}' do
    let k ← key
    mark ':'
    field k

def minus : Reader Unit := do
  if (← peek?) = some '-' then
    char '-'

def integer : Reader Unit := do
  if (← peek?) = some '0' then
    char '0'
  else
    let _ ← takeWhile1 Char.isDigit

def fraction : Reader Unit := do
  if (← peek?) = some '.' then
    char '.'
    let _ ← takeWhile1 Char.isDigit

def exponent : Reader Unit := do
  if let some e ← peek? then
    if e = 'e' ∨ e = 'E' then
      char e
      if let some sign ← peek? then
        if sign = '+' ∨ sign = '-' then
          char sign
      let _ ← takeWhile1 Char.isDigit

def number : Reader Unit := do
  gaps
  minus
  integer
  fraction
  exponent

def anyNested : Nat → Reader Unit
  | 0 => failure
  | depth + 1 => do
    gaps
    match ← peek? with
    | some '"' => let _ ← quoted
    | some '[' => let _ ← array (anyNested depth)
    | some '{' => let _ ← object quoted fun _ => anyNested depth
    | some 't' | some 'f' => let _ ← boolean
    | some 'n' => literal ['n', 'u', 'l', 'l']
    | _ => number

def anyValue : Reader Unit := do anyNested ((← get).length + 1)

def document? (value : Reader α) (text : String) : Option α :=
  whole (do let a ← value; gaps; return a) text.toList

end SemanticWiki.Json
