import SemanticWiki.Text.Numeral
import SemanticWiki.Text.Pieces

/-! Absolute internationalized resource identifiers: a scheme, then an authority with a host, a path,
a query and a fragment, most of which may be missing. The parts are separated by the first colon,
the first question mark and the first number sign. -/

namespace SemanticWiki

inductive IriError where
  | noScheme
  | invalidHostCharacter (c : Char)
  | invalidHostAddress
  | invalidPortCharacter (c : Char)
  | invalidCodePoint (c : Char)
  /-- A percent sign and up to two characters behind it. -/
  | invalidPercentEncoding (text : String)
deriving DecidableEq

def IriError.message : IriError → String
  | noScheme => "No scheme found in an absolute IRI"
  | invalidHostCharacter c => s!"Invalid character '{c}' in host"
  | invalidHostAddress => "Invalid host IP (invalid IPv6 address syntax)"
  | invalidPortCharacter c => s!"Invalid port character '{c}'"
  | invalidCodePoint c => s!"Invalid IRI code point '{c}'"
  | invalidPercentEncoding text => s!"Invalid IRI percent encoding '{text}'"

namespace Iri

open Text

def isForeign (c : Char) : Bool :=
  let n := c.toNat
  (0xA0 ≤ n && n ≤ 0xD7FF) || (0xF900 ≤ n && n ≤ 0xFDCF) || (0xFDF0 ≤ n && n ≤ 0xFFEF) ||
    (0x10000 ≤ n && n ≤ 0xDFFFD && n % 0x10000 ≤ 0xFFFD) || (0xE1000 ≤ n && n ≤ 0xEFFFD)

def isPrivate (c : Char) : Bool :=
  let n := c.toNat
  (0xE000 ≤ n && n ≤ 0xF8FF) || (0xF0000 ≤ n && n ≤ 0xFFFFD) || (0x100000 ≤ n && n ≤ 0x10FFFD)

def isBasicNameChar (c : Char) : Bool :=
  c.isAlphanum || "-._~!$&'()*+,;=".toList.contains c

def isNameChar (c : Char) : Bool := isBasicNameChar c || isForeign c

def isUserChar (c : Char) : Bool := isNameChar c || c == ':'

def isPathChar (c : Char) : Bool := isNameChar c || c == ':' || c == '@' || c == '/'

def isFragmentChar (c : Char) : Bool := isPathChar c || c == '?'

def isQueryChar (c : Char) : Bool := isFragmentChar c || isPrivate c

def checkPart (allowed : Char → Bool) : List Char → Except IriError Unit
  | [] => .ok ()
  | '%' :: rest =>
    match rest with
    | a :: b :: rest =>
      if isHexDigit a && isHexDigit b then checkPart allowed rest
      else .error (.invalidPercentEncoding (String.ofList ['%', a, b]))
    | short => .error (.invalidPercentEncoding (String.ofList ('%' :: short)))
  | c :: rest => if allowed c then checkPart allowed rest else .error (.invalidCodePoint c)

def isOctet (text : List Char) : Bool :=
  !text.isEmpty && text.length ≤ 3 && text.all Char.isDigit &&
    (text.length == 1 || text.head? != some '0') && decimalNumber text < 256

def splitAll (separator : Char) : List Char → List (List Char)
  | [] => [[]]
  | c :: rest =>
    if c = separator then [] :: splitAll separator rest
    else match splitAll separator rest with
      | [] => [[c]]
      | part :: more => (c :: part) :: more

def isDotted (text : List Char) : Bool :=
  let parts := splitAll '.' text
  parts.length == 4 && parts.all isOctet

def isGroup (text : List Char) : Bool :=
  !text.isEmpty && text.length ≤ 4 && text.all isHexDigit

/-- How many groups of sixteen bits the parts stand for. The last part may be a dotted address,
which stands for two. -/
def groups? (dottedLast : Bool) : List (List Char) → Option Nat
  | [] => some 0
  | [part] => if isGroup part then some 1 else if dottedLast && isDotted part then some 2 else none
  | part :: rest => if isGroup part then (groups? dottedLast rest).map (· + 1) else none

def splitAtGap : List Char → Option (List Char × List Char)
  | ':' :: ':' :: rest => some ([], rest)
  | [] => none
  | c :: rest => (splitAtGap rest).map fun (front, back) => (c :: front, back)

def groupsOf? (dottedLast : Bool) (text : List Char) : Option Nat :=
  if text.isEmpty then some 0 else groups? dottedLast (splitAll ':' text)

/-- An address of eight groups, where two colons may stand for one or more groups of zeros. -/
def isAddress (text : List Char) : Bool :=
  match splitAtGap text with
  | none => groups? true (splitAll ':' text) == some 8
  | some (front, back) =>
    match groupsOf? false front, groupsOf? true back with
    | some m, some n => m + n ≤ 7
    | _, _ => false

/-- A version and an address. As in every address, no character beyond the basic block may occur. -/
def checkFutureAddress (text : List Char) : Except IriError Unit := do
  let version := (text.drop 1).takeWhile (· != '.')
  match version.find? (!isHexDigit ·) with
  | some c => throw (.invalidHostCharacter c)
  | none =>
    let address := (text.drop (version.length + 2))
    if version.isEmpty || address.isEmpty then throw (.invalidHostCharacter ']')
    match address.find? (fun c => !(isBasicNameChar c || c == ':')) with
    | some c => throw (.invalidHostCharacter c)
    | none => return ()

def checkPort (text : List Char) : Except IriError Unit :=
  match text.find? (!·.isDigit) with
  | some c => .error (.invalidPortCharacter c)
  | none => .ok ()

def checkHost (text : List Char) : Except IriError Unit :=
  match text with
  | '[' :: inner => do
    let address := inner.takeWhile (· != ']')
    match inner.dropWhile (· != ']') with
    | [] => throw (.invalidHostCharacter '[')
    | _ :: rest =>
      if address.head? = some 'v' ∨ address.head? = some 'V' then checkFutureAddress address
      else if !isAddress address then throw .invalidHostAddress
      match rest with
      | [] => return ()
      | ':' :: port => checkPort port
      | c :: _ => throw (.invalidHostCharacter c)
  | _ => do
    checkPart isNameChar (text.takeWhile (· != ':'))
    match text.dropWhile (· != ':') with
    | [] => return ()
    | _ :: port => checkPort port

def checkAuthority (text : List Char) : Except IriError Unit :=
  let user := text.takeWhile fun c => c != '@' && c != '['
  match text.drop user.length with
  | [] => do
    checkPart isUserChar user
    checkHost text
  | '@' :: host => do
    checkPart isUserChar user
    checkHost host
  | _ => do
    checkPart isUserChar user
    checkHost text

def checkFragment (text : List Char) : Except IriError Unit := checkPart isFragmentChar text

def checkTail (text : List Char) : Except IriError Unit :=
  match text with
  | '?' :: rest => do
    checkPart isQueryChar (rest.takeWhile (· != '#'))
    checkFragment ((rest.dropWhile (· != '#')).drop 1)
  | '#' :: rest => checkFragment rest
  | _ => .ok ()

def endsPath (c : Char) : Bool := c == '?' || c == '#'

def checkPath (text : List Char) : Except IriError Unit := do
  checkPart isPathChar (text.takeWhile (!endsPath ·))
  checkTail (text.dropWhile (!endsPath ·))

def endsAuthority (c : Char) : Bool := c == '/' || endsPath c

def isSchemeChar (c : Char) : Bool := c.isAlphanum || c == '+' || c == '-' || c == '.'

def check (iri : String) : Except IriError Unit :=
  let text := iri.toList
  match text.dropWhile isSchemeChar with
  | ':' :: rest =>
    if (text.head?.map Char.isAlpha).getD false then
      match rest with
      | '/' :: '/' :: rest => do
        checkAuthority (rest.takeWhile (!endsAuthority ·))
        checkPath (rest.dropWhile (!endsAuthority ·))
      | _ => checkPath rest
    else .error .noScheme
  | _ => .error .noScheme

def isValid (iri : String) : Bool :=
  match check iri with
  | .ok _ => true
  | .error _ => false

end Iri

end SemanticWiki
