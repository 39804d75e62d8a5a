/-! Numerals. A decimal numeral is one or more digits, leading zeros allowed. Hexadecimal ones occur in
the code-point tables, in the escapes of the two configuration languages and in percent-encoded
identifiers, so one reader serves all of them. -/

namespace SemanticWiki.Text

def digitValue (c : Char) : Nat := c.toNat - '0'.toNat

def decimalNumber (digits : List Char) : Nat := digits.foldl (fun n c => 10 * n + digitValue c) 0

def decimal? (text : List Char) : Option Nat :=
  if text ≠ [] ∧ text.all Char.isDigit then some (decimalNumber text) else none

def hexDigit? (c : Char) : Option Nat :=
  if '0' ≤ c ∧ c ≤ '9' then some (c.toNat - '0'.toNat)
  else if 'a' ≤ c ∧ c ≤ 'f' then some (c.toNat - 'a'.toNat + 10)
  else if 'A' ≤ c ∧ c ≤ 'F' then some (c.toNat - 'A'.toNat + 10)
  else none

def isHexDigit (c : Char) : Bool := (hexDigit? c).isSome

def hexNumber? (digits : List Char) : Option Nat :=
  digits.foldlM (fun n c => (hexDigit? c).map (16 * n + ·)) 0

def hexText (width n : Nat) : String :=
  let digits := Nat.toDigits 16 n
  String.ofList (List.replicate (width - digits.length) '0' ++ digits)

end SemanticWiki.Text
