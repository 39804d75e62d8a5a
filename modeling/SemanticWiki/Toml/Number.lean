import SemanticWiki.Text.Numeral
import SemanticWiki.Toml.Value

/-! Numbers, truth values, dates and times: values written as one run of letters, digits and signs.
Each is recognized by its form, and a run that has none of the forms is no value. -/

namespace SemanticWiki.Toml

open Text

def grouped (isDigit : Char → Bool) : List Char → Bool
  | [] => false
  | [c] => isDigit c
  | c :: '_' :: rest => isDigit c && grouped isDigit rest
  | c :: rest => isDigit c && grouped isDigit rest

def ungroup (text : List Char) : List Char := text.filter (· != '_')

def isPlainInteger (text : List Char) : Bool :=
  grouped Char.isDigit text && (text.length == 1 || text.head? != some '0')

def splitSign : List Char → Bool × List Char
  | '-' :: rest => (true, rest)
  | '+' :: rest => (false, rest)
  | text => (false, text)

def int64? (n : Int) : Option Int :=
  if Int64.minValue.toInt ≤ n ∧ n ≤ Int64.maxValue.toInt then some n else none

def numberIn (base : Nat) (digits : List Char) : Int :=
  digits.foldl (fun n c => base * n + (hexDigit? c).getD 0) 0

def basedInteger? (base : Nat) (digits : List Char) : Option Int :=
  if grouped (fun c => (hexDigit? c).any (· < base)) digits then
    int64? (numberIn base (ungroup digits))
  else none

def integer? (text : List Char) : Option Int :=
  match text with
  | '0' :: 'x' :: digits => basedInteger? 16 digits
  | '0' :: 'o' :: digits => basedInteger? 8 digits
  | '0' :: 'b' :: digits => basedInteger? 2 digits
  | _ =>
    let (negative, digits) := splitSign text
    if isPlainInteger digits then
      let n : Int := decimalNumber (ungroup digits)
      int64? (if negative then -n else n)
    else none

/-- Whether a decimal number `mantissa · 10 ^ exponent` is too large for a floating-point number of
64 bits, that is, would be rounded to a power of two that has no place in it. -/
def overflows (mantissa : Nat) (exponent : Int) : Bool :=
  mantissa != 0 &&
    if exponent > 400 then true
    else if exponent < -(400 + (Nat.toDigits 10 mantissa).length) then false
    else mantissa * Nat.pow 10 exponent.toNat ≥
      (Nat.pow 2 1024 - Nat.pow 2 970) * Nat.pow 10 (-exponent).toNat

def isFloat (text : List Char) : Bool :=
  let (negative, unsigned) := splitSign text
  if unsigned == ['i', 'n', 'f'] || unsigned == ['n', 'a', 'n'] then true
  else
    let isExponentMark := fun c => c == 'e' || c == 'E'
    let whole := unsigned.takeWhile fun c => c != '.' && !isExponentMark c
    let rest := unsigned.drop whole.length
    let fraction := rest.takeWhile (!isExponentMark ·)
    let exponent := rest.drop fraction.length
    let (down, power) := splitSign (exponent.drop 1)
    isPlainInteger whole && !rest.isEmpty &&
      (fraction.isEmpty || grouped Char.isDigit (fraction.drop 1)) &&
      (exponent.isEmpty || grouped Char.isDigit power) &&
      (negative ||
        let decimals := ungroup (fraction.drop 1)
        let power : Int := decimalNumber (ungroup power)
        !overflows (decimalNumber (ungroup whole ++ decimals))
          ((if down then -power else power) - decimals.length))

def twoDigits? (low high : Nat) (a b : Char) : Option Nat :=
  let n := 10 * digitValue a + digitValue b
  if a.isDigit && b.isDigit && low ≤ n && n ≤ high then some n else none

def isLeapYear (year : Nat) : Bool := year % 4 == 0 && (year % 100 != 0 || year % 400 == 0)

def daysIn (year month : Nat) : Nat :=
  match month with
  | 2 => if isLeapYear year then 29 else 28
  | 4 | 6 | 9 | 11 => 30
  | _ => 31

def afterDate? : List Char → Option (List Char)
  | y₁ :: y₂ :: y₃ :: y₄ :: '-' :: m₁ :: m₂ :: '-' :: d₁ :: d₂ :: rest => do
    if !([y₁, y₂, y₃, y₄].all Char.isDigit) then none
    let month ← twoDigits? 1 12 m₁ m₂
    let _ ← twoDigits? 1 (daysIn (decimalNumber [y₁, y₂, y₃, y₄]) month) d₁ d₂
    some rest
  | _ => none

def afterTime? : List Char → Option (List Char)
  | h₁ :: h₂ :: ':' :: m₁ :: m₂ :: ':' :: s₁ :: s₂ :: rest => do
    let _ ← twoDigits? 0 23 h₁ h₂
    let _ ← twoDigits? 0 59 m₁ m₂
    let _ ← twoDigits? 0 60 s₁ s₂
    match rest with
    | '.' :: d :: more => if d.isDigit then some (more.dropWhile Char.isDigit) else none
    | _ => some rest
  | _ => none

def isOffset : List Char → Bool
  | [] | ['Z'] | ['z'] => true
  | [sign, h₁, h₂, ':', m₁, m₂] =>
    (sign == '+' || sign == '-') && (twoDigits? 0 23 h₁ h₂).isSome &&
      (twoDigits? 0 59 m₁ m₂).isSome
  | _ => false

def isDate (text : List Char) : Bool := afterDate? text == some []

def isTime (text : List Char) : Bool := afterTime? text == some []

def isTimeWithOffset (text : List Char) : Bool := (afterTime? text).any isOffset

def isDateTime (text : List Char) : Bool :=
  match afterDate? text with
  | some ('T' :: time) | some ('t' :: time) => isTimeWithOffset time
  | _ => false

def isScalarChar (c : Char) : Bool :=
  c.isAlphanum || c == '+' || c == '-' || c == '_' || c == '.' || c == ':'

def scalar? (text : List Char) : Option Value :=
  if text == ['t', 'r', 'u', 'e'] then some (.boolean true)
  else if text == ['f', 'a', 'l', 's', 'e'] then some (.boolean false)
  else if isDate text || isTime text || isDateTime text then some (.datetime (String.ofList text))
  else if isFloat text then some (.float (String.ofList text))
  else (integer? text).map .integer

end SemanticWiki.Toml
