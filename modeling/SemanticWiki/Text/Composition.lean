import SemanticWiki.Text.Composition.Table

/-! Canonical composition. Canonically equivalent texts look alike, so words are brought to one
form before they are compared: every character is decomposed, the marks after a base are put into
the order of their combining classes, and marks are joined to their base again where a composed
character exists. -/

namespace SemanticWiki.Text

namespace Hangul

def syllableBase : Nat := 0xAC00
def leadBase : Nat := 0x1100
def vowelBase : Nat := 0x1161
/-- One below the first trailing consonant: offset zero stands for none. -/
def trailBase : Nat := 0x11A7
def leadCount : Nat := 19
def vowelCount : Nat := 21
def trailCount : Nat := 28

def decompose? (c : Char) : Option (List Char) :=
  let index := c.toNat - syllableBase
  if syllableBase ≤ c.toNat ∧ index < leadCount * vowelCount * trailCount then
    let lead := Char.ofNat (leadBase + index / (vowelCount * trailCount))
    let vowel := Char.ofNat (vowelBase + index % (vowelCount * trailCount) / trailCount)
    if index % trailCount = 0 then some [lead, vowel]
    else some [lead, vowel, Char.ofNat (trailBase + index % trailCount)]
  else none

def compose? (a b : Char) : Option Char :=
  let lead := a.toNat - leadBase
  let vowel := b.toNat - vowelBase
  let index := a.toNat - syllableBase
  let trail := b.toNat - trailBase
  if leadBase ≤ a.toNat ∧ lead < leadCount ∧ vowelBase ≤ b.toNat ∧ vowel < vowelCount then
    some (Char.ofNat (syllableBase + (lead * vowelCount + vowel) * trailCount))
  else if syllableBase ≤ a.toNat ∧ index < leadCount * vowelCount * trailCount ∧
      index % trailCount = 0 ∧ trailBase < b.toNat ∧ trail < trailCount then
    some (Char.ofNat (a.toNat + trail))
  else none

end Hangul

def combiningClass (c : Char) : Nat :=
  if c.toNat < 0x300 then 0
  else match combiningClasses.find? (·.2.contains c) with
    | some (k, _) => k
    | none => 0

/-- Decomposition through at most `depth` composite characters. The tables are arguments, so that a
proof can open the recursion without reading them. -/
def decomposeWithin (table replaced : List Mapping) : Nat → Char → List Char
  | 0, c => [c]
  | depth + 1, c =>
    match Hangul.decompose? c with
    | some parts => parts
    | none =>
      match table.find? (·.char == c) with
      | some m => m.parts.flatMap (decomposeWithin table replaced depth)
      | none =>
        match replaced.find? (·.char == c) with
        | some m => m.parts
        | none => [c]

/-- Composite characters are built from at most three marks, one composite inside the other. -/
def decomposeChar (c : Char) : List Char :=
  if c.toNat < 0xC0 then [c] else decomposeWithin composites replacements 4 c

/-- Moves `c` behind the marks of lower class that directly follow it. -/
def insertMark (c : Char) : List Char → List Char
  | [] => [c]
  | d :: rest =>
    if combiningClass d ≠ 0 ∧ combiningClass d < combiningClass c then d :: insertMark c rest
    else c :: d :: rest

def orderMarks (text : List Char) : List Char :=
  text.foldr (fun c rest => if combiningClass c = 0 then c :: rest else insertMark c rest) []

def composePair? (a b : Char) : Option Char :=
  match Hangul.compose? a b with
  | some c => some c
  | none => (composites.find? (·.parts == [a, b])).map (·.char)

/-- Joins marks to the base character `base`. `kept` holds the marks that stay behind it, the last
one first; a mark is blocked by a kept one of its own class or of a higher one. -/
def composeOnto (base : Char) (kept : List Char) : List Char → List Char
  | [] => base :: kept.reverse
  | c :: rest =>
    let blocked := match kept with
      | [] => false
      | last :: _ => combiningClass c ≤ combiningClass last
    match if blocked then none else composePair? base c with
    | some joined => composeOnto joined kept rest
    | none =>
      if combiningClass c = 0 then base :: kept.reverse ++ composeOnto c [] rest
      else composeOnto base (c :: kept) rest

/-- Marks in front of the first base character have nothing to join. -/
def composeOrdered : List Char → List Char
  | [] => []
  | c :: rest => if combiningClass c = 0 then composeOnto c [] rest else c :: composeOrdered rest

/-- The canonically composed form. A text without characters from `U+0300` on is in that form. -/
def compose (text : List Char) : List Char :=
  if text.all (·.toNat < 0x300) then text
  else composeOrdered (orderMarks (text.flatMap decomposeChar))

end SemanticWiki.Text
