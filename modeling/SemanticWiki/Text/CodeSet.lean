import SemanticWiki.Text.Numeral
import SemanticWiki.Text.Pieces

/-! Sets of characters given by ranges of code points. The properties of the character database
are written as text, one hexadecimal range after the other (`"41-5A AA C0-D6"`), which is how the
database itself lists them. -/

namespace SemanticWiki.Text

structure CodeRange where
  first : Nat
  last : Nat

abbrev CodeSet := List CodeRange

/-- A single number stands for the range that holds it alone. -/
def CodeRange.ofText? (text : List Char) : Option CodeRange := do
  let first ← hexNumber? (text.takeWhile (· != '-'))
  match text.dropWhile (· != '-') with
  | [] => some ⟨first, first⟩
  | _ :: rest => return ⟨first, ← hexNumber? rest⟩

def CodeSet.ofText (text : String) : CodeSet :=
  (pieces (·.isWhitespace) text.toList).filterMap CodeRange.ofText?

def CodeSet.contains (set : CodeSet) (c : Char) : Bool :=
  set.any fun range => range.first ≤ c.toNat && c.toNat ≤ range.last

end SemanticWiki.Text
