/-! Readers of text. A reader takes what it needs from the front of the text or fails, and a failed
alternative leaves the text to the next one. -/

namespace SemanticWiki.Text

abbrev Reader := StateT (List Char) Option

namespace Reader

def peek? : Reader (Option Char) := fun text => some (text.head?, text)

def any : Reader Char := fun text =>
  match text with
  | [] => none
  | c :: rest => some (c, rest)

def char (c : Char) : Reader Unit := fun text =>
  match text with
  | [] => none
  | d :: rest => if d = c then some ((), rest) else none

def literal (expected : List Char) : Reader Unit := fun text =>
  if expected.isPrefixOf text then some ((), text.drop expected.length) else none

def takeWhile (p : Char → Bool) : Reader (List Char) := fun text =>
  some (text.takeWhile p, text.dropWhile p)

def takeWhile1 (p : Char → Bool) : Reader (List Char) := fun text =>
  match text.takeWhile p with
  | [] => none
  | taken => some (taken, text.dropWhile p)

def skip (f : List Char → List Char) : Reader Unit := fun text => some ((), f text)

def untilEnd (fuel : Nat) (p : Reader α) : Reader (List α) :=
  match fuel with
  | 0 => failure
  | fuel + 1 => do
    match ← peek? with
    | none => return []
    | some _ =>
      let a ← p
      return a :: (← untilEnd fuel p)

def whole (p : Reader α) (text : List Char) : Option α := do
  let (a, rest) ← p.run text
  if rest.isEmpty then some a else none

end Reader

def scalar? (n : Nat) : Option Char :=
  if h : n.isValidChar then some (Char.ofNatAux n h) else none

end SemanticWiki.Text
