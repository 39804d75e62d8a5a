import SemanticWiki.Sentence
import SemanticWiki.Text.Pieces
import SemanticWiki.Text.Numeral

/-! The storage form of sentences, as in `en (every 3 5)` and `de ?(instance 4 3)`: the language, a
question mark for a question, and the form of the statement with its elements. Reading allows blanks
around the parts and inside the parentheses, but none after the question mark. -/

namespace SemanticWiki.Sentence

def store (s : Sentence) : String :=
  s.language ++ " " ++ (if s.question then "?" else "") ++ "(" ++ s.statement.head ++ " " ++
    " ".intercalate (s.statement.elements.map (toString ·.val)) ++ ")"

def isCodeChar (c : Char) : Bool := c.isAlphanum || c == '-'

def readElementId? (text : List Char) : Option ElementId :=
  let digits := match text with
    | '+' :: rest => rest
    | _ => text
  (Text.decimal? digits).bind ElementId.ofNat?

def readElementIds : List (List Char) → Except StorageFault (List ElementId)
  | [] => .ok []
  | part :: rest =>
    match readElementId? part with
    | none => .error (.invalidElementId (String.ofList part))
    | some id => (readElementIds rest).map (id :: ·)

def readStatement (body : List Char) : Except StorageFault Statement :=
  match Text.words body with
  | [] => .error .emptyExpression
  | head :: parts => do
    let ids ← readElementIds parts
    match Statement.ofParts? (String.ofList head) ids with
    | some statement => return statement
    | none => throw (.unknownHead (String.ofList head) ids.length)

def parenthesized? : List Char → Option (List Char)
  | '(' :: rest => if rest.getLast? = some ')' then some rest.dropLast else none
  | _ => none

def readStored (text : List Char) : Except StorageFault Sentence :=
  let text := Text.trim text
  let language := text.takeWhile (!Text.isBlank ·)
  match text.dropWhile (!Text.isBlank ·) with
  | [] => .error .missingLanguage
  | _ :: rest =>
    if language.isEmpty || !language.all isCodeChar then .error .invalidLanguage
    else
      let rest := Text.trimStart rest
      let (question, rest) := match rest with
        | '?' :: rest => (true, rest)
        | _ => (false, rest)
      match parenthesized? rest with
      | none => .error .notParenthesized
      | some body => do
        let statement ← readStatement body
        return ⟨statement, question, String.ofList language⟩

/-- Reads a storage form. Only its shape is checked; whether its elements exist is for the ontology
to say. -/
def restore (input : String) : Except GrammarError Sentence :=
  (readStored input.toList).mapError (.malformedStorage input)

end SemanticWiki.Sentence
