import SemanticWiki.Text.Pieces
import SemanticWiki.Text.LetterCase

/-! Tokens of a sentence text. The text is cut at blanks; marks at the two ends of a piece become
tokens of their own, and what is left between them is one token in lowercase. -/

namespace SemanticWiki.Grammar

open Text

def isLeadingMark (c : Char) : Bool := c == '¿' || c == '¡'

def isTrailingMark (c : Char) : Bool := c == '.' || c == '?' || c == '!' || c == ','

def tokensOfPiece (piece : List Char) : List (List Char) :=
  let lead := piece.takeWhile isLeadingMark
  let rest := piece.dropWhile isLeadingMark
  let core := dropWhileEnd isTrailingMark rest
  let trail := rest.drop core.length
  lead.map ([·]) ++ (if core.isEmpty then [] else [lower core]) ++ trail.map ([·])

def tokens (text : List Char) : List (List Char) := (words text).flatMap tokensOfPiece

def tokenize (text : String) : List String := (tokens text.toList).map String.ofList

end SemanticWiki.Grammar
