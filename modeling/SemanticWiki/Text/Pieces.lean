/-! Cutting a text at separator characters. -/

namespace SemanticWiki.Text

def pieces (separator : Char → Bool) : List Char → List (List Char)
  | [] => []
  | c :: rest =>
    if separator c then pieces separator rest
    else match rest with
      | [] => [[c]]
      | d :: _ =>
        if separator d then [c] :: pieces separator rest
        else match pieces separator rest with
          | [] => [[c]]
          | piece :: more => (c :: piece) :: more

def dropWhileEnd (p : Char → Bool) (text : List Char) : List Char :=
  (text.reverse.dropWhile p).reverse

/-! Blank characters: the twenty-five of the `White_Space` property. Text is cut into words at
blanks, and a sentence or a storage form may be surrounded by them. -/

def isBlank (c : Char) : Bool :=
  ('\t' ≤ c && c ≤ '\r') || c == ' ' || c == '\u0085' || c == '\u00a0' || c == '\u1680' ||
    ('\u2000' ≤ c && c ≤ '\u200a') || c == '\u2028' || c == '\u2029' || c == '\u202f' ||
    c == '\u205f' || c == '\u3000'

def words (text : List Char) : List (List Char) := pieces isBlank text

def trimStart (text : List Char) : List Char := text.dropWhile isBlank

def trim (text : List Char) : List Char := dropWhileEnd isBlank (trimStart text)

end SemanticWiki.Text
