import SemanticWiki.Text.Pieces
import SemanticWiki.Text.LetterCase

/-! The morphology that the lexicon does not hold. Editors enter every inflected form; the English
article and the capital letters of sentence starts and German nouns are derived. -/

namespace SemanticWiki.Grammar

open Text

/-- Beginnings of nouns whose first letter misleads, with the article of the noun. -/
def articleExceptions : List (String × String) :=
  [("heir", "an"), ("honest", "an"), ("honor", "an"), ("hour", "an"),
   ("euro", "a"), ("one", "a"), ("uni", "a"), ("use", "a"), ("util", "a")]

def isVowel (c : Char) : Bool := c == 'a' || c == 'e' || c == 'i' || c == 'o' || c == 'u'

def article (noun : String) : String :=
  let letters := asciiLower (trim noun.toList)
  match articleExceptions.find? (·.1.toList.isPrefixOf letters) with
  | some (_, article) => article
  | none => if (letters.head?.map isVowel).getD false then "an" else "a"

def capitalize : List Char → List Char
  | [] => []
  | c :: rest => upperChar c ++ rest

def capitalizeWords (text : List Char) : List Char := go true text
where
  /-- `start` tells whether the next letter starts a word. -/
  go (start : Bool) : List Char → List Char
    | [] => []
    | c :: rest =>
      if c = ' ' then ' ' :: go true rest
      else (if start then upperChar c else [c]) ++ go false rest

end SemanticWiki.Grammar
