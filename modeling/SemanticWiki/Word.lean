import SemanticWiki.Text.Pieces
import SemanticWiki.Text.Composition
import SemanticWiki.Text.LetterCase

/-! Words of the lexicon. A word is kept in one normal form: canonically composed, with every run of
blanks and underscores as one underscore and none at the ends. `located in`, `located_in` and
` located   in ` are therefore the same word, and the normal form without regard to case is what
makes two words equal. The keywords of the controlled languages are no words, nor is a compound
that starts with one, because a sentence would read it as the keyword. -/

namespace SemanticWiki.Word

open Text

def isSeparator (c : Char) : Bool := isBlank c || c == '_'

def joinRuns : List Char → List Char
  | [] => []
  | c :: rest =>
    if isSeparator c then
      match rest with
      | [] => ['_']
      | d :: _ => if isSeparator d then joinRuns rest else '_' :: joinRuns rest
    else c :: joinRuns rest

def normalizeComposed (text : List Char) : List Char :=
  dropWhileEnd (· == '_') ((joinRuns text).dropWhile (· == '_'))

def normalize (raw : String) : String :=
  String.ofList (normalizeComposed (compose raw.toList))

def pretty (word : String) : String := word.map fun c => if c = '_' then ' ' else c

def isWordChar (c : Char) : Bool := c.isAlphanum || c == '_' || c == '-' || c == ' '

def isValidOrEmpty (word : String) : Bool :=
  match word.toList with
  | [] => true
  | c :: rest => c.isAlpha && rest.all isWordChar

/-- The keywords of the controlled languages, among them every spelling the built-in ones use. -/
def functionWords : List String :=
  ["a", "all", "alle", "an", "and", "are", "as", "at", "be", "by", "can",
   "das", "der", "did", "die", "do", "does", "each", "eight", "ein", "eine", "einen", "el",
   "es", "every", "everybody", "everyone", "everything", "exactly", "false", "five", "for",
   "four", "has", "have", "he", "her", "herself", "him", "himself", "his", "how", "if",
   "is", "ist", "it", "its", "itself", "jede", "jeder", "jedes", "kein", "keine", "la",
   "las", "least", "less", "los", "may", "more", "most", "must", "necessary", "nicht",
   "nine", "ningun", "ninguna", "ningún", "no", "nobody", "noone", "nor", "not", "nothing",
   "of", "one", "only", "or", "por", "possible", "seven", "she", "should", "sind", "six",
   "some", "somebody", "someone", "something", "son", "ten", "than", "that", "the",
   "their", "them", "themselves", "then", "there", "they", "three", "toda", "todas",
   "todo", "todos", "true", "two", "un", "una", "von", "was", "what", "when", "where",
   "which", "who", "whom", "whose"]

def isFunctionWord (word : String) : Bool :=
  functionWords.contains (String.ofList (asciiLower word.toList))

def isReserved (word : String) : Bool :=
  isFunctionWord word || isFunctionWord (String.ofList (word.toList.takeWhile (· != '_')))

/-- What identifies a normalized word: two words that differ only in case are the same. -/
def key (word : String) : String := String.ofList (lower word.toList)

end SemanticWiki.Word
