import SemanticWiki.Basic
import SemanticWiki.Statement

/-! A sentence is a statement, asserted or asked, with the language it was written in. It holds no
words, so it stays valid when the words of its elements change. -/

namespace SemanticWiki

structure Sentence where
  statement : Statement
  question : Bool
  language : String
deriving DecidableEq

namespace Sentence

def assertion (statement : Statement) (language : String) : Sentence := ⟨statement, false, language⟩

def mentions (s : Sentence) (id : ElementId) : Bool := s.statement.mentions id

end Sentence

structure SentenceId extends Serial
deriving DecidableEq

namespace SentenceId

def first : SentenceId := ⟨Serial.first⟩

def ofNat? (n : Nat) : Option SentenceId := (Serial.ofNat? n).map SentenceId.mk

def succ (id : SentenceId) : SentenceId := ⟨id.toSerial.succ⟩

def display (id : SentenceId) : String := "s:" ++ toString id.val

end SentenceId

end SemanticWiki
