import SemanticWiki.Grammar.Handler
import SemanticWiki.Reason.Backend

/-! The changing part of a wiki, and reasoners at work on it. While a reasoner is busy others may edit
the wiki, so a consultation takes the whole state and gives a new one back; `σ` is what the reasoner
remembers from one consultation to the next. -/

namespace SemanticWiki

structure World (σ : Type) where
  ontology : Ontology
  handlers : List Handler
  synced : Option Nat
  lastError : Option ReasonError
  memory : σ

namespace World

def markSynced (w : World σ) (revision : Nat) : World σ :=
  { w with
    synced := if w.synced.all (· < revision) then some revision else w.synced
    lastError := none }

def recordError (w : World σ) (error : ReasonError) : World σ := { w with lastError := some error }

end World

structure Reasoner (σ : Type) where
  name : String
  consult : Query → World σ → Except ReasonError Bool × World σ

def Reasoner.ofBackend (b : Reason.Backend) : Reasoner σ where
  name := b.name
  consult query w := (b.ask query, w)

end SemanticWiki
