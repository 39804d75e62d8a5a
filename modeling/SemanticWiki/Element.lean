import SemanticWiki.Element.Kind
import SemanticWiki.Basic
import SemanticWiki.Word

/-! Ontology elements: a number, a kind and one value for each slot of the kind. Sentences refer to
elements by number alone, so an element keeps its meaning when its words change. -/

namespace SemanticWiki

structure ElementId extends Serial
deriving DecidableEq

namespace ElementId

def ofNat? (n : Nat) : Option ElementId := (Serial.ofNat? n).map ElementId.mk

def display (id : ElementId) : String := "el:" ++ toString id.val

end ElementId

inductive Value where
  | word (text : String)
  | flag (on : Bool)
deriving DecidableEq

namespace Value

def word? : Value → Option String
  | word text => some text
  | flag _ => none

def flag? : Value → Option Bool
  | word _ => none
  | flag on => some on

def unset : SlotForm → Value
  | .word => word ""
  | .flag => flag false

def pretty : Value → Value
  | word text => word (Word.pretty text)
  | flag on => flag on

def display : Value → String
  | word text => Word.pretty text
  | flag true => "true"
  | flag false => "false"

end Value

structure Element where
  id : ElementId
  kind : Kind
  values : List Value
deriving DecidableEq

namespace Element

def fresh (id : ElementId) (kind : Kind) : Element :=
  ⟨id, kind, kind.slots.map (Value.unset ·.form)⟩

def word (e : Element) (slot : Nat) : String := (e.values[slot]?.bind Value.word?).getD ""

def flag (e : Element) (slot : Nat) : Bool := (e.values[slot]?.bind Value.flag?).getD false

def words (e : Element) : List String := (e.values.filterMap Value.word?).filter (!·.isEmpty)

theorem words_eq_filter (e : Element) :
    e.words = (e.values.filterMap Value.word?).filter (· ≠ "") := by
  have hempty (word : String) : (!word.isEmpty) = decide (word ≠ "") := by
    rw [Bool.eq_iff_iff]
    simp
  simp only [words, hempty]

theorem mem_words {e : Element} {word : String} :
    word ∈ e.words ↔ .word word ∈ e.values ∧ word ≠ "" := by
  simp only [words, List.mem_filter, List.mem_filterMap, Bool.not_eq_true',
    String.isEmpty_eq_false_iff]
  refine and_congr_left fun _ => ⟨?_, fun h => ⟨_, h, rfl⟩⟩
  rintro ⟨value, hvalue, hword⟩
  cases value with
  | flag on => cases hword
  | word text =>
    obtain rfl := Option.some.inj hword
    exact hvalue

def headword (e : Element) : String := e.word 0

def isDefinite (e : Element) : Bool := e.kind == .individual && e.flag 1

end Element

end SemanticWiki
