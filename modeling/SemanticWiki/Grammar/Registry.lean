import SemanticWiki.Grammar.Concrete
import SemanticWiki.Grammar.Language.English
import SemanticWiki.Grammar.Language.German
import SemanticWiki.Grammar.Language.Spanish
import SemanticWiki.Text.Printable

/-! The languages of a wiki, in the order in which their codes were first registered. -/

namespace SemanticWiki

def Language.builtin : List Language := [english, german, spanish]

structure Registry where
  languages : List ConcreteGrammar

namespace Registry

def empty : Registry := ⟨[]⟩

def put (g : ConcreteGrammar) : List ConcreteGrammar → List ConcreteGrammar
  | [] => [g]
  | h :: rest => if h.code = g.code then g :: rest else h :: put g rest

def add (registry : Registry) (g : ConcreteGrammar) : Registry := ⟨put g registry.languages⟩

def register (registry : Registry) (g : Language) : Registry := registry.add g

def builtin : Registry := ⟨Language.builtin.map Language.toGrammar⟩

def get (registry : Registry) (code : String) : Except GrammarError ConcreteGrammar :=
  match registry.languages.find? (·.code == code) with
  | some g => .ok g
  | none => .error (.unsupportedLanguage code)

def codes (registry : Registry) : List String := registry.languages.map (·.code)

def size (registry : Registry) : Nat := registry.languages.length

def display (registry : Registry) : String :=
  "Grammar \x7b languages: " ++ Text.quotedList registry.codes ++ " \x7d"

end Registry

end SemanticWiki
