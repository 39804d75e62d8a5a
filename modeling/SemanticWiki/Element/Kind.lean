/-! The four kinds of ontology elements. A kind fixes which slots an element has: word forms, and
for proper names the option to be used with an article. -/

namespace SemanticWiki

inductive Kind where
  /-- A class of things, named by a noun. -/
  | concept
  /-- A single thing, named by a proper name. -/
  | individual
  /-- A relation named by a transitive verb. -/
  | relation
  /-- A relation named by an adjective and a preposition. -/
  | transitiveAdjective
deriving DecidableEq

inductive SlotForm where
  | word
  | flag
deriving DecidableEq

structure Slot where
  label : String
  hint : String
  mandatory : Bool
  form : SlotForm
deriving DecidableEq

namespace Kind

def all : List Kind := [concept, individual, relation, transitiveAdjective]

def tag : Kind → String
  | concept => "noun"
  | individual => "propername"
  | relation => "verb"
  | transitiveAdjective => "tradj"

def ofTag? (tag : String) : Option Kind := all.find? (·.tag == tag)

def title : Kind → String
  | concept => "Noun"
  | individual => "Proper Name"
  | relation => "Verb"
  | transitiveAdjective => "Transitive Adjective"

def description : Kind → String
  | concept =>
    "Every noun represents a certain type of things. " ++
    "For example, the noun \"city\" stands for all things that are cities."
  | individual =>
    "Every proper name represents a certain individual. " ++
    "The country \"Switzerland\", the person \"Bob Dylan\" and the river " ++
    "\"Nile\" are examples. Some proper names are used with \"the\"."
  | relation =>
    "Every verb represents a certain relation between things. " ++
    "For example, the verb \"owns\" relates persons to their possessions."
  | transitiveAdjective =>
    "Every transitive adjective represents a certain relation between things. " ++
    "For example, the transitive adjective \"located in\" relates things to " ++
    "their location. Transitive adjectives consist of an adjective that " ++
    "is followed by a preposition."

def slots : Kind → List Slot
  | concept =>
    [⟨"singular", "examples: woman, city, process", true, .word⟩,
     ⟨"plural", "examples: women, cities, processes", true, .word⟩]
  | individual =>
    [⟨"proper name", "examples: Switzerland, Bob Dylan, Nile", true, .word⟩,
     ⟨"used with \"the\"", "example: the Nile", false, .flag⟩]
  | relation =>
    [⟨"third singular", "examples: owns, applies to, touches", true, .word⟩,
     ⟨"bare infinitive", "examples: own, apply to, touch", true, .word⟩,
     ⟨"past participle", "examples: owned, applied to, touched", false, .word⟩]
  | transitiveAdjective =>
    [⟨"transitive adjective", "examples: located in, matched with, fond of", true, .word⟩]

def isRelation : Kind → Bool
  | relation | transitiveAdjective => true
  | concept | individual => false

end Kind

end SemanticWiki
