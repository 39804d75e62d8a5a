import SemanticWiki.Engine

/-! A summary of a wiki. -/

namespace SemanticWiki

structure EngineInfo where
  name : String
  languages : List String
  elementCount : Nat
  sentenceCount : Nat
  revision : Nat
  reasoner : String
  synced : Option Nat
deriving DecidableEq

def Engine.info (e : Engine σ) (w : World σ) : EngineInfo where
  name := w.ontology.name
  languages := e.languages
  elementCount := w.ontology.elements.length
  sentenceCount := w.ontology.sentences.length
  revision := w.ontology.revision
  reasoner := e.reasoner.name
  synced := w.synced

def EngineInfo.display (i : EngineInfo) : String :=
  let sync := match i.synced with
    | some revision => s!" (synced at {revision})"
    | none => " (not synced)"
  String.join [
    "wikilex engine info\n",
    "  ontology:   ", i.name, "\n",
    "  languages:  ", ", ".intercalate i.languages, "\n",
    "  elements:   ", toString i.elementCount, "\n",
    "  sentences:  ", toString i.sentenceCount, "\n",
    "  revision:   ", toString i.revision, "\n",
    "  reasoner:   ", i.reasoner, sync, "\n"]

end SemanticWiki
