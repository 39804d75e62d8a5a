import SemanticWiki.Config.Error
import SemanticWiki.Iri
import SemanticWiki.Reason.Backend
import SemanticWiki.Text.Pieces

/-! The configuration of a wiki. Every setting has a default. -/

namespace SemanticWiki

structure ReasonerConfig where
  enabled : Bool := true
  stepBudget : Nat := Reason.defaultBudget
deriving DecidableEq

structure Config where
  name : String := "wiki"
  /-- Elements are exported under this identifier and their word. -/
  baseIri : String := "http://example.org/wiki"
  /-- Codes of languages that are not offered; ascending, each once. -/
  hiddenLanguages : List String := []
  defaultLanguage : String := "en"
  /-- Whether sentences that make the wiki inconsistent are refused. -/
  checkOnAdd : Bool := true
  /-- How often an addition is checked before it gives up because the wiki keeps changing. -/
  maxCommitRetries : Nat := 3
  reasoner : ReasonerConfig := {}
deriving DecidableEq

namespace Config

def sortCodes (codes : List String) : List String :=
  codes.eraseDups.mergeSort fun a b => !decide (b < a)

def validate (c : Config) : Except ConfigError Unit :=
  if (Text.trim c.defaultLanguage.toList).isEmpty then .error (.invalid .emptyDefaultLanguage)
  else if c.reasoner.stepBudget = 0 then .error (.invalid .zeroStepBudget)
  else if c.maxCommitRetries = 0 then .error (.invalid .zeroCommitRetries)
  else if !Iri.isValid c.baseIri then .error (.invalid (.invalidBaseIri c.baseIri))
  else .ok ()

def backend (c : Config) : Reason.Backend :=
  if c.reasoner.enabled then .saturation c.reasoner.stepBudget else .disabled

end Config

end SemanticWiki
