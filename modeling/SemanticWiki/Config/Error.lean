import SemanticWiki.Basic
import SemanticWiki.Text.Printable

/-! What is wrong with a configuration, or with the file it is kept in. -/

namespace SemanticWiki

inductive ConfigFault where
  | emptyDefaultLanguage
  | zeroStepBudget
  | zeroCommitRetries
  | invalidBaseIri (iri : String)
  | hiddenDefaultLanguage (language : String) (visible : List String)
deriving DecidableEq

def ConfigFault.message : ConfigFault → String
  | emptyDefaultLanguage => "default_language must not be empty"
  | zeroStepBudget => "reasoner.step_budget must be greater than 0"
  | zeroCommitRetries => "max_commit_retries must be at least 1"
  | invalidBaseIri iri => s!"base_iri \"{iri}\" is not a valid IRI"
  | hiddenDefaultLanguage language visible =>
    s!"default_language \"{language}\" is not among the visible languages " ++
      Text.quotedList visible

inductive ConfigError where
  | invalid (fault : ConfigFault)
  | unreadable (path : String)
  | malformed (path : String)
  | unwritable (path : String)
deriving DecidableEq

def ConfigError.diagnostic : ConfigError → Diagnostic
  | invalid fault =>
    { code := "wikilex::engine::invalid_config"
      message := "invalid configuration: " ++ fault.message
      help := "Check the EngineConfig fields. " ++ fault.message }
  | unreadable path =>
    { code := "wikilex::engine::config_read"
      message := s!"failed to read configuration: {path}"
      help := "Ensure the config file exists and is readable." }
  | malformed path =>
    { code := "wikilex::engine::config_parse"
      message := s!"failed to parse configuration: {path}"
      help := "Check the TOML syntax in the config file." }
  | unwritable path =>
    { code := "wikilex::engine::config_write"
      message := s!"failed to write configuration: {path}"
      help := "Ensure the directory exists and you have write permissions." }

end SemanticWiki
