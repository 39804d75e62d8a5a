import SemanticWiki.Config
import SemanticWiki.Toml.Document
import SemanticWiki.Toml.Printer

/-! Configurations as text. A setting that is missing has its default, one that is not known is
ignored, and one of the wrong type makes the whole text malformed. -/

namespace SemanticWiki.Config

open Toml

def string? : Toml.Value → Option String
  | .string text => some text
  | _ => none

def bool? : Toml.Value → Option Bool
  | .boolean on => some on
  | _ => none

/-- Settings that are counts cannot be negative. -/
def count? : Toml.Value → Option Nat
  | .integer n => if 0 ≤ n then some n.toNat else none
  | _ => none

def strings? : Toml.Value → Option (List String)
  | .array items => items.mapM string?
  | _ => none

def setting (entries : Entries) (key : String) (default : α) (read : Toml.Value → Option α) :
    Option α :=
  match entries.lookup key with
  | none => some default
  | some v => read v

/-- The reasoner's settings by name, or in their order. -/
def reasoner? : Toml.Value → Option ReasonerConfig
  | .table _ entries => do
    return {
      enabled := ← setting entries "enabled" true bool?
      stepBudget := ← setting entries "step_budget" Reason.defaultBudget count? }
  | .array [] => some {}
  | .array [enabled] => do return { enabled := ← bool? enabled }
  | .array (enabled :: budget :: _) => do
    return { enabled := ← bool? enabled, stepBudget := ← count? budget }
  | .datetime _ => some {}
  | _ => none

def ofEntries? (entries : Entries) : Option Config := do
  let defaults : Config := {}
  return {
    name := ← setting entries "name" defaults.name string?
    baseIri := ← setting entries "base_iri" defaults.baseIri string?
    hiddenLanguages :=
      sortCodes (← setting entries "hidden_languages" defaults.hiddenLanguages strings?)
    defaultLanguage := ← setting entries "default_language" defaults.defaultLanguage string?
    checkOnAdd := ← setting entries "check_on_add" defaults.checkOnAdd bool?
    maxCommitRetries := ← setting entries "max_commit_retries" defaults.maxCommitRetries count?
    reasoner := ← setting entries "reasoner" defaults.reasoner reasoner? }

def parse (path text : String) : Except ConfigError Config :=
  match Toml.parse? text >>= ofEntries? with
  | some config => .ok config
  | none => .error (.malformed path)

/-- Reads a configuration file, whose content is missing if it cannot be read. -/
def load (path : String) (content : Option String) : Except ConfigError Config :=
  match content with
  | some text => parse path text
  | none => .error (.unreadable path)

def print (c : Config) : String :=
  String.join [
    "name = ", printString c.name, "\n",
    "base_iri = ", printString c.baseIri, "\n",
    "hidden_languages = ", printStrings c.hiddenLanguages, "\n",
    "default_language = ", printString c.defaultLanguage, "\n",
    "check_on_add = ", printBool c.checkOnAdd, "\n",
    "max_commit_retries = ", toString c.maxCommitRetries, "\n\n",
    "[reasoner]\n",
    "enabled = ", printBool c.reasoner.enabled, "\n",
    "step_budget = ", toString c.reasoner.stepBudget, "\n"]

end SemanticWiki.Config
