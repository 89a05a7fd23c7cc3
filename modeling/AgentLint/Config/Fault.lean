import AgentLint.FileTree.Basic
import AgentLint.Json.Reader
import AgentLint.Severity

/-!
# What can be wrong with a configuration

The causes for refusing a configuration, with their wording.  `source` names the configuration, and
`place` a part of it.
-/

namespace AgentLint

/-- Why a configuration is refused. -/
inductive ConfigFault where
  /-- It is not a map. -/
  | notMapping (source : String)
  /-- The ignore patterns are not a list. -/
  | ignoreNotList (source : String)
  /-- The limit on warnings is not an integer. -/
  | limitNotInteger (source : String)
  /-- The rules are not a map. -/
  | rulesNotMapping (place : String)
  /-- A rule's map lacks a severity. -/
  | noSeverity (place rule : String)
  /-- A rule's severity is unknown. -/
  | badSeverity (place rule : String) (given : Value)
  /-- A rule's options are not a map. -/
  | optionsNotMapping (place rule : String)
  /-- The overrides are not a list. -/
  | overridesNotList (place : String)
  /-- An override is not a map. -/
  | blockNotMapping (place : String)
  /-- An override names no files. -/
  | noFiles (place : String)
  /-- The file cannot be read. -/
  | unreadable (path : String) (why : FileFault)
  /-- The file is not JSON. -/
  | notJson (path : String) (why : Json.Malformed)
  /-- The file is not YAML. -/
  | notYaml (path : String)
  /-- A file extends itself, by way of the others. -/
  | cycle (chain : List String)
  /-- What a file extends is neither a text nor a list. -/
  | badExtends (path : String)
  /-- One of the files it extends is not given by a text. -/
  | badEntry (path : String) (entry : Value)
  /-- One of the files it extends is not there. -/
  | entryMissing (path entry : String)
  /-- A name, pattern or entry that cannot be shown. -/
  | unshowable

/-- The wording for an unknown severity; of one that cannot be shown, only that is said. -/
def unknownSeverityText (given : Value) : String :=
  match given.display? with
  | some shown => "invalid severity '" ++ shown ++ "', must be one of " ++ Severity.choices
  | none => Decimal.unwritableText

/-- The wording of a fault. -/
def ConfigFault.message : ConfigFault → String
  | notMapping s => s ++ ": configuration must be a mapping"
  | ignoreNotList s => s ++ ": 'ignorePatterns' must be a list"
  | limitNotInteger s => s ++ ": 'maxWarnings' must be an integer"
  | rulesNotMapping p => p ++ ": 'rules' must be a mapping"
  | noSeverity p r => p ++ ": rule '" ++ r ++ "' must define 'severity'"
  | badSeverity p r v => p ++ ": rule '" ++ r ++ "': " ++ unknownSeverityText v
  | optionsNotMapping p r => p ++ ": rule '" ++ r ++ "': options must be a mapping"
  | overridesNotList p => p ++ ": 'overrides' must be a list"
  | blockNotMapping p => p ++ ": must be a mapping"
  | noFiles p => p ++ ": 'files' must be a non-empty list of glob patterns"
  | unreadable p e => "Cannot read config file " ++ p ++ ": " ++ e.message
  | notJson p m => "Invalid config file " ++ p ++ ": " ++ m.message
  | notYaml p => "Invalid config file " ++ p ++ ": <yaml error>"
  | cycle chain => "Circular 'extends' chain: " ++ " -> ".intercalate chain
  | badExtends p => p ++ ": 'extends' must be a non-empty string or list of strings"
  | badEntry p v => p ++ ": invalid 'extends' entry " ++ v.literal
  | entryMissing p e => p ++ ": extended config not found: " ++ e
  | unshowable => Decimal.unwritableText

end AgentLint
