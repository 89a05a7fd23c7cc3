import AgentLint.Assoc
import AgentLint.Config.Fault

/-!
# Configurations

A configuration says, for rules by their ids, which severity they have and which options; blocks of
overrides say so for files that match patterns.  `Config.parse` reads one from a value and
`Config.toValue` writes it, with the rules in the order of their ids.  `Config.merge` puts one over
another.
-/

namespace AgentLint

/-! ## 1. The type -/

/-- What a configuration says about a rule. -/
structure RuleSetting where
  /-- Its severity. -/
  severity : Severity
  /-- Its options, if any are given. -/
  options : Option Entries := none

/-- Settings of rules by id. -/
abbrev RuleSettings := Assoc String RuleSetting

/-- Settings for the files that match one of the patterns. -/
structure Override where
  /-- The patterns. -/
  files : List String
  /-- The settings. -/
  rules : RuleSettings

/-- A configuration. -/
structure Config where
  /-- The settings for all files. -/
  rules : RuleSettings := []
  /-- The settings for some files; later ones win. -/
  overrides : List Override := []
  /-- Files that match one of these are left out. -/
  ignorePatterns : List String := []
  /-- Whether directives that suppress nothing are reported. -/
  reportUnused : Bool := true
  /-- How many warnings are tolerated; any number if absent. -/
  maxWarnings : Option Int := none

namespace Config

/-! ## 2. Reading -/

/-- The setting of one rule: a severity, or a map with a severity and perhaps options. -/
def parseSetting (place rule : String) (v : Value) : Except ConfigFault RuleSetting :=
  let severity (s : Value) : Except ConfigFault Severity :=
    match Severity.parse? s with
    | some x => .ok x
    | none => .error (.badSeverity place rule s)
  match v with
  | .map es =>
    match Entries.get? "severity" es with
    | none => .error (.noSeverity place rule)
    | some s => do
      let sev ← severity s
      match Entries.get "options" es with
      | .null => pure ⟨sev, none⟩
      | .map os => pure ⟨sev, some os⟩
      | _ => throw (.optionsNotMapping place rule)
  | v => (severity v).map fun s => ⟨s, none⟩

/-- The settings of several rules, one after the other. -/
def parseEntries (place : String) : RuleSettings → Entries → Except ConfigFault RuleSettings
  | acc, [] => .ok acc
  | acc, (k, v) :: es =>
    match k.display? with
    | none => .error .unshowable
    | some rule =>
      match parseSetting place rule v with
      | .error e => .error e
      | .ok s => parseEntries place (Assoc.put rule s acc) es

/-- The settings of rules; null stands for none. -/
def parseRules (place : String) : Value → Except ConfigFault RuleSettings
  | .null => .ok []
  | .map es => parseEntries place [] es
  | _ => .error (.rulesNotMapping place)

/-- Values as patterns. -/
def patternsOf (vs : List Value) : Except ConfigFault (List String) :=
  match vs.mapM Value.display? with
  | some ps => .ok ps
  | none => .error .unshowable

/-- The patterns of an override: a text or a list that is not empty. -/
def parseFiles (place : String) : Value → Except ConfigFault (List String)
  | .text s => .ok [s]
  | .list (v :: vs) => patternsOf (v :: vs)
  | _ => .error (.noFiles place)

/-- One override. -/
def parseOverride (place : String) : Value → Except ConfigFault Override
  | .map es => do
    let files ← parseFiles place (Entries.get "files" es)
    let rules ← parseRules place (Entries.get "rules" es)
    pure ⟨files, rules⟩
  | _ => .error (.blockNotMapping place)

/-- The place of an override in messages. -/
def overridePlace (source : String) (index : Nat) : String :=
  source ++ " overrides[" ++ toString index ++ "]"

/-- Overrides, numbered from `index` on. -/
def parseBlocks (source : String) (index : Nat) : List Value → Except ConfigFault (List Override)
  | [] => .ok []
  | v :: vs => do
    let block ← parseOverride (overridePlace source index) v
    let rest ← parseBlocks source (index + 1) vs
    pure (block :: rest)

/-- The overrides; null stands for none. -/
def parseOverrides (source : String) : Value → Except ConfigFault (List Override)
  | .null => .ok []
  | .list vs => parseBlocks source 0 vs
  | _ => .error (.overridesNotList source)

/-- The patterns of files to leave out; an absent key stands for none, null does not. -/
def parseIgnore (source : String) : Option Value → Except ConfigFault (List Value)
  | none => .ok []
  | some (.list vs) => .ok vs
  | some _ => .error (.ignoreNotList source)

/-- The number of tolerated warnings. -/
def parseLimit (source : String) : Value → Except ConfigFault (Option Int)
  | .null => .ok none
  | .int n => .ok (some n)
  | _ => .error (.limitNotInteger source)

/-- Reads a configuration; what it extends is not looked at. -/
def parse (source : String) : Value → Except ConfigFault Config
  | .map es => do
    let ignored ← parseIgnore source (Entries.get? "ignorePatterns" es)
    let maxWarnings ← parseLimit source (Entries.get "maxWarnings" es)
    let rules ← parseRules source (Entries.get "rules" es)
    let overrides ← parseOverrides source (Entries.get "overrides" es)
    let ignorePatterns ← patternsOf ignored
    let reportUnused := match Entries.get? "reportUnusedDisableDirectives" es with
      | some v => v.truthy
      | none => true
    pure { rules, overrides, ignorePatterns, reportUnused, maxWarnings }
  | _ => .error (.notMapping source)

/-! ## 3. Writing -/

/-- A setting as a value: the bare severity if there are no options. -/
def settingValue (s : RuleSetting) : Value :=
  match s.options with
  | none => .text s.severity.word
  | some os => Entries.ofFields [("severity", .text s.severity.word), ("options", .map os)]

/-- Settings as a value, in the order of their ids. -/
def rulesValue (rs : RuleSettings) : Value :=
  Entries.ofFields ((rs.mergeSort fun a b => a.1 ≤ b.1).map fun e => (e.1, settingValue e.2))

/-- Texts as a value. -/
def textsValue (ts : List String) : Value := .list (ts.map .text)

/-- An override as a value. -/
def overrideValue (o : Override) : Value :=
  Entries.ofFields [("files", textsValue o.files), ("rules", rulesValue o.rules)]

/-- A configuration as a value. -/
def toValue (c : Config) : Value :=
  Entries.ofFields
    [("rules", rulesValue c.rules),
     ("overrides", .list (c.overrides.map overrideValue)),
     ("ignorePatterns", textsValue c.ignorePatterns),
     ("reportUnusedDisableDirectives", .bool c.reportUnused),
     ("maxWarnings", .ofInt? c.maxWarnings)]

/-! ## 4. Merging -/

/-- Adds patterns that are not there yet. -/
def addPatterns (old : List String) (more : List String) : List String :=
  more.foldl (fun acc p => if p ∈ acc then acc else acc ++ [p]) old

/-- The keys whose values are taken over only where they are written. -/
structure ScalarKeys where
  /-- Whether the report of unused directives is set. -/
  reportUnused : Bool := false
  /-- Whether the limit on warnings is set. -/
  maxWarnings : Bool := false
  deriving DecidableEq, Repr

/-- Keys set in either of two places. -/
def ScalarKeys.union (a b : ScalarKeys) : ScalarKeys :=
  ⟨a.reportUnused || b.reportUnused, a.maxWarnings || b.maxWarnings⟩

/-- The keys among some names. -/
def ScalarKeys.ofNames (names : List String) : ScalarKeys :=
  ⟨names.contains "reportUnusedDisableDirectives", names.contains "maxWarnings"⟩

/-- Puts `child` over `parent`.  `keys` says which of the single values the child sets. -/
def merge (parent child : Config) (keys : ScalarKeys) : Config where
  rules := Assoc.putAll parent.rules child.rules
  overrides := parent.overrides ++ child.overrides
  ignorePatterns := addPatterns parent.ignorePatterns child.ignorePatterns
  reportUnused := if keys.reportUnused then child.reportUnused else parent.reportUnused
  maxWarnings := if keys.maxWarnings then child.maxWarnings else parent.maxWarnings

end Config

end AgentLint
