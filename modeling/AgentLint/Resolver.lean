import AgentLint.Config.Basic
import AgentLint.Diagnostic
import AgentLint.Glob
import AgentLint.Rule.Registry

/-!
# Settings at a path

Which setting a rule has at a path.  The layers of a configuration are its base settings and then
every override with a pattern that matches the path; the last layer that mentions a rule decides
both its severity and its options.  Options that the model of the rule refuses are replaced by its
defaults, and a diagnostic says so.

A resolver keeps what it found out: the settings per path, and the outcome of reading the options of
a rule in a layer.  A query gives its answer and the resolver that has learned it; one that ends early, by
a pattern that is refused or a model that fails, leaves what was learned until then.
-/

namespace AgentLint

/-! ## 1. The type -/

/-- A layer of a configuration: the base, or an override by its number. -/
inductive Layer where
  /-- The settings for all files. -/
  | base
  /-- An override. -/
  | block (index : Nat)
  deriving DecidableEq, Repr

/-- The setting of a rule at a path. -/
structure Resolved where
  /-- Its severity. -/
  severity : Severity
  /-- Its options. -/
  options : Entries

/-- Answers questions about rules at paths. -/
structure Resolver where
  /-- The configuration, if there is one. -/
  config : Option Config
  /-- The rules. -/
  registry : Registry
  /-- Where options that are refused are reported, if anywhere. -/
  diagnostics : Option Diagnostics
  /-- The settings that were worked out, by path. -/
  known : Assoc String (Assoc String Resolved) := []
  /-- The options that were read, by layer and rule; `none` if they were refused. -/
  checked : Assoc (Layer × String) (Option Entries) := []

/-- A question to a resolver. -/
abbrev Query (α : Type) := ExceptT Fault (StateM Resolver) α

namespace Resolver

/-- The severity of a rule that nobody knows. -/
def unknownSeverity : Severity := .error

/-- The name under which the resolver reports. -/
def source : String := "ConfigResolver"

/-- The kind of its reports. -/
def invalidOptions : String := "CONFIG_INVALID_OPTIONS"

/-! ## 2. Layers -/

/-- The overrides, numbered from `index` on, that concern a path. -/
def blocksAt (path : String) (index : Nat) :
    List Override → Except Regex.Refusal (List (Layer × RuleSettings))
  | [] => .ok []
  | o :: os => do
    let hit ← Glob.globAny path o.files
    let rest ← blocksAt path (index + 1) os
    pure (if hit then (.block index, o.rules) :: rest else rest)

/-- The layers that concern a path, the deciding one last. -/
def layersAt (config : Option Config) (path : String) :
    Except Regex.Refusal (List (Layer × RuleSettings)) :=
  match config with
  | none => .ok []
  | some c => (blocksAt path 0 c.overrides).map fun bs => (.base, c.rules) :: bs

/-- For each rule that is mentioned, the last layer to do so and its setting there; in the order of
first mention. -/
def winners (layers : List (Layer × RuleSettings)) : Assoc String (Layer × RuleSetting) :=
  layers.foldl (fun acc l => l.2.foldl (fun acc e => Assoc.put e.1 (l.1, e.2) acc) acc) []

/-! ## 3. Options -/

/-- Reads the options of a rule.  Rules without a model, or that do not exist, take anything. -/
def readOptions (registry : Registry) (rule : String) (os : Entries) :
    Except Fault CheckedOptions :=
  match (registry.info? rule).bind RuleInfo.options with
  | none => .ok (.ok os)
  | some model => model.check os

/-- The wording for options that are refused. -/
def refusedText (rule : String) (why : OptionRefusal) : String :=
  "Invalid options for rule '" ++ rule ++ "': " ++ why.phrases ++ ". Using default options."

/-- Notes the outcome of reading the options of a rule in a layer; `none` if they are refused. -/
def noteChecked (r : Resolver) (layer : Layer) (rule : String) (read : Option Entries) : Resolver :=
  { r with checked := Assoc.put (layer, rule) read r.checked }

/-- Reports options that are refused. -/
def reportRefused (r : Resolver) (rule : String) (why : OptionRefusal) : Resolver :=
  { r with diagnostics := r.diagnostics.map fun ds => ds.warn (refusedText rule why) source invalidOptions }

/-- The options of a rule in a layer, read once; `none` if they are refused. -/
def optionsIn (layer : Layer) (rule : String) (os : Entries) : Query (Option Entries) := do
  let r ← get
  match Assoc.get? (layer, rule) r.checked with
  | some known => pure known
  | none =>
    match ← MonadExcept.ofExcept (readOptions r.registry rule os) with
    | .ok read =>
      set (r.noteChecked layer rule (some read))
      pure (some read)
    | .error why =>
      set ((r.reportRefused rule why).noteChecked layer rule none)
      pure none

/-- Options that are there, or those of a rule if none are given. -/
def orDefault (rule : String) (read : Option Entries) : Query Entries := do
  MonadExcept.ofExcept ((← get).registry.optionsOrDefault rule read)

/-- The setting of a rule that a layer decides. -/
def settle (layer : Layer) (rule : String) (s : RuleSetting) : Query Resolved := do
  let read ← match s.options with
    | none => pure none
    | some os => optionsIn layer rule os
  return ⟨s.severity, ← orDefault rule read⟩

/-- The settings of all winners. -/
def settleAll : Assoc String (Layer × RuleSetting) → Query (Assoc String Resolved)
  | [] => pure []
  | (rule, layer, s) :: rest => do
    let resolved ← settle layer rule s
    return (rule, resolved) :: (← settleAll rest)

/-! ## 4. Queries -/

/-- The settings of the rules that the configuration mentions for a path. -/
def resolve (path : String) : Query (Assoc String Resolved) := do
  let key := Path.normal path
  let r ← get
  match Assoc.get? key r.known with
  | some found => pure found
  | none =>
    let layers ← MonadExcept.ofExcept ((layersAt r.config key).mapError .pattern)
    let found ← settleAll (winners layers)
    modify fun r => { r with known := Assoc.put key found r.known }
    pure found

/-- The severity of a rule that no layer mentions. -/
def defaultSeverity (registry : Registry) (rule : String) : Severity :=
  match registry.info? rule with
  | some i => i.severity
  | none => unknownSeverity

/-- The severity of a rule at a path. -/
def severity (rule path : String) : Query Severity := do
  let found ← resolve path
  match Assoc.get? rule found with
  | some s => pure s.severity
  | none => return defaultSeverity (← get).registry rule

/-- Whether a rule runs at a path. -/
def enabled (rule path : String) : Query Bool := do return (← severity rule path) ≠ .off

/-- The options of a rule at a path. -/
def options (rule path : String) : Query Entries := do
  orDefault rule ((Assoc.get? rule (← resolve path)).map Resolved.options)

/-! ## 5. Memory -/

/-- Forgets everything that was worked out; diagnostics stay. -/
def forget (r : Resolver) : Resolver := { r with known := [], checked := [] }

/-- The paths that were asked about, in order. -/
def knownPaths (r : Resolver) : List String := (Assoc.keys r.known).mergeSort (· ≤ ·)

end Resolver

end AgentLint
