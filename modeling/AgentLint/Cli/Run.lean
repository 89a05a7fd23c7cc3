import AgentLint.Cli.Command
import AgentLint.Cli.Table
import AgentLint.Config.Load
import AgentLint.Config.Validate
import AgentLint.Family.Collect
import AgentLint.Family.Lint
import AgentLint.Rule.Builtin

/-!
# Running commands

What each command prints and how it ends.  A call ends with 0 if all is well, with 1 if there are
errors or too many warnings, and with 2 if the call, the configuration or a rule is at fault.  A
fault that no command provides for ends the call with 1 and is handed on.
-/

namespace AgentLint.Cli

/-! ## 1. Ends -/

/-- How a call ends. -/
structure Exit where
  /-- The exit code. -/
  code : Nat
  /-- What was printed. -/
  stdout : String := ""
  /-- What was printed about trouble. -/
  stderr : String := ""
  /-- The fault that ended the call, if no command provides for it. -/
  fault : Option Fault := none

/-- Lines as a text. -/
def printed (lines : List String) : String := String.join (lines.map (· ++ "\n"))

/-- A text about trouble.  Nothing is refused there: halves of characters are written as escapes. -/
def escaped (s : String) : String :=
  String.ofList (s.toList.flatMap fun c =>
    if Text.isSurrogate c then Text.numericEscape (Text.codeOf c) else [c])

/-- Lines as a text about trouble. -/
def noted (lines : List String) : String := escaped (printed lines)

/-- What a call finds around it, files apart. -/
structure Machine where
  /-- The room for calls inside calls. -/
  stack : Config.Stack := .ample
  /-- Whether halves of characters that stand for bytes are printed as these. -/
  escapes : Bool := false

namespace Machine

/-- Whether a character can be printed. -/
def takes (m : Machine) (c : Char) : Bool :=
  !Text.isSurrogate c || m.escapes && Text.isEscapedByte c

/-- Prints lines one by one, and stops at one that cannot be printed. -/
def print (m : Machine) : List String → String × Option Fault
  | [] => ("", none)
  | line :: lines =>
    match Utf8.gap? m.takes line with
    | some g => ("", some (.encoding g))
    | none =>
      let (text, fault) := m.print lines
      (line ++ "\n" ++ text, fault)

/-- How a call ends that prints lines. -/
def exit (m : Machine) (code : Nat) (lines : List String) : Exit :=
  match m.print lines with
  | (stdout, none) => { code, stdout }
  | (stdout, some f) => { code := 1, stdout, fault := some f }

end Machine

/-- The version of the program. -/
def version : String := "0.4.0"

/-! ## 2. Configurations -/

/-- The configuration of a call and its file: the one given, else the nearest one, else none. -/
def configuration (h : Host) (given : Option Path) (stack : Config.Stack := .ample) :
    Except Fault (Config × Option Path) := do
  let path ← match given with
    | some p => pure (some p)
    | none => (Config.find h h.cwdPath).mapError .file
  match path with
  | none => pure ({}, none)
  | some p => pure (← Config.load h p stack, some p)

/-- Ends a call by a fault, after some lines about trouble: a configuration that is refused and a
rule that fails are provided for. -/
def failed (notes : List String) (f : Fault) : Exit :=
  match f with
  | .config _ | .crash .. => { code := 2, stderr := noted (notes ++ ["Error: " ++ f.message]) }
  | f => { code := 1, stderr := noted notes, fault := some f }

/-! ## 3. Checking -/

/-- How many warnings are tolerated; any number if `none`. -/
def tolerated (r : CheckRequest) (c : Config) : Option Int :=
  if r.strict then some 0 else r.maxWarnings.or c.maxWarnings

/-- Whether there are more warnings than tolerated. -/
def tooMany (limit : Option Int) (warnings : Nat) : Bool :=
  match limit with
  | none => false
  | some n => n < warnings

/-- What a check prints. -/
def checkText (quiet : Bool) (f : Format) (os : Printout.Outcomes) : Except Fault (List String) :=
  match f with
  | .json => ((Printout.json os).mapError .unwritable).map fun s => [s]
  | .text =>
    if quiet && os.all fun o => o.2.valid then .ok []
    else ((Printout.text os).mapError .shape).map fun s => [s]

/-- How a check ends that was carried through. -/
def checkExit (quiet : Bool) (r : CheckRequest) (c : Config) (notes : List String)
    (os : Printout.Outcomes) (m : Machine := {}) : Exit :=
  match checkText quiet r.format os with
  | .error f => failed notes f
  | .ok lines =>
    match m.print lines with
    | (stdout, some f) => { code := 1, stdout, stderr := noted notes, fault := some f }
    | (stdout, none) =>
      let warnings := Printout.warningCount os
      let limit := tolerated r c
      if 0 < Printout.errorCount os then { code := 1, stdout, stderr := noted notes }
      else if tooMany limit warnings then
        let most := limit.getD 0
        if Decimal.isUnwritable most then
          { code := 1, stdout, stderr := noted notes, fault := some .unshowable }
        else
          let note := "Too many warnings (" ++ toString warnings ++ ", max " ++ toString most ++ ")"
          { code := 1, stdout, stderr := noted (notes ++ [note]) }
      else { code := 0, stdout, stderr := noted notes }

/-- Checks files by a configuration, after some lines about it. -/
def checkBy (identity : String) (quiet : Bool) (r : CheckRequest) (config : Config)
    (notes : List String) (m : Machine := {}) : StateM Host Exit := do
  let h ← get
  let paths := if r.paths.isEmpty then [h.cwdPath] else r.paths
  match Collect.files h h.cwdPath paths with
  | .error e => pure (failed notes (.file e))
  | .ok files =>
    let cache : Cache :=
      { location := r.cacheLocation, version := identity, enabled := !r.noCache }
    let (done, site) :=
      (ExceptT.run (Family.lintAllCached Family.builtin Builtin.registry (some config) files)).run
        ⟨cache, h⟩
    set site.host
    match done with
    | .error f => pure (failed notes f)
    | .ok os => pure (checkExit quiet r config notes os m)

/-- Checks files.  `identity` tells apart the builds of the program in the cache. -/
def check (identity : String) (quiet : Bool) (r : CheckRequest) (m : Machine := {}) :
    StateM Host Exit := do
  match configuration (← get) r.config m.stack with
  | .error f => pure (failed [] f)
  | .ok (config, _) =>
    match config.warnings Builtin.registry with
    | .error f => pure (failed [] f)
    | .ok ws => checkBy identity quiet r config (ws.map ("Warning: " ++ ·)) m

/-! ## 4. Rules -/

/-- A rule in the JSON list. -/
def ruleValue (i : RuleInfo) : Except Fault Value :=
  i.defaultOptions.map fun options => Entries.ofFields
    [("id", .text i.id), ("name", .text i.name), ("category", .text i.category.name),
     ("severity", .text i.severity.word), ("fixable", .bool i.fixable),
     ("deprecated", .bool i.deprecation.isSome), ("default_options", .map options)]

/-- A rule in the table. -/
def ruleRow (i : RuleInfo) : List String :=
  [if i.deprecation.isSome then i.id ++ " (deprecated)" else i.id, i.category.name, i.severity.word,
   i.description]

/-- Lists the rules; an empty category stands for all. -/
def listRules (category : Option String) (asJson : Bool) (m : Machine := {}) : Exit :=
  let chosen : Except Fault (List Rule) := match category.filter fun c => !c.isEmpty with
    | none => .ok Builtin.registry.rules
    | some c => Builtin.registry.ofCategoryNamed (.text c)
  match chosen with
  | .error f => { code := 2, stderr := noted ["Error: " ++ f.message] }
  | .ok rules =>
    let infos := rules.map Rule.info
    if asJson then
      match infos.mapM ruleValue with
      | .error f => failed [] f
      | .ok values =>
        match Json.writePretty (.list values) with
        | .ok s => m.exit 0 [s]
        | .error e => failed [] (.unwritable e)
    else
      m.exit 0 (Table.lines ("Rules (" ++ toString infos.length ++ ")")
        ["ID", "Category", "Severity", "Description"] (infos.map ruleRow))

/-- The lines about the deprecation of a rule. -/
def deprecationLines (d : Deprecation) : List String :=
  ["  Deprecated: " ++ d.reason] ++
    (if d.replacedBy.isEmpty then [] else ["  Use instead: " ++ ", ".intercalate d.replacedBy]) ++
    (match d.removedIn with
      | some v => if v.isEmpty then [] else ["  Removed in: " ++ v]
      | none => [])

/-- The lines about a rule. -/
def ruleLines (i : RuleInfo) : Except Fault (List String) := do
  let standard ← i.defaultOptions
  let options ← if standard.isEmpty then pure [] else
    ((Json.write (.map standard)).mapError .unwritable).map fun s => ["  Options: " ++ s]
  pure ([i.id ++ " - " ++ i.name, "  " ++ i.description, "  Category: " ++ i.category.name,
      "  Default severity: " ++ i.severity.word,
      "  Fixable: " ++ (if i.fixable then "yes" else "no"), "  Since: " ++ i.since] ++ options ++
    (match i.deprecation with
      | some d => deprecationLines d
      | none => []))

/-- Tells about a rule. -/
def explain (rule : String) (m : Machine := {}) : Exit :=
  match Builtin.registry.info? rule with
  | none => { code := 1, stderr := noted ["Error: unknown rule '" ++ rule ++ "'"] }
  | some i =>
    match ruleLines i with
    | .ok lines => m.exit 0 lines
    | .error f => failed [] f

/-! ## 5. Deprecated rules and the cache -/

/-- The rules that a configuration mentions, each once. -/
def mentioned (c : Config) : List String :=
  c.overrides.foldl (fun acc o =>
    (Assoc.keys o.rules).foldl (fun acc r => if r ∈ acc then acc else acc ++ [r]) acc)
    (Assoc.keys c.rules)

/-- The deprecated rules that a configuration mentions. -/
def deprecatedIn (c : Config) : List (String × Deprecation) :=
  (mentioned c).filterMap fun r => do
    let i ← Builtin.registry.info? r
    let d ← i.deprecation
    some (i.id, d)

/-- The lines about a deprecated rule in a configuration. -/
def usageLines (rule : String) (d : Deprecation) : List String :=
  ["  " ++ rule ++ ": " ++ d.reason] ++
    (if d.replacedBy.isEmpty then [] else ["    use: " ++ ", ".intercalate d.replacedBy]) ++
    (match d.removedIn with
      | some v => if v.isEmpty then [] else ["    removed in: " ++ v]
      | none => [])

/-- Lists the deprecated rules of a configuration. -/
def checkDeprecated (h : Host) (given : Option Path) (m : Machine := {}) : Exit :=
  match configuration h given m.stack with
  | .error f => failed [] f
  | .ok (_, none) => m.exit 0 ["No configuration file found."]
  | .ok (c, some path) =>
    match deprecatedIn c with
    | [] => m.exit 0 ["✓ No deprecated rules in your configuration"]
    | found =>
      m.exit 1 (("Found " ++ toString found.length ++ " deprecated rule(s) in " ++ path.text ++ ":") ::
        found.flatMap fun f => usageLines f.1 f.2)

/-- Removes a cache. -/
def cacheClear (location : Path) (m : Machine := {}) : StateM Host Exit := do
  let (done, site) := (ExceptT.run Cache.clear).run ⟨{ location, version := version }, ← get⟩
  set site.host
  match done with
  | .ok () => pure (m.exit 0 ["Cleared " ++ location.text])
  | .error f => pure (failed [] f)

/-! ## 6. Calls -/

/-- Ends a call whose words are refused. -/
def refused (r : Refused) : Exit :=
  match r.fault with
  | .notAPath e => { code := 1, fault := some (.file e) }
  | _ => { code := 2, stderr := escaped r.message }

/-- Carries a command out. -/
def runCommand (identity : String) (quiet : Bool) (c : Command) (m : Machine := {}) :
    StateM Host Exit :=
  match c with
  | .check r => check identity quiet r m
  | .listRules category asJson => pure (listRules category asJson m)
  | .explain rule => pure (explain rule m)
  | .checkDeprecated config => do return checkDeprecated (← get) config m
  | .cacheClear location => cacheClear location m

/-- Carries a call out. -/
def run (identity : String) (words : List String) (m : Machine := {}) : StateM Host Exit := do
  match read (← get) words with
  | .error r => pure (refused r)
  | .ok (.help lines) => pure (m.exit 0 lines)
  | .ok .version => pure (m.exit 0 ["lintloom, version " ++ version])
  | .ok (.run quiet c) => runCommand identity quiet c m

end AgentLint.Cli
