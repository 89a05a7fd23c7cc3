import AgentLint.Finding
import AgentLint.Resolver
import AgentLint.Suppression.Tracker

/-!
# Running rules

A runner applies rules to files and gathers their reports.  The rules of a file run one after the
other in the order of the registry, sharing the views of the file and the fields of its header.  A
report that a directive covers is dropped, and the directive counts as used; all others are staged.
Only `Runner.outcome` decides which of the staged issues are errors, which are warnings, and which
are neither.

The directives of a file are those of the text with which its path was first run.  A rule that fails
ends the run of its file; what was staged until then stays.
-/

namespace AgentLint

/-! ## 1. The type -/

/-- A report that waits to be classified. -/
structure Issue where
  /-- What is wrong. -/
  message : String
  /-- The file, if it concerns one. -/
  file : Option String := none
  /-- The line, if it has one. -/
  line : Option Int := none
  /-- The rule, if it comes from one. -/
  rule : Option String := none
  /-- How grave it is, if it comes from no rule; an error unless said otherwise. -/
  grade : Option Grade := none
  /-- What to do about it. -/
  fix : Option String := none
  /-- Why it matters. -/
  explanation : Option String := none
  /-- How to do it. -/
  howToFix : Option String := none
  /-- The mended text it comes with, if any. -/
  autoFix : Option AutoFix := none

/-- The issue that a report of a rule at a path makes. -/
def Issue.ofReport (rule path : String) (r : Report) : Issue where
  message := r.message
  file := some path
  line := r.line
  rule := some rule
  fix := r.fix
  explanation := r.explanation
  howToFix := r.howToFix
  autoFix := r.autoFix

/-- The finding that an issue becomes. -/
def Issue.finding (i : Issue) : Finding where
  message := i.message
  file := .ofText? i.file
  line := .ofInt? i.line
  rule := .ofText? i.rule
  fix := .ofText? i.fix
  explanation := .ofText? i.explanation
  howToFix := .ofText? i.howToFix
  autoFix := i.autoFix

/-- A run in progress. -/
structure Runner where
  /-- The rules. -/
  registry : Registry
  /-- The settings at paths. -/
  resolver : Resolver
  /-- Whether directives that suppress nothing are reported. -/
  reportUnused : Bool := true
  /-- The staged issues, in order. -/
  staged : List Issue := []
  /-- The directives of the files, in the order in which the files were first run. -/
  trackers : Assoc String Tracker := []
  /-- The deprecated rules that took part, in the order in which they first did. -/
  deprecated : Assoc String Deprecation := []

namespace Runner

/-- The files that were run, in order. -/
def files (r : Runner) : List String := Assoc.keys r.trackers

/-! ## 2. Staging -/

/-- Reads the directives of a file unless its path is known. -/
def enter (r : Runner) (path content : String) : Runner :=
  match Assoc.get? path r.trackers with
  | some _ => r
  | none => { r with trackers := Assoc.put path (Tracker.parse content) r.trackers }

/-- Stages an issue unless a directive of its file covers it. -/
def stageUnlessCovered (r : Runner) (rule path : String) (i : Issue) : Runner :=
  match Assoc.get? path r.trackers with
  | none => { r with staged := r.staged ++ [i] }
  | some t =>
    let (covered, t) := t.query rule i.line
    let r := { r with trackers := Assoc.put path t r.trackers }
    if covered then r else { r with staged := r.staged ++ [i] }

/-- Stages an issue from anywhere. -/
def stage (r : Runner) (i : Issue) : Runner :=
  match i.rule, i.file with
  | some rule, some path => r.stageUnlessCovered rule path i
  | _, _ => { r with staged := r.staged ++ [i] }

/-- Stages the reports of a rule at a path. -/
def stageReports (r : Runner) (rule path : String) (reports : List Report) : Runner :=
  reports.foldl (fun r rep => r.stageUnlessCovered rule path (.ofReport rule path rep)) r

/-- Notes a deprecated rule, once. -/
def noteDeprecated (r : Runner) (i : RuleInfo) : Runner :=
  match i.deprecation, Assoc.get? i.id r.deprecated with
  | some d, none => { r with deprecated := Assoc.put i.id d r.deprecated }
  | _, _ => r

/-! ## 3. Running -/

/-- Asks the resolver. -/
def ask {α : Type} (r : Runner) (q : Query α) : Runner × Except Fault α :=
  let (answer, resolver) := q.run r.resolver
  ({ r with resolver }, answer)

/-- Runs one rule on a file, with what the rules before it have left. -/
def runRule (r : Runner) (host : Host) (rule : Rule) (path content : String)
    (shared : Shared content) : Runner × Except Fault (Shared content) :=
  let id := rule.info.id
  match (r.enter path content).ask (Resolver.severity id path) with
  | (r, .error e) => (r, .error e)
  | (r, .ok .off) => (r, .ok shared)
  | (r, .ok _) =>
    match (r.noteDeprecated rule.info).ask (Resolver.options id path) with
    | (r, .error e) => (r, .error e)
    | (r, .ok options) =>
      let (end_, trace) := rule.runOn ⟨id, path, content, options, host⟩ shared
      let r := r.stageReports id path trace.reports
      match end_ with
      | .ok () => (r, .ok trace.toShared)
      | .error e => (r, .error (.crash id path e))

/-- Runs several rules on a file, until one fails. -/
def runRules (r : Runner) (host : Host) (path content : String) :
    List Rule → Shared content → Runner × Except Fault Unit
  | [], _ => (r, .ok ())
  | rule :: rest, shared =>
    match r.runRule host rule path content shared with
    | (r, .ok shared) => r.runRules host path content rest shared
    | (r, .error e) => (r, .error e)

/-- Runs the rules of a category on a file, in the order of the registry. -/
def runCategory (r : Runner) (host : Host) (c : Category) (path content : String) :
    Runner × Except Fault Unit :=
  (r.enter path content).runRules host path content (r.registry.ofCategory c) .fresh

/-- The same for a category given by its name. -/
def runCategoryNamed (r : Runner) (host : Host) (c : Value) (path content : String) :
    Runner × Except Fault Unit :=
  match Category.parse? c with
  | none => (r.enter path content, .error (.category c))
  | some c => r.runCategory host c path content

/-! ## 4. Classifying -/

/-- The severity of an issue: that of its rule at its file; that of its rule if it has no file; its
own grade if it has no rule. -/
def severityOf (registry : Registry) (i : Issue) : Query Severity :=
  match i.rule, i.file with
  | none, _ => pure (if i.grade = some .warning then .warn else .error)
  | some rule, none => pure (Resolver.defaultSeverity registry rule)
  | some rule, some path => Resolver.severity rule path

/-- Errors and warnings among staged issues, in order. -/
def classify (registry : Registry) : List Issue → Query (List Finding × List Finding)
  | [] => pure ([], [])
  | i :: rest => do
    let severity ← severityOf registry i
    let (errors, warnings) ← classify registry rest
    match severity with
    | .off => pure (errors, warnings)
    | .error => pure (i.finding :: errors, warnings)
    | .warn => pure (errors, i.finding :: warnings)

/-- The warning about a directive that suppressed nothing. -/
def unusedWarning (path : String) (s : Suppressed) : Finding where
  message := "Unused disable directive for " ++
    (if s.target = Directive.allRules then "(all rules)" else "'" ++ s.target ++ "'")
  file := .text path
  line := .int s.comment
  explanation := .text ("This lintloom-" ++ s.scope.verb.word ++
    " comment doesn't suppress any violations")
  howToFix := .text "Remove the unused disable comment"

/-- The warnings about directives that suppressed nothing, file by file. -/
def unusedWarnings (r : Runner) : List Finding :=
  r.trackers.flatMap fun (path, t) => t.unused.map (unusedWarning path)

/-- The finding that a diagnostic becomes. -/
def diagnosticFinding (d : Diagnostic) : Finding where
  message := "[" ++ d.source ++ "] " ++ d.message
  rule := .ofText? d.code

/-- The outcome so far: the staged issues, then unused directives, then diagnostics. -/
def outcome (r : Runner) : Runner × Except Fault Outcome :=
  let (r, classified) := r.ask (classify r.registry r.staged)
  let unused := if r.reportUnused then r.unusedWarnings else []
  let diagnostics := r.resolver.diagnostics.getD []
  (r, classified.map fun (errors, warnings) => {
    errors := errors ++ diagnostics.errors.map diagnosticFinding
    warnings := warnings ++ unused ++ diagnostics.warnings.map diagnosticFinding
    deprecated := r.deprecated.map fun (rule, d) => Usage.ofDeprecation rule d
    files := r.files })

end Runner

end AgentLint
