import AgentLint.Rule.Basic
import AgentLint.Value.Shape

/-!
# Findings and results

A finding is a classified report; a result holds the errors and warnings of a run, the deprecated
rules that took part in it, and the files it looked at.  Results are stored and read back, and what
is read back may hold anything in most fields: those are values.  Mended texts and the list of files
are not stored.
-/

namespace AgentLint

/-! ## 1. Findings -/

/-- A classified report. -/
structure Finding where
  /-- What is wrong. -/
  message : String
  /-- The file, if it concerns one. -/
  file : Value := .null
  /-- The line, if it has one. -/
  line : Value := .null
  /-- The rule, if it comes from one. -/
  rule : Value := .null
  /-- What to do about it. -/
  fix : Value := .null
  /-- Why it matters. -/
  explanation : Value := .null
  /-- How to do it. -/
  howToFix : Value := .null
  /-- The mended text it comes with, if any. -/
  autoFix : Option AutoFix := none

/-- How grave a finding is. -/
inductive Grade where
  /-- An error. -/
  | error
  /-- A warning. -/
  | warning
  deriving DecidableEq, Repr

/-- The word for a grade. -/
def Grade.word : Grade → String
  | error => "error"
  | warning => "warning"

namespace Finding

/-- The stored form of a finding. -/
def toValue (g : Grade) (f : Finding) : Value :=
  Entries.ofFields
    [("message", .text f.message), ("file", f.file), ("line", f.line),
     ("severity", .text g.word), ("rule_id", f.rule), ("fix", f.fix),
     ("explanation", f.explanation), ("how_to_fix", f.howToFix)]

/-- Reads the stored form; fields that are absent are null, and the grade is not looked at. -/
def ofValue (v : Value) : Except ShapeFault Finding := do
  let message ← v.require "message"
  let field (k : String) : Except ShapeFault Value := (v.ask k).map fun x => x.getD .null
  pure {
    message := message.display
    file := ← field "file"
    line := ← field "line"
    rule := ← field "rule_id"
    fix := ← field "fix"
    explanation := ← field "explanation"
    howToFix := ← field "how_to_fix" }

end Finding

/-! ## 2. Deprecated rules in use -/

/-- A deprecated rule that was enabled and took part in a run. -/
structure Usage where
  /-- The rule. -/
  rule : String
  /-- Why it is deprecated. -/
  reason : String
  /-- The rules to use instead. -/
  replacedBy : List Value
  /-- The version that deprecated it. -/
  since : Value
  /-- The version that will not have it any more. -/
  removedIn : Value
  /-- Where to read more. -/
  url : Value

namespace Usage

/-- The usage of a deprecated rule. -/
def ofDeprecation (rule : String) (d : Deprecation) : Usage where
  rule := rule
  reason := d.reason
  replacedBy := d.replacedBy.map .text
  since := .ofText? d.since
  removedIn := .ofText? d.removedIn
  url := .ofText? d.url

/-- The stored form of a usage. -/
def toValue (u : Usage) : Value :=
  Entries.ofFields
    [("rule_id", .text u.rule), ("reason", .text u.reason), ("replaced_by", .list u.replacedBy),
     ("deprecated_since", u.since), ("remove_in_version", u.removedIn), ("url", u.url)]

/-- Reads the stored form. -/
def ofValue (v : Value) : Except ShapeFault Usage := do
  let rule ← v.require "rule_id"
  let reason ← v.require "reason"
  let field (k : String) : Except ShapeFault Value := (v.ask k).map fun x => x.getD .null
  let replacedBy ← (← field "replaced_by").itemsOrNone
  pure {
    rule := rule.display
    reason := reason.display
    replacedBy
    since := ← field "deprecated_since"
    removedIn := ← field "remove_in_version"
    url := ← field "url" }

end Usage

/-! ## 3. Results -/

/-- The outcome of a run over files. -/
structure Outcome where
  /-- The errors. -/
  errors : List Finding := []
  /-- The warnings. -/
  warnings : List Finding := []
  /-- The deprecated rules that took part. -/
  deprecated : List Usage := []
  /-- The files it looked at. -/
  files : List String := []

namespace Outcome

/-- Without errors. -/
def valid (o : Outcome) : Bool := o.errors.isEmpty

/-- Adds usages of rules that are not listed yet. -/
def addUsages (old : List Usage) (more : List Usage) : List Usage :=
  more.foldl (fun acc u => if acc.any (fun v => v.rule = u.rule) then acc else acc ++ [u]) old

/-- Adds files that are not listed yet. -/
def addFiles (old : List String) (more : List String) : List String :=
  more.foldl (fun acc f => if f ∈ acc then acc else acc ++ [f]) old

/-- One outcome followed by another. -/
def extend (a b : Outcome) : Outcome where
  errors := a.errors ++ b.errors
  warnings := a.warnings ++ b.warnings
  deprecated := addUsages a.deprecated b.deprecated
  files := addFiles a.files b.files

/-- Several outcomes as one. -/
def merge (os : List Outcome) : Outcome := os.foldl extend {}

/-- The stored form of an outcome. -/
def toValue (o : Outcome) : Value :=
  Entries.ofFields
    [("valid", .bool o.valid),
     ("errors", .list (o.errors.map (Finding.toValue .error))),
     ("warnings", .list (o.warnings.map (Finding.toValue .warning))),
     ("deprecated_rules_used", .list (o.deprecated.map Usage.toValue))]

/-- Reads the stored form. -/
def ofValue (v : Value) : Except ShapeFault Outcome := do
  let parts (k : String) : Except ShapeFault (List Value) := do
    match ← v.ask k with
    | none => pure []
    | some x => x.items
  let errors ← (← parts "errors").mapM Finding.ofValue
  let warnings ← (← parts "warnings").mapM Finding.ofValue
  let deprecated ← (← parts "deprecated_rules_used").mapM Usage.ofValue
  pure { errors, warnings, deprecated }

end Outcome

end AgentLint
