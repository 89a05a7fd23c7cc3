import AgentLint.Finding
import AgentLint.Json.Writer

/-!
# Printed results

The outcomes of several validators, by name, as text for people and as JSON.
-/

namespace AgentLint.Printout

/-- Outcomes by the name of their validator. -/
abbrev Outcomes := Assoc String Outcome

/-! ## 1. Counts -/

/-- The number of errors. -/
def errorCount (os : Outcomes) : Nat := (os.flatMap fun o => o.2.errors).length

/-- The number of warnings. -/
def warningCount (os : Outcomes) : Nat := (os.flatMap fun o => o.2.warnings).length

/-- The number of distinct files. -/
def fileCount (os : Outcomes) : Nat :=
  (os.foldl (fun acc o => Outcome.addFiles acc o.2.files) []).length

/-- A number with its noun. -/
def counted (n : Nat) (noun : String) : String :=
  toString n ++ " " ++ noun ++ (if n = 1 then "" else "s")

/-! ## 2. Text -/

/-- Where a finding is. -/
def location (f : Finding) : String :=
  match f.file with
  | .null => "(config)"
  | file =>
    match f.line with
    | .null => file.display
    | line => file.display ++ ":" ++ line.display

/-- The lines of a finding. -/
def findingLines (mark : String) (f : Finding) : List String :=
  let rule := if f.rule.truthy then "  [" ++ f.rule.display ++ "]" else ""
  ("  " ++ mark ++ " " ++ location f ++ "  " ++ f.message ++ rule) ::
    (if f.fix.truthy then ["      fix: " ++ f.fix.display] else [])

/-- The lines of a validator; none if it found nothing. -/
def validatorLines (name : String) (o : Outcome) : List String :=
  if o.errors.isEmpty && o.warnings.isEmpty then []
  else name :: (o.errors.flatMap (findingLines "✗") ++ o.warnings.flatMap (findingLines "!")) ++ [""]

/-- A value of a list as a text to be joined to the others. -/
def joinable : Value × Nat → Except ShapeFault String
  | (.text s, _) => .ok s
  | (v, i) => .error (.notText i v.kind)

/-- Texts joined by commas; anything else is refused. -/
def commaJoined (vs : List Value) : Except ShapeFault String := do
  let ts ← vs.zipIdx.mapM joinable
  pure (", ".intercalate ts)

/-- The line about a deprecated rule. -/
def usageLine (u : Usage) : Except ShapeFault String := do
  let hint ← if u.replacedBy.isEmpty then pure "" else
    (commaJoined u.replacedBy).map fun s => " (use " ++ s ++ ")"
  pure ("Deprecated rule '" ++ u.rule ++ "' is enabled: " ++ u.reason ++ hint)

/-- The deprecated rules in use, each with its last usage. -/
def usages (os : Outcomes) : List Usage :=
  Assoc.vals ((os.flatMap fun o => o.2.deprecated).foldl
    (fun acc u => Assoc.put u.rule u acc) ([] : Assoc String Usage))

/-- The last line. -/
def summary (os : Outcomes) : String :=
  let errors := errorCount os
  let warnings := warningCount os
  if errors = 0 && warnings = 0 then
    "✓ No problems found (" ++ toString (fileCount os) ++ " files checked)"
  else
    counted errors "error" ++ ", " ++ counted warnings "warning" ++ " in " ++
      counted (fileCount os) "file"

/-- The outcomes as text. -/
def text (os : Outcomes) : Except ShapeFault String := do
  let deprecated ← (usages os).mapM usageLine
  let gap := if deprecated.isEmpty then [] else [""]
  pure ("\n".intercalate
    ((os.flatMap fun o => validatorLines o.1 o.2) ++ deprecated ++ gap ++ [summary os]))

/-! ## 3. JSON -/

/-- The outcomes as a value. -/
def toValue (os : Outcomes) : Value :=
  Entries.ofFields
    [("validators", Entries.ofFields (os.map fun o => (o.1, o.2.toValue))),
     ("summary", Entries.ofFields
       [("valid", .bool (os.all fun o => o.2.valid)),
        ("errors", .int (errorCount os)),
        ("warnings", .int (warningCount os))])]

/-- The outcomes as JSON. -/
def json (os : Outcomes) : Except Json.Unwritable String := Json.writePretty (toValue os)

end AgentLint.Printout
