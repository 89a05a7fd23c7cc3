import AgentLint.Config.Fault
import AgentLint.Json.Writer
import AgentLint.Regex.Pattern
import AgentLint.Text.Utf8
import AgentLint.Value.Shape
import AgentLint.Yaml.Load

/-!
# Faults

Everything that can end an operation of this library early, as causes, and the one wording of each.
-/

namespace AgentLint

/-- Why an operation ended early. -/
inductive Fault where
  /-- A severity that does not exist. -/
  | severity (given : Value)
  /-- A category that does not exist. -/
  | category (given : Value)
  /-- A configuration that is refused. -/
  | config (c : ConfigFault)
  /-- A pattern that is refused. -/
  | pattern (r : Regex.Refusal)
  /-- A file whose bytes are no text. -/
  | decoding (r : Utf8.Refusal)
  /-- A JSON text that is refused. -/
  | json (r : Json.Refusal)
  /-- A scalar of a YAML text that does not convert. -/
  | scalar (f : Yaml.ScalarFault)
  /-- A value that cannot be shown. -/
  | unshowable
  /-- A value that JSON cannot hold. -/
  | unwritable (u : Json.Unwritable)
  /-- A file operation that failed. -/
  | file (f : FileFault)
  /-- Data of the wrong shape. -/
  | shape (s : ShapeFault)
  /-- Calls that are nested too deeply. -/
  | recursion
  /-- A text with halves of characters where they cannot be printed. -/
  | encoding (g : Utf8.Gap)
  /-- A rule's own failure, with its wording. -/
  | raised (text : String)
  /-- A rule that failed on a file. -/
  | crash (rule path : String) (cause : Fault)

/-- A configuration that is refused; that a value cannot be shown is no fault of the configuration. -/
def Fault.ofConfig : ConfigFault → Fault
  | .unshowable => .unshowable
  | c => .config c

/-- The wording for an unknown category. -/
def unknownCategoryText (given : Value) : String :=
  "unknown rule category '" ++ given.display ++ "', must be one of " ++ Category.choices

/-- The wording of a fault. -/
def Fault.message : Fault → String
  | severity v => unknownSeverityText v
  | category v => unknownCategoryText v
  | config c => c.message
  | pattern r => r.message
  | decoding r => r.message
  | json r => r.message
  | scalar f => f.message
  | unshowable => Decimal.unwritableText
  | unwritable u => u.message
  | file f => f.message
  | shape s => s.message
  | recursion => "maximum recursion depth exceeded"
  | encoding g => g.message
  | raised t => t
  | crash rule path cause => "Rule '" ++ rule ++ "' failed on " ++ path ++ ": " ++ cause.message

end AgentLint
