import AgentLint.Text.Blank
import AgentLint.Text.Case
import AgentLint.Value.Basic

/-!
# Severities and categories

The two closed vocabularies that a rule is filed under.  A severity is read without regard to case
and surrounding blanks, and `warning` is another word for `warn`; a category is read exactly as it
is written.  Values that are not texts are read by the text they have in messages.
-/

namespace AgentLint

/-! ## 1. Severities -/

/-- How much a rule's findings weigh. -/
inductive Severity where
  /-- The rule does not run. -/
  | off
  /-- Its findings are warnings. -/
  | warn
  /-- Its findings are errors. -/
  | error
  deriving DecidableEq, Repr

namespace Severity

/-- The word for a severity. -/
def word : Severity → String
  | off => "off"
  | warn => "warn"
  | error => "error"

/-- All severities, in the order of their words. -/
def all : List Severity := [error, off, warn]

/-- The severity of a word in lower case. -/
def ofWord? (s : String) : Option Severity :=
  if s = "warning" then some warn else all.find? fun v => v.word = s

/-- Reads a severity from a value. -/
def parse? (v : Value) : Option Severity :=
  v.display?.bind fun shown => ofWord? (Text.asciiLower (Text.strip shown))

/-- The words that are accepted, as a message lists them. -/
def choices : String := (Value.list (all.map fun s => .text s.word)).literal

end Severity

/-! ## 2. Categories -/

/-- The families of files that rules apply to. -/
inductive Category where
  /-- Instruction files. -/
  | claudeMd
  /-- Skill definitions. -/
  | skills
  /-- Agent definitions. -/
  | agents
  /-- Settings files. -/
  | settings
  /-- Hooks. -/
  | hooks
  /-- Server configurations. -/
  | mcp
  /-- Plugins. -/
  | plugin
  /-- Commands. -/
  | commands
  /-- Output styles. -/
  | outputStyles
  /-- Language servers. -/
  | lsp
  deriving DecidableEq, Repr

namespace Category

/-- The name of a category. -/
def name : Category → String
  | claudeMd => "CLAUDE.md"
  | skills => "Skills"
  | agents => "Agents"
  | settings => "Settings"
  | hooks => "Hooks"
  | mcp => "MCP"
  | plugin => "Plugin"
  | commands => "Commands"
  | outputStyles => "OutputStyles"
  | lsp => "LSP"

/-- All categories, in the order of their names. -/
def all : List Category :=
  [agents, claudeMd, commands, hooks, lsp, mcp, outputStyles, plugin, settings, skills]

/-- The category of a name. -/
def ofName? (s : String) : Option Category := all.find? fun c => c.name = s

/-- Reads a category from a value. -/
def parse? (v : Value) : Option Category := ofName? v.display

/-- The names that are accepted, as a message lists them. -/
def choices : String := (Value.list (all.map fun c => .text c.name)).literal

theorem mem_all (c : Category) : c ∈ all := by cases c <;> decide

theorem ofName?_name (c : Category) : ofName? c.name = some c := by cases c <;> decide

end Category

end AgentLint
