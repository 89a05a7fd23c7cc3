import AgentLint.Glob
import AgentLint.Severity

/-!
# Families of files

A family is a kind of file: where its files are and which rules apply to them.
-/

namespace AgentLint

/-- A family of files. -/
structure Family where
  /-- Its name. -/
  name : String
  /-- The rules that apply. -/
  category : Category
  /-- Patterns for its files. -/
  patterns : List String
  /-- Whether its files have to be JSON. -/
  isJson : Bool := false
  deriving DecidableEq, Repr

namespace Family

/-- The built-in families, in the order in which they are checked. -/
def builtin : List Family :=
  [⟨"claude-md", .claudeMd, ["**/CLAUDE.md", "**/.claude/rules/*.md"], false⟩,
   ⟨"skills", .skills, ["**/skills/*/SKILL.md"], false⟩,
   ⟨"agents", .agents, ["**/agents/*.md"], false⟩,
   ⟨"mcp", .mcp, ["**/.mcp.json"], true⟩,
   ⟨"settings", .settings, ["**/.claude/settings.json", "**/.claude/settings.local.json"], true⟩]

/-- Whether a file belongs to the family and matches none of the patterns to ignore. -/
def wants (f : Family) (ignore : List String) (path : String) : Except Regex.Refusal Bool :=
  match Glob.globAny path f.patterns with
  | .ok true => (Glob.globAny path ignore).map (!·)
  | r => r

/-- The files of the family among some files. -/
def select (f : Family) (ignore : List String) : List String → Except Regex.Refusal (List String)
  | [] => .ok []
  | path :: rest => do
    let wanted ← f.wants ignore path
    let others ← select f ignore rest
    pure (if wanted then path :: others else others)

end Family

end AgentLint
