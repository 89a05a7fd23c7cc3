import AgentLint.Rule.Builtin.Definitions
import AgentLint.Rule.Builtin.Records
import AgentLint.Rule.Registry

/-!
# The built-in rules

All rules that come with the library, in the order in which they run.
-/

namespace AgentLint.Builtin

/-- The built-in rules. -/
def rules : List Rule := instructionRules ++ skillRules ++ agentRules ++ serverRules ++ settingRules

/-- A registry with the built-in rules. -/
def registry : Registry := Registry.empty.addAll rules

end AgentLint.Builtin
