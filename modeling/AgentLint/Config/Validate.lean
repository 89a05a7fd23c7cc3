import AgentLint.Config.Basic
import AgentLint.Rule.Registry

/-!
# Warnings about a configuration

Rules that do not exist and options that their rules do not take.  Neither keeps a configuration from
being used.
-/

namespace AgentLint.Config

/-- The warning about one setting. -/
def settingWarning? (registry : Registry) (place rule : String) (s : RuleSetting) :
    Except Fault (Option String) :=
  match registry.info? rule with
  | none => .ok (some (place ++ ": unknown rule '" ++ rule ++ "'"))
  | some info =>
    match s.options, info.options with
    | some os, some model => (model.check os).map fun checked =>
      match checked with
      | .ok _ => none
      | .error why => some (place ++ ": invalid options for rule '" ++ rule ++ "': " ++ why.report)
    | _, _ => .ok none

/-- The settings of a configuration with their places, those for all files first. -/
def settings (c : Config) : List (String × String × RuleSetting) :=
  c.rules.map (fun e => ("rules", e.1, e.2)) ++
    c.overrides.zipIdx.flatMap fun (o, i) =>
      o.rules.map fun e => ("overrides[" ++ toString i ++ "]", e.1, e.2)

/-- The warnings about a configuration. -/
def warnings (c : Config) (registry : Registry) : Except Fault (List String) :=
  c.settings.filterMapM fun (place, rule, s) => settingWarning? registry place rule s

end AgentLint.Config
