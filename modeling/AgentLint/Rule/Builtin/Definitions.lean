import AgentLint.Rule.Builtin.Instructions
import AgentLint.Text.Naming

/-!
# Rules for skill and agent definitions

Both kinds of file carry their name and description in the frontmatter.  The rules for skills look at
files named `SKILL.md` only; where the frontmatter is absent or unusable, one rule of each family
says so and the others are silent.
-/

namespace AgentLint.Builtin

/-! ## 1. Skills -/

/-- The longest description of a skill, in characters. -/
def longestDescription : Nat := 1024

/-- Whether a file defines a skill. -/
def isSkillFile (c : Context) : Bool := (Path.ofString c.path).name = "SKILL.md"

/-- The line of a field of the frontmatter. -/
def fieldLine (c : Context) (key : String) : Option Int :=
  (Frontmatter.fieldLine? c.content key).map fun n => (n : Int)

/-- A text that is more than blanks. -/
def isFilledText : Value → Bool
  | .text s => !Text.isBlankText s
  | _ => false

/-- The fields of a skill; `none` if this is no skill file or its frontmatter is unusable. -/
def skillFields (c : Context) : Check c.content (Option Entries) := do
  if isSkillFile c then return (← Check.frontmatter).data? else return none

/-- Reports a skill file without usable frontmatter. -/
def checkSkillFrontmatter (c : Context) : Check c.content Unit := do
  if isSkillFile c then
    let f ← Check.frontmatter
    if !f.present then
      Check.report {
        message := "SKILL.md is missing YAML frontmatter"
        line := some 1
        fix := some "Start the file with a --- block defining name and description" }
    else
      match f.complaint? with
      | none => pure ()
      | some e => Check.report { message := e, line := some 1 }

/-- Whether a value is a well-formed name of a skill. -/
def isSkillName : Value → Bool
  | .text s => Text.isHyphenated s.toList
  | _ => false

/-- Reports a skill whose name is absent, ill-formed, or not that of its directory. -/
def checkSkillName (c : Context) : Check c.content Unit := do
  match ← skillFields c with
  | none => pure ()
  | some fields =>
    let name := Entries.get "name" fields
    if !name.truthy then
      Check.report { message := "Skill frontmatter is missing \"name\"", line := some 1 }
    else if !isSkillName name then
      let shown ← Check.shown name
      Check.report {
        message := "Skill name \"" ++ shown ++
          "\" must be lowercase letters, digits and hyphens"
        line := fieldLine c "name" }
    else
      let directory := (Path.ofString c.path).parent.name
      if !directory.isEmpty && name.display ≠ directory then
        Check.report {
          message := "Skill name \"" ++ name.display ++ "\" does not match directory \"" ++
            directory ++ "\""
          line := fieldLine c "name"
          fix := some ("Rename the directory or set name: " ++ directory) }

/-- Reports a skill without description. -/
def checkSkillDescription (c : Context) : Check c.content Unit := do
  match ← skillFields c with
  | none => pure ()
  | some fields =>
    if !isFilledText (Entries.get "description" fields) then
      Check.report { message := "Skill frontmatter is missing \"description\"", line := some 1 }

/-- Reports a skill with a long description. -/
def checkDescriptionLength (c : Context) : Check c.content Unit := do
  match ← skillFields c with
  | none => pure ()
  | some fields =>
    match Entries.get "description" fields with
    | .text s =>
      let length := (Text.trim s.toList).length
      let most := numberOption c "maxLength" longestDescription
      if most < length then
        Check.report {
          message := "Description too long (" ++ toString length ++ "/" ++ toString most ++
            " characters)"
          line := fieldLine c "description" }
    | _ => pure ()

/-- Reports a skill without version. -/
def checkSkillVersion (c : Context) : Check c.content Unit := do
  match ← skillFields c with
  | none => pure ()
  | some fields =>
    if !(Entries.get "version" fields).truthy then
      Check.report {
        message := "Skill frontmatter lacks \"version\" field"
        fix := some "Add \"version: 1.0.0\" to the SKILL.md frontmatter" }

/-- The rules for skills. -/
def skillRules : List Rule :=
  [{ info := {
       id := "skill-frontmatter-invalid"
       name := "Skill Frontmatter"
       description := "SKILL.md must start with a valid YAML frontmatter mapping"
       category := .skills
       severity := .error }
     check := checkSkillFrontmatter },
   { info := {
       id := "skill-name"
       name := "Skill Name"
       description := "Skill name is required, kebab-case and matches its directory"
       category := .skills
       severity := .error }
     check := checkSkillName },
   { info := {
       id := "skill-description"
       name := "Skill Description"
       description := "Skill description is required"
       category := .skills
       severity := .error }
     check := checkSkillDescription },
   { info := {
       id := "skill-description-max-length"
       name := "Skill Description Max Length"
       description := "Skill description exceeds maximum character length"
       category := .skills
       severity := .warn
       since := "0.3.0"
       options := some (FieldModel.model ⟨"DescriptionLengthOptions", "maxLength", .positive longestDescription⟩) }
     check := checkDescriptionLength },
   { info := {
       id := "skill-missing-version"
       name := "Skill Missing Version"
       description := "Skill frontmatter has no version field"
       category := .skills
       severity := .warn }
     check := checkSkillVersion }]

/-! ## 2. Agents -/

/-- The shortest useful body of an agent, in characters. -/
def shortestBody : Nat := 50

/-- Reports an agent without usable frontmatter, or without name or description. -/
def checkAgentFields (c : Context) : Check c.content Unit := do
  let f ← Check.frontmatter
  if !f.present then
    Check.report { message := "Agent file is missing YAML frontmatter", line := some 1 }
  else
    match f.data? with
    | none =>
      Check.report {
        message := f.complaint?.getD "Invalid agent frontmatter", line := some 1 }
    | some fields =>
      ["name", "description"].forM fun key =>
        if isFilledText (Entries.get key fields) then pure ()
        else Check.report {
          message := "Agent frontmatter is missing \"" ++ key ++ "\"", line := some 1 }

/-- Reports an agent whose name is not that of its file. -/
def checkAgentName (c : Context) : Check c.content Unit := do
  let f ← Check.frontmatter
  match Entries.get "name" (f.data?.getD []) with
  | .text name =>
    let stem := (Path.ofString c.path).stem
    if name ≠ stem then
      Check.report {
        message := "Agent name \"" ++ name ++ "\" does not match filename \"" ++ stem ++ "\""
        line := fieldLine c "name" }
  | _ => pure ()

/-- Reports an agent with a short body. -/
def checkAgentBody (c : Context) : Check c.content Unit := do
  let f ← Check.frontmatter
  if f.present then
    let body ← Check.body
    let length := (Text.trim body.toList).length
    let least := numberOption c "minLength" shortestBody
    if length < least then
      let shown ← Check.shown (.int least)
      Check.report {
        message := "Agent system prompt is too short (" ++ toString length ++
          " characters, minimum " ++ shown ++ ")"
        howToFix := some "Describe the agent's role and instructions in the body" }

/-- The rules for agents. -/
def agentRules : List Rule :=
  [{ info := {
       id := "agent-frontmatter"
       name := "Agent Frontmatter"
       description := "Agent files need frontmatter with name and description"
       category := .agents
       severity := .error }
     check := checkAgentFields },
   { info := {
       id := "agent-name-filename-mismatch"
       name := "Agent Name Filename Mismatch"
       description := "Agent name must match its filename"
       category := .agents
       severity := .error }
     check := checkAgentName },
   { info := {
       id := "agent-body-too-short"
       name := "Agent Body Too Short"
       description := "Agent system prompt body is too short to be useful"
       category := .agents
       severity := .warn
       options := some (FieldModel.model ⟨"BodyLengthOptions", "minLength", .positive shortestBody⟩) }
     check := checkAgentBody }]

end AgentLint.Builtin
