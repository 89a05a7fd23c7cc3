import AgentLint.Json.Reader
import AgentLint.Regex.Match
import AgentLint.Rule.Basic
import AgentLint.Rule.Field
import AgentLint.Text.Case
import AgentLint.Text.Expansion
import AgentLint.Text.Naming

/-!
# Rules for server configurations and settings

Both kinds of file are JSON.  A file that is not JSON has no records as far as these rules are
concerned; that it is not is reported elsewhere.
-/

namespace AgentLint.Builtin

/-! ## 1. Records -/

/-- The fields of a JSON file; none if it is no JSON, or not a map. -/
def fieldsOf (c : Context) : Check c.content Entries :=
  match Json.read c.content with
  | .ok v => pure (v.map?.getD [])
  | .error (.malformed _) => pure []
  | .error r => throw (.json r)

/-- A filled text: one that is more than blanks. -/
def filled? : Value → Option String
  | .text s => if Text.isBlankText s then none else some s
  | _ => none

/-- The key of a JSON map. -/
def keyOf (e : Value × Value) : String := e.1.display

/-! ## 2. Servers -/

/-- The ways to reach a server. -/
def transports : List String := ["stdio", "sse", "http", "websocket"]

/-- The variable that names the place of a plugin. -/
def pluginRoot : String := "CLAUDE_PLUGIN_ROOT"

/-- The standard form of the names of variables. -/
def variablePattern : String := "^[A-Z_][A-Z0-9_]*$"

/-- The servers of a file: name and fields. -/
def servers (c : Context) : Check c.content (List (String × Entries)) := do
  let fields ← fieldsOf c
  let all := (Entries.get "mcpServers" fields).map?.getD []
  pure (all.filterMap fun e => e.2.map?.map fun fs => (keyOf e, fs))

/-- Whether a value is one of the ways to reach a server. -/
def isTransport : Value → Bool
  | .text s => transports.contains s
  | _ => false

/-- Reports servers that are reached in no known way. -/
def checkTransports (c : Context) : Check c.content Unit := do
  (← servers c).forM fun (name, fields) => do
    let transport := Entries.get "type" fields
    if transport.truthy && !isTransport transport then
      Check.report {
        message := "Invalid transport type for server '" ++ name ++ "': " ++ transport.display
        howToFix := some ("Use one of: " ++ ", ".intercalate transports) }

/-- What is wrong with the inside of an expansion. -/
def bracedComplaint? (form : Regex.Pattern) (place : String) (inner : List Char) : Option String :=
  let name := String.ofList (Text.variableOf inner)
  if name.isEmpty then
    some ("Invalid variable expansion syntax in " ++ place ++ ": " ++
      String.ofList (Text.inBraces inner))
  else if name ≠ pluginRoot && !form.matchesStart name then
    some ("Invalid environment variable name in " ++ place ++ ": \"" ++ name ++ "\"")
  else none

/-- What is wrong with the expansions of a text: first the braced ones, then the bare ones. -/
def expansionComplaints (form : Regex.Pattern) (place text : String) : List String :=
  let cs := text.toList
  (Text.braced cs).filterMap (bracedComplaint? form place) ++
    (Text.bareNames cs).map fun name =>
      "Unbraced variable expansion in " ++ place ++ ": $" ++ String.ofList name

/-- Reports messages without anything else. -/
def reportAll {content : String} (messages : List String) : Check content Unit :=
  messages.forM fun m => Check.report { message := m }

/-- Reports the expansions of a value, if it is a text. -/
def checkExpansions {content : String} (form : Regex.Pattern) (place : String) :
    Value → Check content Unit
  | .text s => reportAll (expansionComplaints form place s)
  | _ => pure ()

/-- What is wrong with an environment variable of a server. -/
def variableComplaints (form : Regex.Pattern) (server key : String) (value : Value) : List String :=
  match filled? value with
  | none => ["Empty value for environment variable " ++ key ++ " in '" ++ server ++ "'"]
  | some s => expansionComplaints form ("'" ++ server ++ "' env " ++ key) s

/-- Reports the expansions of one server. -/
def checkServer {content : String} (form : Regex.Pattern) (name : String) (fields : Entries) :
    Check content Unit := do
  checkExpansions form ("'" ++ name ++ "' command") (Entries.get "command" fields)
  let args ← Check.lift .shape (Entries.get "args" fields).itemsOrNone
  args.forM (checkExpansions form ("'" ++ name ++ "' argument"))
  checkExpansions form ("'" ++ name ++ "' URL") (Entries.get "url" fields)
  let env := (Entries.get "env" fields).map?.getD []
  env.forM fun e => reportAll (variableComplaints form name (keyOf e) e.2)

/-- Reports ill-formed expansions in servers. -/
def checkServers (c : Context) : Check c.content Unit := do
  let source := match Entries.get? "pattern" c.options with
    | some v => v.display
    | none => variablePattern
  let form ← Check.lift .pattern (Regex.read source)
  (← servers c).forM fun (name, fields) => checkServer form name fields

/-- The names of servers are keys of a map, so none of them can occur twice. -/
def checkServerNames (c : Context) : Check c.content Unit := pure ()

/-- The rules for server configurations. -/
def serverRules : List Rule :=
  [{ info := {
       id := "mcp-invalid-transport"
       name := "MCP Invalid Transport"
       description := "MCP transport type must be one of the supported values"
       category := .mcp
       severity := .error }
     check := checkTransports },
   { info := {
       id := "mcp-invalid-env-var"
       name := "MCP Invalid Env Var"
       description := "Environment variable expansions in MCP servers must be well formed"
       category := .mcp
       severity := .warn
       options := some (FieldModel.model ⟨"EnvVarOptions", "pattern", .pattern variablePattern⟩) }
     check := checkServers },
   { info := {
       id := "mcp-invalid-server"
       name := "MCP Invalid Server"
       description := "MCP server names must be unique"
       category := .mcp
       severity := .error
       deprecation := some {
         reason := "Server names are object keys, so duplicates are impossible"
         replacedBy := ["mcp-invalid-transport"]
         since := some "0.3.0"
         removedIn := some "1.0.0" } }
     check := checkServerNames }]

/-! ## 3. Settings -/

/-- The lists of permissions. -/
def buckets : List String := ["allow", "deny", "ask"]

/-- Splits a permission of the form `Tool(pattern)`. -/
def toolPattern? (cs : List Char) : Option (List Char × List Char) :=
  let tool := cs.takeWhile (· ≠ '(')
  let inner := (cs.dropWhile (· ≠ '(')).drop 1
  let pattern := inner.takeWhile (· ≠ ')')
  let rest := inner.dropWhile (· ≠ ')')
  if !tool.isEmpty && cs.contains '(' && Text.dropLineFeed rest = [')'] then some (tool, pattern)
  else none

/-- The complaint about a permission with an empty pattern. -/
def permissionComplaint? (bucket : String) : Value → Option String
  | .text s => do
    let (tool, pattern) ← toolPattern? s.toList
    if pattern.all Text.isBlank then
      some ("Empty inline pattern in permissions." ++ bucket ++ ": \"" ++ s ++ "\". Use \"" ++
        String.ofList tool ++ "\" instead")
    else none
  | _ => none

/-- Reports permissions with empty patterns, unless the options allow them. -/
def checkPermissions (c : Context) : Check c.content Unit := do
  if (Entries.get "allowEmpty" c.options).truthy then pure ()
  else
    let fields ← fieldsOf c
    match (Entries.get "permissions" fields).map? with
    | none => pure ()
    | some permissions =>
      buckets.forM fun bucket => do
        let entries ← Check.lift .shape (Entries.get bucket permissions).itemsOrNone
        reportAll (entries.filterMap (permissionComplaint? bucket))

/-- Parts of names that hint at a secret. -/
def secretHints : List String := ["secret", "key", "token", "password"]

/-- The longest value that is not taken for a secret. -/
def longestHarmless : Nat := 10

/-- Whether a name hints at a secret. -/
def hintsAtSecret (key : String) : Bool :=
  let lowered := Text.lower key.toList
  secretHints.any fun h => Text.holds h.toList lowered

/-- Whether a value under a name looks like a secret that is written out. -/
def looksSecret (key value : String) : Bool :=
  hintsAtSecret key && !(['$', Text.openBrace].isPrefixOf value.toList) &&
    longestHarmless < value.length

/-- Reports one environment variable of the settings. -/
def checkSetting {content : String} (key : String) (value : Value) : Check content Unit := do
  if !Text.isConstantName key.toList then
    Check.report {
      message := "Environment variable name should be uppercase with underscores: " ++ key }
  match filled? value with
  | none => Check.report { message := "Empty value for environment variable: " ++ key }
  | some s =>
    if looksSecret key s then
      Check.report {
        message := "Possible hardcoded secret in environment variable: " ++ key
        howToFix := some "Reference the value with $\x7bVAR\x7d expansion instead" }

/-- Reports ill-named, empty and secret environment variables. -/
def checkSettings (c : Context) : Check c.content Unit := do
  let fields ← fieldsOf c
  let env := (Entries.get "env" fields).map?.getD []
  env.forM fun e => checkSetting (keyOf e) e.2

/-- The rules for settings. -/
def settingRules : List Rule :=
  [{ info := {
       id := "settings-permission-empty-pattern"
       name := "Settings Permission Empty Pattern"
       description := "Tool(pattern) permission entries should not have empty patterns"
       category := .settings
       severity := .warn
       since := "0.4.0"
       options := some (FieldModel.model ⟨"EmptyPatternOptions", "allowEmpty", .switch false⟩) }
     check := checkPermissions },
   { info := {
       id := "settings-invalid-env-var"
       name := "Settings Invalid Env Var"
       description := "Environment variables in settings must be well named and non-empty"
       category := .settings
       severity := .warn }
     check := checkSettings }]

end AgentLint.Builtin
