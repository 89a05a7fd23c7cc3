import AgentLint.Cache.Basic
import AgentLint.Cli.Arguments

/-!
# Commands

The commands of the program and how their words are read.  Words are checked in this order: first
whether the options exist, then their values in the order in which they were given, and last whether
there are operands too many.
-/

namespace AgentLint.Cli

/-! ## 1. Commands -/

/-- How results are printed. -/
inductive Format where
  /-- For people. -/
  | text
  /-- As JSON. -/
  | json
  deriving DecidableEq, Repr

/-- What `check` is asked to do. -/
structure CheckRequest where
  /-- The files and directories; the current directory if there are none. -/
  paths : List Path
  /-- The configuration file, if one is given. -/
  config : Option Path
  /-- How results are printed. -/
  format : Format
  /-- Whether the cache is left alone. -/
  noCache : Bool
  /-- The directory of the cache. -/
  cacheLocation : Path
  /-- How many warnings are tolerated, if that is said. -/
  maxWarnings : Option Int
  /-- Whether no warning is tolerated. -/
  strict : Bool
  deriving DecidableEq, Repr

/-- A command. -/
inductive Command where
  /-- Checks files. -/
  | check (r : CheckRequest)
  /-- Lists the rules, perhaps of one category only. -/
  | listRules (category : Option String) (asJson : Bool)
  /-- Tells about one rule. -/
  | explain (rule : String)
  /-- Lists the deprecated rules of a configuration. -/
  | checkDeprecated (config : Option Path)
  /-- Removes a cache. -/
  | cacheClear (location : Path)
  deriving DecidableEq, Repr

/-- What the words of a call ask for. -/
inductive Call where
  /-- The version of the program. -/
  | version
  /-- How to call the program or a command of it. -/
  | help (lines : List String)
  /-- A command; `quiet` prints results only if there are errors. -/
  | run (quiet : Bool) (c : Command)
  deriving DecidableEq, Repr

/-- Why a call is refused: the usage of the command, its name, and the fault. -/
structure Refused where
  /-- The command and its parameters. -/
  usage : String
  /-- The command. -/
  command : String
  /-- What is wrong. -/
  fault : UsageFault
  deriving DecidableEq, Repr

/-- The wording of a refusal. -/
def Refused.message (r : Refused) : String :=
  (if r.fault.showsUsage then
    "Usage: " ++ r.usage ++ "\nTry '" ++ r.command ++ " --help' for help.\n\n" else "") ++
    "Error: " ++ r.fault.message ++ "\n"

/-! ## 2. Values of options -/

/-- A file that has to exist. -/
def existingFile (h : Host) (option given : String) : Except UsageFault Path :=
  match refusal? given with
  | some e => .error (.notAPath e)
  | none =>
    match h.stat given with
    | .error _ => .error (.fileMissing option given)
    | .ok (_, n) =>
      if n.isDirectory then .error (.fileIsDirectory option given) else .ok (Path.ofString given)

/-- A directory that may be absent. -/
def possibleDirectory (h : Host) (option given : String) : Except UsageFault Path :=
  match refusal? given with
  | some e => .error (.notAPath e)
  | none =>
    match h.stat given with
    | .ok (_, .file ..) => .error (.directoryIsFile option given)
    | _ => .ok (Path.ofString given)

/-- A path that may lead nowhere. -/
def possiblePath (given : String) : Except UsageFault Path :=
  match refusal? given with
  | some e => .error (.notAPath e)
  | none => .ok (Path.ofString given)

/-- One of the formats. -/
def formatOf (option given : String) : Except UsageFault Format :=
  if given = "text" then .ok .text
  else if given = "json" then .ok .json
  else .error (.notAChoice option given ["text", "json"])

/-- An integer that is not negative. -/
def countOf (option given : String) : Except UsageFault Int :=
  match integer? given with
  | none => .error (.notInteger option given)
  | some n => if n < 0 then .error (.belowZero option n) else .ok n

/-- An option that may be absent. -/
def optional {α : Type} (s : Split) (name : String) (read : String → String → Except UsageFault α) :
    Except UsageFault (Option α) :=
  match s.value? name with
  | none => .ok none
  | some v => (read name v).map some

/-- The fault of an outcome. -/
def faultOf {α : Type} : Except UsageFault α → Option UsageFault
  | .ok _ => none
  | .error e => some e

/-- The fault that comes first: those of options in the order given, then those of the others. -/
def firstFault (s : Split) (faults : List (String × Option UsageFault)) : Option UsageFault :=
  let ofOption (name : String) : Option UsageFault :=
    (faults.find? fun f => f.1 = name).bind Prod.snd
  (s.options.findSome? fun o => ofOption o.1).or (faults.findSome? Prod.snd)

/-! ## 3. Reading words -/

/-- The name of an option for configurations. -/
def configOption : String := "--config"

/-- The name of an option for caches. -/
def cacheOption : String := "--cache-location"

/-- The directory of the cache. -/
def cacheLocation (h : Host) (s : Split) : Except UsageFault Path :=
  possibleDirectory h cacheOption ((s.value? cacheOption).getD Cache.standardLocation)

/-- Reads the words of `check`. -/
def readCheck (h : Host) (s : Split) : Except UsageFault Command := do
  let paths := s.operands.mapM possiblePath
  let config := optional s configOption (existingFile h)
  let format := optional s "--format" formatOf
  let location := cacheLocation h s
  let maxWarnings := optional s "--max-warnings" countOf
  match firstFault s [("", faultOf paths), (configOption, faultOf config),
      ("--format", faultOf format), (cacheOption, faultOf location),
      ("--max-warnings", faultOf maxWarnings)] with
  | some f => throw f
  | none =>
    pure (.check {
      paths := ← paths
      config := ← config
      format := (← format).getD .text
      noCache := s.has "--no-cache"
      cacheLocation := ← location
      maxWarnings := ← maxWarnings
      strict := s.has "--strict" })

/-- Refuses operands. -/
def noOperands (s : Split) : Except UsageFault Unit :=
  if s.operands.isEmpty then .ok () else .error (.extraOperands s.operands)

/-- Reads the words of `list-rules`. -/
def readListRules (s : Split) : Except UsageFault Command := do
  noOperands s
  pure (.listRules (s.value? "--category") (s.has "--json"))

/-- Reads the words of `explain`. -/
def readExplain (s : Split) : Except UsageFault Command :=
  match s.operands with
  | [] => throw (.missingOperand "RULE_ID")
  | [rule] => pure (.explain rule)
  | _ :: more => throw (.extraOperands more)

/-- Reads the words of `check-deprecated`. -/
def readCheckDeprecated (h : Host) (s : Split) : Except UsageFault Command := do
  let config ← optional s configOption (existingFile h)
  noOperands s
  pure (.checkDeprecated config)

/-- Reads the words of `cache-clear`. -/
def readCacheClear (h : Host) (s : Split) : Except UsageFault Command := do
  let location ← cacheLocation h s
  noOperands s
  pure (.cacheClear location)

/-- What can be said in a call: a command, or the program itself. -/
structure Usage where
  /-- The words in front. -/
  name : String
  /-- The parameters, for people. -/
  parameters : String
  /-- The options. -/
  options : List OptionSpec

/-- The line that shows how to call. -/
def Usage.line (u : Usage) : String := u.name ++ " " ++ u.parameters

/-- The switch that asks how to call; every usage has it. -/
def helpOption : OptionSpec := { long := "--help" }

/-- The lines that tell how to call. -/
def Usage.help (u : Usage) : List String :=
  ["Usage: " ++ u.line, "", "Options:"] ++
    (u.options ++ [helpOption]).map fun o => "  " ++ (match o.short with
      | some c => String.ofList ['-', c] ++ ", "
      | none => "") ++ o.long ++ (if o.valued then " VALUE" else "")

/-- Refuses a call. -/
def Usage.refuse {α : Type} (u : Usage) (f : UsageFault) : Except Refused α :=
  .error ⟨u.line, u.name, f⟩

/-- A command with the way its words are read. -/
structure CommandSpec where
  /-- How it is called. -/
  usage : Usage
  /-- Reads its words. -/
  read : Host → Split → Except UsageFault Command

/-- The commands by name. -/
def commands : Assoc String CommandSpec :=
  [("check", ⟨⟨"main check", "[OPTIONS] [PATHS]...",
      [⟨configOption, none, true⟩, ⟨"--format", none, true⟩, ⟨"--no-cache", none, false⟩,
       ⟨cacheOption, none, true⟩, ⟨"--max-warnings", none, true⟩, ⟨"--strict", none, false⟩]⟩,
      readCheck⟩),
   ("list-rules", ⟨⟨"main list-rules", "[OPTIONS]",
      [⟨"--category", none, true⟩, ⟨"--json", none, false⟩]⟩, fun _ => readListRules⟩),
   ("explain", ⟨⟨"main explain", "[OPTIONS] RULE_ID", []⟩, fun _ => readExplain⟩),
   ("check-deprecated", ⟨⟨"main check-deprecated", "[OPTIONS]", [⟨configOption, none, true⟩]⟩,
      readCheckDeprecated⟩),
   ("cache-clear", ⟨⟨"main cache-clear", "[OPTIONS]", [⟨cacheOption, none, true⟩]⟩,
      readCacheClear⟩)]

/-- How the program itself is called. -/
def mainUsage : Usage where
  name := "main"
  parameters := "[OPTIONS] COMMAND [ARGS]..."
  options := [⟨"--version", none, false⟩, ⟨"--verbose", some 'v', false⟩,
    ⟨"--quiet", some 'q', false⟩]

/-- The lines that tell how to call the program. -/
def mainHelp : List String :=
  mainUsage.help ++ ["", "Commands:"] ++ (Assoc.keys commands).map ("  " ++ ·)

/-- Reads the words of a command. -/
def readCommand (h : Host) (quiet : Bool) (c : CommandSpec) (words : List String) :
    Except Refused Call :=
  match split (c.usage.options ++ [helpOption]) true {} words with
  | .error f => c.usage.refuse f
  | .ok s =>
    if s.has helpOption.long then .ok (.help c.usage.help)
    else
      match c.read h s with
      | .error f => c.usage.refuse f
      | .ok command => .ok (.run quiet command)

/-- The answer to a switch that asks for a version or for help; the first one counts. -/
def answered (s : Split) : Option Call :=
  (s.options.find? fun o => o.1 = "--version" || o.1 = helpOption.long).map fun o =>
    if o.1 = "--version" then .version else .help mainHelp

/-- Splits the words of a call up to the name of the command. -/
def splitCall (words : List String) : Except UsageFault Split :=
  split (mainUsage.options ++ [helpOption]) false {} words

/-- Refuses a command that does not exist.  A word that looks like an option is read as one first. -/
def unknownCommand (name : String) (rest : List String) : Except Refused Call :=
  match if isOption name then (splitCall (name :: rest)).map answered else .ok none with
  | .error f => mainUsage.refuse f
  | .ok (some call) => .ok call
  | .ok none =>
    mainUsage.refuse (.noSuchCommand name (Text.suggestions (Assoc.keys commands) name))

/-- Reads the words of a call. -/
def read (h : Host) (words : List String) : Except Refused Call :=
  match splitCall words with
  | .error f => mainUsage.refuse f
  | .ok s =>
    match answered s, s.operands with
    | some call, _ => .ok call
    | none, [] => mainUsage.refuse .missingCommand
    | none, name :: rest =>
      match Assoc.get? name commands with
      | none => unknownCommand name rest
      | some c => readCommand h (s.has "--quiet") c rest

end AgentLint.Cli
