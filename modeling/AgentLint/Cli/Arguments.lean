import AgentLint.Decimal.Integer
import AgentLint.FileTree.Basic
import AgentLint.Text.Blank
import AgentLint.Text.Quoted
import AgentLint.Text.Similar
import AgentLint.Text.Word

/-!
# Arguments of a command

How a list of words is split into options and operands.  An option starts with a hyphen; its value is
the next word, or what follows an equals sign.  Two hyphens end the options.  Switches with one letter
can be written together.
-/

namespace AgentLint.Cli

/-! ## 1. Faults -/

/-- What is wrong with the words of a command. -/
inductive UsageFault where
  /-- An option that the command does not have, and those that it may stand for. -/
  | noSuchOption (name : String) (similar : List String)
  /-- An option without its value. -/
  | needsValue (name : String)
  /-- A switch with a value. -/
  | takesNoValue (name : String)
  /-- A command that does not exist, and those that it may stand for. -/
  | noSuchCommand (name : String) (similar : List String)
  /-- No command at all. -/
  | missingCommand
  /-- An operand that has to be there. -/
  | missingOperand (name : String)
  /-- Operands that the command does not take. -/
  | extraOperands (given : List String)
  /-- A value that is not one of the possible ones. -/
  | notAChoice (option given : String) (choices : List String)
  /-- A value that is no integer. -/
  | notInteger (option given : String)
  /-- An integer below the least one. -/
  | belowZero (option : String) (given : Int)
  /-- A file that does not exist. -/
  | fileMissing (option given : String)
  /-- A directory where a file is needed. -/
  | fileIsDirectory (option given : String)
  /-- A file where a directory is needed. -/
  | directoryIsFile (option given : String)
  /-- A path that no file can have, and why. -/
  | notAPath (why : FileFault)
  deriving DecidableEq, Repr

/-- The question that follows the complaint about an unknown name. -/
def didYouMean : List String → String
  | [] => ""
  | [name] => " Did you mean " ++ Text.quoted name ++ "?"
  | names => " (Did you mean one of: " ++ ", ".intercalate (names.map Text.quoted) ++ "?)"

/-- The wording of a fault. -/
def UsageFault.message : UsageFault → String
  | noSuchOption n ns => "No such option " ++ Text.quoted n ++ "." ++ didYouMean ns
  | needsValue n => "Option " ++ Text.quoted n ++ " requires an argument."
  | takesNoValue n => "Option " ++ Text.quoted n ++ " does not take a value."
  | noSuchCommand n ns => "No such command " ++ Text.quoted n ++ "." ++ didYouMean ns
  | missingCommand => "Missing command."
  | missingOperand n => "Missing argument '" ++ n ++ "'."
  | extraOperands ws => "Got unexpected extra argument" ++ (if ws.length = 1 then "" else "s") ++
      " (" ++ " ".intercalate ws ++ ")"
  | notAChoice o g cs => invalid o ++ Text.quoted g ++ " is not one of " ++
      ", ".intercalate (cs.map Text.quoted) ++ "."
  | notInteger o g => invalid o ++ Text.quoted g ++ " is not a valid integer range."
  | belowZero o n => invalid o ++ toString n ++ " is not in the range x>=0."
  | fileMissing o g => invalid o ++ "File " ++ Text.quoted g ++ " does not exist."
  | fileIsDirectory o g => invalid o ++ "File " ++ Text.quoted g ++ " is a directory."
  | directoryIsFile o g => invalid o ++ "Directory " ++ Text.quoted g ++ " is a file."
  | notAPath why => why.message
where
  /-- The start of a complaint about a value. -/
  invalid (option : String) : String := "Invalid value for '" ++ option ++ "': "

/-- Whether the usage of the command is shown with a fault.  It is not when the words could not even be
told apart. -/
def UsageFault.showsUsage : UsageFault → Bool
  | needsValue _ | takesNoValue _ => false
  | _ => true

/-! ## 2. Splitting -/

/-- An option that a command takes. -/
structure OptionSpec where
  /-- Its name, with the hyphens. -/
  long : String
  /-- Its letter. -/
  short : Option Char := none
  /-- Whether it has a value. -/
  valued : Bool := false
  deriving DecidableEq, Repr

/-- The words of a command, split. -/
structure Split where
  /-- The options in the order given, with their values. -/
  options : List (String × Option String) := []
  /-- The other words. -/
  operands : List String := []
  deriving DecidableEq, Repr

/-- Adds an option. -/
def Split.withOption (s : Split) (name : String) (value : Option String) : Split :=
  { s with options := s.options ++ [(name, value)] }

/-- Adds operands. -/
def Split.withOperands (s : Split) (ws : List String) : Split :=
  { s with operands := s.operands ++ ws }

/-- Whether a word is an option. -/
def isOption (word : String) : Bool := word.startsWith "-" && word ≠ "-"

/-- The name of an option and the value after its equals sign. -/
def nameAndValue (word : String) : String × Option String :=
  let cs := word.toList
  let name := String.ofList (cs.takeWhile (· ≠ '='))
  match cs.dropWhile (· ≠ '=') with
  | [] => (name, none)
  | _ :: value => (name, some (String.ofList value))

/-- The switches that a word of letters stands for. -/
def letters (specs : List OptionSpec) : List Char → Except UsageFault (List String)
  | [] => .ok []
  | c :: cs =>
    match specs.find? fun s => s.short = some c with
    | none => .error (.noSuchOption (String.ofList ['-', c]) [])
    | some s => (letters specs cs).map (s.long :: ·)

/-- Splits words.  Unless options may stand after operands, the first operand ends the options. -/
def split (specs : List OptionSpec) (mixed : Bool) : Split → List String → Except UsageFault Split
  | acc, [] => .ok acc
  | acc, word :: rest =>
    if word = "--" then .ok (acc.withOperands rest)
    else if isOption word then
      let (name, value) := nameAndValue word
      match specs.find? fun s => s.long = name with
      | some s =>
        if s.valued then
          match value, rest with
          | some v, rest => split specs mixed (acc.withOption name (some v)) rest
          | none, [] => .error (.needsValue name)
          | none, v :: rest => split specs mixed (acc.withOption name (some v)) rest
        else if value.isSome then .error (.takesNoValue name)
        else split specs mixed (acc.withOption name none) rest
      | none =>
        if word.startsWith "--" then
          .error (.noSuchOption name (Text.suggestions (specs.map OptionSpec.long) name))
        else
          match letters specs (word.toList.drop 1) with
          | .error e => .error e
          | .ok names => split specs mixed (names.foldl (fun a n => a.withOption n none) acc) rest
    else if mixed then split specs mixed (acc.withOperands [word]) rest
    else .ok (acc.withOperands (word :: rest))

/-- Whether a switch was given. -/
def Split.has (s : Split) (name : String) : Bool := s.options.any fun o => o.1 = name

/-- The last value of an option. -/
def Split.value? (s : Split) (name : String) : Option String :=
  (s.options.reverse.find? fun o => o.1 = name).bind Prod.snd

/-! ## 3. Values -/

/-- An integer. -/
def integer? (s : String) : Option Int := (Decimal.readInteger 10 s.toList).toOption

end AgentLint.Cli
