import AgentLint.Decimal.Reader
import AgentLint.Regex.Reader
import AgentLint.Rule.Option
import AgentLint.Text.Case
import AgentLint.Text.Elide
import AgentLint.Text.Utf8
import AgentLint.Value.Basic

/-!
# Models of one option

The models that the built-in rules have: one option, which is a positive whole number, a switch, or a
regular expression.  A model says how the option is called and what it is when nothing is said.
`FieldModel.check` reads a map of options: numbers and switches may also be written as texts, and keys
that the model does not know are refused.  The outcome is a map with the one option, or all that is
wrong with the given one.
-/

namespace AgentLint

/-! ## 1. Models -/

/-- What an option is, and its value if none is given. -/
inductive OptionKind where
  /-- A whole number above zero. -/
  | positive (standard : Nat)
  /-- A switch. -/
  | switch (standard : Bool)
  /-- A regular expression. -/
  | pattern (standard : String)
  deriving DecidableEq, Repr

/-- A model with one option. -/
structure FieldModel where
  /-- The name of the model. -/
  name : String
  /-- The name of the option. -/
  field : String
  /-- What it is. -/
  kind : OptionKind
  deriving DecidableEq, Repr

/-- The value of an option if none is given. -/
def OptionKind.standard : OptionKind → Value
  | positive n => .int n
  | switch b => .bool b
  | pattern s => .text s

/-- The options if none are given. -/
def FieldModel.defaults (m : FieldModel) : Entries := [(.text m.field, m.kind.standard)]

/-! ## 2. Problems -/

/-- What can be wrong with an option. -/
inductive OptionProblem where
  /-- Zero or below. -/
  | notPositive
  /-- Not a number. -/
  | notInteger
  /-- A text that is no whole number. -/
  | unreadableInteger
  /-- A text with too many digits. -/
  | oversizedInteger
  /-- A number with a fraction. -/
  | fraction
  /-- Infinity, or no number. -/
  | notFinite
  /-- Not a switch. -/
  | notSwitch
  /-- A text or number that is no switch. -/
  | unreadableSwitch
  /-- Not a text. -/
  | notText
  /-- Bytes that are no text. -/
  | notUnicode
  /-- Not a regular expression. -/
  | badPattern (r : Regex.Refusal)
  /-- An option that the model does not have. -/
  | unknown
  /-- An option whose name is no text. -/
  | badKey

/-- The wording of a problem. -/
def OptionProblem.text : OptionProblem → String
  | notPositive => "Input should be greater than 0"
  | notInteger => "Input should be a valid integer"
  | unreadableInteger => "Input should be a valid integer, unable to parse string as an integer"
  | oversizedInteger => "Unable to parse input string as an integer, exceeded maximum size"
  | fraction => "Input should be a valid integer, got a number with a fractional part"
  | notFinite => "Input should be a finite number"
  | notSwitch => "Input should be a valid boolean"
  | unreadableSwitch => "Input should be a valid boolean, unable to interpret input"
  | notText => "Input should be a valid string"
  | notUnicode => "Input should be a valid string, unable to parse raw data as a unicode string"
  | badPattern r => "Value error, " ++
      (if r.cause.kind = .form then "not a valid regular expression: " else "") ++ r.message
  | unknown => "Extra inputs are not permitted"
  | badKey => "Keys should be strings"

/-- The short name of a problem. -/
def OptionProblem.code : OptionProblem → String
  | notPositive => "greater_than"
  | notInteger => "int_type"
  | unreadableInteger => "int_parsing"
  | oversizedInteger => "int_parsing_size"
  | fraction => "int_from_float"
  | notFinite => "finite_number"
  | notSwitch => "bool_type"
  | unreadableSwitch => "bool_parsing"
  | notText => "string_type"
  | notUnicode => "string_unicode"
  | badPattern _ => "value_error"
  | unknown => "extra_forbidden"
  | badKey => "invalid_key"

/-- A problem, where it is and what was given. -/
structure FieldComplaint where
  /-- The name of the option. -/
  field : Value
  /-- What is wrong. -/
  problem : OptionProblem
  /-- What was given. -/
  given : Value

namespace FieldComplaint

/-- The unambiguous text of a value; of one that cannot be shown, only its kind. -/
def shown (v : Value) : String :=
  if v.isShowable then v.literal else "<unprintable " ++ v.kind ++ " object>"

/-- The name of an option in messages. -/
def fieldText : Value → String
  | .bool b => if b then "1" else "0"
  | .text s => s
  | v => shown v

/-- Where it is and what is wrong. -/
def complaint (c : FieldComplaint) : OptionComplaint := ⟨[fieldText c.field], c.problem.text⟩

/-- Two lines; a name with a dot is put between backticks. -/
def lines (c : FieldComplaint) : String :=
  let name := fieldText c.field
  let heading := if name.toList.contains '.' then "`" ++ name ++ "`" else name
  heading ++ "\n  " ++ c.problem.text ++ " [type=" ++ c.problem.code ++ ", input_value=" ++
    Text.elide (shown c.given) ++ ", input_type=" ++ c.given.kind ++ "]"

/-- All complaints, under a line that counts them. -/
def report (model : String) (cs : List FieldComplaint) : String :=
  let count := toString cs.length ++ " validation error" ++ (if cs.length = 1 then "" else "s")
  "\n".intercalate ((count ++ " for " ++ model) :: cs.map lines)

end FieldComplaint

/-! ## 3. Reading values -/

namespace OptionKind

/-- A digit other than zero. -/
def isLeading (c : Char) : Bool := '1' ≤ c && c ≤ '9'

/-- Drops zeros, and underscores between them, in front of a number, but not its last zero. -/
def dropZeros (cs : List Char) : Option (List Char) :=
  match cs with
  | '0' :: _ =>
    let front := cs.takeWhile fun c => c = '0' || c = '_'
    let rest := cs.dropWhile fun c => c = '0' || c = '_'
    let last := front.drop (front.length - 1)
    match rest with
    | [] => some last
    | '.' :: _ => some (last ++ rest)
    | c :: _ => if isLeading c || c = '-' then some rest else none
  | c :: _ => if isLeading c || c = '-' then some cs else none
  | [] => none

/-- Drops a point with nothing but zeros, and at least one, after it. -/
def dropPoint (cs : List Char) : List Char :=
  let zeros := (cs.dropWhile (· ≠ '.')).drop 1
  if !zeros.isEmpty && zeros.all (· = '0') then cs.takeWhile (· ≠ '.') else cs

/-- Drops single underscores that stand inside of a text. -/
def dropUnderscores (cs : List Char) : List Char :=
  let groups := Text.splitOn '_' cs
  if groups.any List.isEmpty then cs else groups.flatten

/-- The longest text of a sign and digits that is read. -/
def longestInteger : Nat := 4300

/-- Whether a text starts with more digits than are read: a sign counts, zeros in front do not. -/
def isOversized (cs : List Char) : Bool :=
  let (sign, body) := match cs with
    | '-' :: rest => (1, rest)
    | rest => (0, rest)
  (match body with
    | c :: _ => isLeading c
    | [] => false) && longestInteger < sign + (body.takeWhile Char.isDigit).length

/-- The text of a number without what may surround it: padding, a plus, zeros in front, a fraction of
zeros and single underscores. -/
def bareInteger (cs : List Char) : Option (List Char) :=
  let cs := match Decimal.unpad cs with
    | '+' :: c :: rest => if c.isDigit then c :: rest else []
    | cs => cs
  (dropZeros cs).map fun cs => dropUnderscores (dropPoint cs)

/-- The characters of a text that is to be read as something else; none of them may be a lone surrogate. -/
def charactersOf (s : String) : Except OptionProblem (List Char) :=
  if s.toList.any Text.isSurrogate then .error .notUnicode else .ok s.toList

/-- A whole number from the characters of a text. -/
def integerOfCharacters (given : List Char) : Except OptionProblem Int :=
  if isOversized given then .error .oversizedInteger else
  match bareInteger given with
  | none => .error .unreadableInteger
  | some cs =>
    let (neg, ds) := match cs with
      | '-' :: rest => (true, rest)
      | rest => (false, rest)
    if ds.isEmpty || !ds.all Char.isDigit || longestInteger < cs.length then
      .error .unreadableInteger
    else .ok (if neg then -(Decimal.ofDigits ds : Int) else Decimal.ofDigits ds)

/-- A whole number from a text. -/
def integerOfText (s : String) : Except OptionProblem Int := (charactersOf s).bind integerOfCharacters

/-- Whole numbers of this size and above are not taken from a double. -/
def doubleLimit : Nat := Nat.pow 2 63

/-- A whole number from a double. -/
def integerOfDouble (x : Binary64) : Except OptionProblem Int :=
  match x.shape with
  | .finite .. => match x.toInt? with
    | some n => if n.natAbs < doubleLimit then .ok n else .error .oversizedInteger
    | none => .error .fraction
  | _ => .error .notFinite

/-- A whole number. -/
def integerOf : Value → Except OptionProblem Int
  | .int n => .ok n
  | .bool b => .ok (if b then 1 else 0)
  | .float x => integerOfDouble x
  | .text s => integerOfText s
  | .bytes bs => match Utf8.decode bs with
    | .ok s => integerOfText s
    | .error _ => .error .unreadableInteger
  | _ => .error .notInteger

/-- The words for off and on. -/
def switchWords : List (String × Bool) :=
  [("0", false), ("off", false), ("f", false), ("false", false), ("n", false), ("no", false),
   ("1", true), ("on", true), ("t", true), ("true", true), ("y", true), ("yes", true)]

/-- A switch from a text. -/
def switchOfText (s : String) : Except OptionProblem Bool := do
  let cs ← charactersOf s
  match switchWords.find? fun w => w.1 = Text.asciiLower (String.ofList cs) with
  | some w => pure w.2
  | none => throw .unreadableSwitch

/-- A switch from a number: zero and one are the switches. -/
def switchOfInteger (n : Int) : Except OptionProblem Bool :=
  if n = 0 then .ok false else if n = 1 then .ok true else .error .unreadableSwitch

/-- A switch; a number that is not in the range of signed words of 64 bits is none. -/
def switchOf : Value → Except OptionProblem Bool
  | .bool b => .ok b
  | .int n =>
    if -(doubleLimit : Int) ≤ n && n < doubleLimit then switchOfInteger n else .error .notSwitch
  | .float x => match integerOfDouble x with
    | .ok n => switchOfInteger n
    | .error _ => .error .notSwitch
  | .text s => switchOfText s
  | .bytes bs => match Utf8.decode bs with
    | .ok s => switchOfText s
    | .error _ => .error .unreadableSwitch
  | _ => .error .notSwitch

/-- A text. -/
def textOf : Value → Except OptionProblem String
  | .text s => .ok s
  | .bytes bs => (Utf8.decode bs).mapError fun _ => .notUnicode
  | _ => .error .notText

/-- A pattern from its text; a refusal that ends the work at hand comes out by itself. -/
def patternOf (s : String) : Except Regex.Refusal (Except OptionProblem Value) :=
  match Regex.read s with
  | .ok _ => .ok (.ok (.text s))
  | .error r => if r.cause.kind.isFatal then .error r else .ok (.error (.badPattern r))

/-- Reads a value of a kind. -/
def read : OptionKind → Value → Except Regex.Refusal (Except OptionProblem Value)
  | positive _, v => .ok (do
    let n ← integerOf v
    if 0 < n then pure (.int n) else throw .notPositive)
  | switch _, v => .ok ((switchOf v).map .bool)
  | pattern _, v =>
    match textOf v with
    | .ok s => patternOf s
    | .error p => .ok (.error p)

end OptionKind

/-! ## 4. Reading options -/

namespace FieldModel

/-- Complaints about an entry that the model has no place for. -/
def stranger (m : FieldModel) (e : Value × Value) : Option FieldComplaint :=
  match e.1 with
  | .text k => if k = m.field then none else some ⟨e.1, .unknown, e.2⟩
  | k => some ⟨k, .badKey, k⟩

/-- The option itself, from a map of options. -/
def value (m : FieldModel) (es : Entries) : Except Regex.Refusal (Except FieldComplaint Value) :=
  match Entries.get? m.field es with
  | none => .ok (.ok m.kind.standard)
  | some v => (m.kind.read v).map fun r => r.mapError fun p => ⟨.text m.field, p, v⟩

/-- Reads a map of options: the one option, or all that is wrong with it.  Complaints about the option come
before those about strangers. -/
def check (m : FieldModel) (es : Entries) : Except Regex.Refusal (Except (List FieldComplaint) Entries) :=
  (m.value es).map fun v =>
    match v, es.filterMap m.stranger with
    | .ok v, [] => .ok [(.text m.field, v)]
    | .ok _, cs => .error cs
    | .error c, cs => .error (c :: cs)

theorem check_nil (m : FieldModel) : m.check [] = .ok (.ok m.defaults) := rfl

/-- What the model says of options that it refuses. -/
def refusal (m : FieldModel) (cs : List FieldComplaint) : OptionRefusal :=
  ⟨cs.map FieldComplaint.complaint, FieldComplaint.report m.name cs⟩

/-- The model as rules have it. -/
def model (m : FieldModel) : OptionModel where
  check es := ((m.check es).mapError .pattern).map fun c => c.mapError m.refusal
  defaults := .ok m.defaults

end FieldModel

end AgentLint
