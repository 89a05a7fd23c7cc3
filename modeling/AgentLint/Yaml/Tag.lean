import AgentLint.Regex.Match
import AgentLint.Regex.Reader

/-!
# Tags, and the tags of plain scalars

The tag of a node says how its text or its children become a value.  A plain scalar without a tag
gets one from its form: the first of a list of forms that its first character admits and its whole
text has, and text otherwise.  The forms are those of version 1.1 of the language: `yes` and `off`
are truth values, `010` is octal, `1:30` has base sixty, and a double needs a point.
-/

namespace AgentLint.Yaml

/-- The tag of a node. -/
inductive Tag where
  /-- No value. -/
  | null
  /-- A truth value. -/
  | bool
  /-- An integer. -/
  | int
  /-- A double. -/
  | float
  /-- Bytes in base 64. -/
  | binary
  /-- A day or a moment. -/
  | timestamp
  /-- A list of pairs whose keys are ordered. -/
  | omap
  /-- A list of pairs. -/
  | pairs
  /-- A set. -/
  | set
  /-- A text. -/
  | str
  /-- A list. -/
  | seq
  /-- A map. -/
  | map
  /-- The key that merges another map in. -/
  | merge
  /-- The key of a map's own value. -/
  | value
  /-- Any other tag; it has no value. -/
  | other (name : String)
  deriving DecidableEq, Repr

/-- What all tags of the language start with. -/
def tagBase : String := "tag:yaml.org,2002:"

/-- The tags by the last part of their names. -/
def knownTags : List (String × Tag) :=
  [("null", .null), ("bool", .bool), ("int", .int), ("float", .float), ("binary", .binary),
   ("timestamp", .timestamp), ("omap", .omap), ("pairs", .pairs), ("set", .set), ("str", .str),
   ("seq", .seq), ("map", .map), ("merge", .merge), ("value", .value)]

/-- The tag of a full name. -/
def Tag.ofName (s : String) : Tag :=
  match knownTags.find? fun e => tagBase ++ e.1 = s with
  | some (_, t) => t
  | none => .other s

/-- A form of plain scalars. -/
structure Form where
  /-- The tag it gives. -/
  tag : Tag
  /-- The first characters it is tried for. -/
  first : List Char
  /-- Whether it is tried for the empty text. -/
  empty : Bool
  /-- The form as an expression for the whole text. -/
  pattern : Option Regex.Pattern

/-- A form from the texts that it admits: each is an expression, and the whole text is one of them. -/
def Form.make (tag : Tag) (first : String) (empty : Bool) (alternatives : List String) : Form :=
  let inner := ['|'].intercalate (alternatives.map String.toList)
  ⟨tag, first.toList, empty, (Regex.readChars ("^(?:".toList ++ inner ++ ")$".toList)).toOption⟩

/-- The forms, in the order in which they are tried. -/
def forms : List Form :=
  [.make .bool "yYnNtTfFoO" false
     ["yes", "Yes", "YES", "no", "No", "NO", "true", "True", "TRUE", "false", "False", "FALSE",
      "on", "On", "ON", "off", "Off", "OFF"],
   .make .float "-+0123456789." false
     ["[-+]?(?:[0-9][0-9_]*)\\.[0-9_]*(?:[eE][-+][0-9]+)?", "\\.[0-9][0-9_]*(?:[eE][-+][0-9]+)?",
      "[-+]?[0-9][0-9_]*(?::[0-5]?[0-9])+\\.[0-9_]*", "[-+]?\\.(?:inf|Inf|INF)",
      "\\.(?:nan|NaN|NAN)"],
   .make .int "-+0123456789" false
     ["[-+]?0b[0-1_]+", "[-+]?0[0-7_]+", "[-+]?(?:0|[1-9][0-9_]*)", "[-+]?0x[0-9a-fA-F_]+",
      "[-+]?[1-9][0-9_]*(?::[0-5]?[0-9])+"],
   .make .merge "<" false ["<<"],
   .make .null "~nN" true ["~", "null", "Null", "NULL", ""],
   .make .timestamp "0123456789" false
     ["[0-9][0-9][0-9][0-9]-[0-9][0-9]-[0-9][0-9]",
      "[0-9][0-9][0-9][0-9]-[0-9][0-9]?-[0-9][0-9]?(?:[Tt]|[ \\t]+)" ++
      "[0-9][0-9]?:[0-9][0-9]:[0-9][0-9](?:\\.[0-9]*)?" ++
      "(?:[ \\t]*(?:Z|[-+][0-9][0-9]?(?::[0-9][0-9])?))?"],
   .make .value "=" false ["="],
   .make (.other (tagBase ++ "yaml")) "!&*" false ["!", "&", "\\*"]]

/-- Whether a form admits a text. -/
def Form.admits (f : Form) (s : String) : Bool :=
  (match s.toList with
    | [] => f.empty
    | c :: _ => f.first.contains c) &&
  (match f.pattern with
    | some p => p.matchesStart s
    | none => false)

/-- The tag of a plain scalar. -/
def plainTag (s : String) : Tag :=
  match forms.find? (·.admits s) with
  | some f => f.tag
  | none => .str

end AgentLint.Yaml
