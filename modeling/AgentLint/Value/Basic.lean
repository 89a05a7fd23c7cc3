import AgentLint.Decimal.Integer
import AgentLint.Decimal.Layout
import AgentLint.Text.Quoted
import AgentLint.Value.Calendar

/-!
# Documents as values

What a configuration file, a frontmatter block or a settings file holds once it is read: scalars,
lists and maps, with maps in the order in which their keys were first written.  Maps may have keys
of any scalar kind.

Two texts belong to a value.  `Value.literal` is unambiguous and nests: texts are quoted in it.
`Value.display` is the same except at the top, where a text, a day or a moment stands bare; messages
use it.
-/

namespace AgentLint

/-- A document. -/
inductive Value where
  /-- No value. -/
  | null
  /-- A truth value. -/
  | bool (b : Bool)
  /-- An integer of any size. -/
  | int (n : Int)
  /-- A double. -/
  | float (x : Binary64)
  /-- A text. -/
  | text (s : String)
  /-- Raw bytes. -/
  | bytes (bs : List UInt8)
  /-- A day. -/
  | day (d : Day)
  /-- A moment. -/
  | moment (m : Moment)
  /-- A list. -/
  | list (vs : List Value)
  /-- One entry of an ordered map that is kept as a list. -/
  | pair (k v : Value)
  /-- A set of scalars. -/
  | set (vs : List Value)
  /-- A map, in order of first insertion. -/
  | map (es : List (Value × Value))
  /-- A place where a list or map holds itself; `isMap` says which of the two it is. -/
  | loop (isMap : Bool)
  deriving Inhabited

/-- The entries of a map. -/
abbrev Entries := List (Value × Value)

namespace Value

/-! ## 1. Kinds -/

/-- The name of a value's kind in messages. -/
def kind : Value → String
  | null => "NoneType"
  | bool _ => "bool"
  | int _ => "int"
  | float _ => "float"
  | text _ => "str"
  | bytes _ => "bytes"
  | day _ => "date"
  | moment _ => "datetime"
  | list _ => "list"
  | pair _ _ => "tuple"
  | set _ => "set"
  | map _ => "dict"
  | loop isMap => if isMap then "dict" else "list"

/-- Null, false, zero and whatever is empty count as false; all else as true. -/
def truthy : Value → Bool
  | null => false
  | bool b => b
  | int n => n != 0
  | float x => !x.isZero
  | text s => !s.isEmpty
  | bytes bs => !bs.isEmpty
  | day _ | moment _ => true
  | list vs => !vs.isEmpty
  | pair _ _ => true
  | set vs => !vs.isEmpty
  | map es => !es.isEmpty
  | loop _ => true

/-- Only scalars can be keys of a map or members of a set. -/
def isScalar : Value → Bool
  | list _ | set _ | map _ | loop _ => false
  | pair _ _ => false
  | _ => true

/-- The text, if the value is one. -/
def text? : Value → Option String
  | text s => some s
  | _ => none

/-- The list, if the value is one. -/
def list? : Value → Option (List Value)
  | list vs => some vs
  | _ => none

/-- The entries, if the value is a map. -/
def map? : Value → Option Entries
  | map es => some es
  | _ => none

/-- An optional text as a value. -/
def ofText? : Option String → Value
  | none => null
  | some s => text s

/-- An optional integer as a value. -/
def ofInt? : Option Int → Value
  | none => null
  | some n => int n

/-! ## 2. Equality of keys -/

/-- The number a scalar stands for: false and true count as zero and one. -/
def number? : Value → Option Binary64.Shape
  | bool b => some (.finite false (if b then 1 else 0) 0)
  | int n => some (.finite (n < 0) n.natAbs 0)
  | float x => some x.shape
  | _ => none

/-- Equality of two numbers, whatever their kind. -/
def sameNumber : Binary64.Shape → Binary64.Shape → Bool
  | .inf a, .inf b => a == b
  | .finite na ma ea, .finite nb mb eb =>
    let (n₁, d₁) := Binary64.magnitude ma ea
    let (n₂, d₂) := Binary64.magnitude mb eb
    (n₁ == 0 && n₂ == 0) || (na == nb && n₁ * d₂ == n₂ * d₁)
  | _, _ => false

/-- Equality of map keys: by content, numbers of any kind by their number.  A double that is not a number
equals those with the same bits. -/
def sameKey (a b : Value) : Bool :=
  match a, b with
  | null, null => true
  | text s, text t => s == t
  | bytes s, bytes t => s == t
  | day s, day t => s == t
  | moment s, moment t => s.same t
  | float x, float y => x == y || sameNumber x.shape y.shape
  | a, b =>
    match number? a, number? b with
    | some x, some y => sameNumber x y
    | _, _ => false

/-! ## 3. Texts -/

mutual
/-- The unambiguous text of a value. -/
def literal : Value → String
  | null => "None"
  | bool b => if b then "True" else "False"
  | int n => toString n
  | float x => Decimal.render x
  | text s => Text.quoted s
  | bytes bs => Text.quotedBytes bs
  | day d => d.literal
  | moment m => m.literal
  | list vs => "[" ++ literalItems vs ++ "]"
  | pair k v => "(" ++ literal k ++ ", " ++ literal v ++ ")"
  | set vs => match vs with
    | [] => "set()"
    | vs => "\x7b" ++ literalItems vs ++ "\x7d"
  | map es => "\x7b" ++ literalEntries es ++ "\x7d"
  | loop isMap => if isMap then "\x7b...\x7d" else "[...]"

/-- Items, separated by a comma and a blank. -/
def literalItems : List Value → String
  | [] => ""
  | [v] => literal v
  | v :: vs => literal v ++ ", " ++ literalItems vs

/-- Entries, separated by a comma and a blank. -/
def literalEntries : List (Value × Value) → String
  | [] => ""
  | [(k, v)] => literal k ++ ": " ++ literal v
  | (k, v) :: es => literal k ++ ": " ++ literal v ++ ", " ++ literalEntries es
end

/-- The text of a value in a message. -/
def display : Value → String
  | text s => s
  | day d => d.text
  | moment m => m.textWith " "
  | v => v.literal

mutual
/-- Whether a value can be shown: it holds no integer with more digits than are written. -/
def isShowable : Value → Bool
  | int n => !Decimal.isUnwritable n
  | list vs | set vs => areShowable vs
  | pair k v => isShowable k && isShowable v
  | map es => haveShowable es
  | _ => true

/-- Whether all of some values can be shown. -/
def areShowable : List Value → Bool
  | [] => true
  | v :: vs => isShowable v && areShowable vs

/-- Whether all of some entries can be shown. -/
def haveShowable : List (Value × Value) → Bool
  | [] => true
  | (k, v) :: es => isShowable k && isShowable v && haveShowable es
end

/-- The text of a value in a message, if it can be shown. -/
def display? (v : Value) : Option String := if v.isShowable then some v.display else none

end Value

/-! ## 4. Maps -/

namespace Entries

/-- The value at a key. -/
def find? (k : Value) : Entries → Option Value
  | [] => none
  | (k', v) :: es => if k'.sameKey k then some v else find? k es

/-- The value at a text key. -/
def get? (k : String) (es : Entries) : Option Value := find? (.text k) es

/-- The value at a text key, null if it is absent. -/
def get (k : String) (es : Entries) : Value := (get? k es).getD .null

/-- Whether a text key is present. -/
def has (k : String) (es : Entries) : Bool := (get? k es).isSome

/-- Writes a value: in place if the key is present, at the end otherwise. -/
def put (k v : Value) : Entries → Entries
  | [] => [(k, v)]
  | (k', v') :: es => if k'.sameKey k then (k', v) :: es else (k', v') :: put k v es

/-- A map with text keys. -/
def ofFields (fs : List (String × Value)) : Value := .map (fs.map fun f => (.text f.1, f.2))

end Entries

end AgentLint
