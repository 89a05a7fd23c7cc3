import AgentLint.Order
import AgentLint.Value.Basic

/-!
# Writing JSON

`Json.write` puts a value on one line, with a blank after commas and colons; `Json.writePretty`
spreads it over lines indented by two blanks.  Both write ASCII only.  Keys that are not texts are
written as the text of their value.  With sorted keys, keys of kinds that have no common order are
refused, and so is any value that JSON has no form for: the first such problem in writing order is
the one reported.
-/

namespace AgentLint.Json

/-- Why a value cannot be written. -/
inductive Unwritable where
  /-- A value of a kind that JSON lacks. -/
  | kind (name : String)
  /-- A key of a kind that cannot be made a text. -/
  | key (name : String)
  /-- Two keys without a common order. -/
  | order (left right : String)
  /-- A moment with an offset beside one without, as keys. -/
  | offsets
  /-- A moment beside a day, as keys. -/
  | dayAndMoment
  /-- A list or map that holds itself. -/
  | cycle
  /-- An integer with more digits than are written. -/
  | number
  deriving DecidableEq, Repr

/-- The wording of a refusal to write. -/
def Unwritable.message : Unwritable → String
  | kind n => "Object of type " ++ n ++ " is not JSON serializable"
  | key n => "keys must be str, int, float, bool or None, not " ++ n
  | order a b => "'<' not supported between instances of '" ++ a ++ "' and '" ++ b ++ "'"
  | offsets => "can't compare offset-naive and offset-aware datetimes"
  | dayAndMoment => "can't compare datetime.datetime to datetime.date"
  | cycle => "Circular reference detected"
  | number => Decimal.unwritableText

/-! ## 1. Scalars -/

/-- A code unit as an escape. -/
def unitEscape (u : Nat) : List Char := '\\' :: 'u' :: Text.hex 4 u

/-- One character inside a JSON string. -/
def escapeChar (c : Char) : List Char :=
  let n := Text.codeOf c
  if c = '"' then ['\\', '"']
  else if c = '\\' then ['\\', '\\']
  else if c = '\n' then ['\\', 'n']
  else if c = '\r' then ['\\', 'r']
  else if c = '\t' then ['\\', 't']
  else if n = 8 then ['\\', 'b']
  else if n = 12 then ['\\', 'f']
  else if 32 ≤ n && n ≤ 126 then [c]
  else if n < 0x10000 then unitEscape n
  else unitEscape (0xD800 + (n - 0x10000) / 0x400) ++ unitEscape (0xDC00 + (n - 0x10000) % 0x400)

/-- A JSON string. -/
def quote (s : String) : String := String.ofList ('"' :: s.toList.flatMap escapeChar ++ ['"'])

/-- The text of a double. -/
def floatText (x : Binary64) : String :=
  match x.shape with
  | .nan => "NaN"
  | .inf neg => if neg then "-Infinity" else "Infinity"
  | .finite .. => Decimal.render x

/-- The text of an integer. -/
def integerText (n : Int) : Except Unwritable String :=
  if Decimal.isUnwritable n then .error .number else .ok (toString n)

/-- The full name of a kind. -/
def kindName : Value → String
  | .day _ => "datetime.date"
  | .moment _ => "datetime.datetime"
  | v => v.kind

/-- The text of a key; `name` says how a kind is called. -/
def keyText (name : Value → String) : Value → Except Unwritable String
  | .text s => .ok (quote s)
  | .null => .ok (quote "null")
  | .bool b => .ok (quote (if b then "true" else "false"))
  | .int n => (integerText n).map quote
  | .float x => .ok (quote (floatText x))
  | v => .error (.key (name v))

/-! ## 2. The order of keys -/

/-- Comparison of two numbers. -/
def numberLess : Binary64.Shape → Binary64.Shape → Bool
  | .nan, _ | _, .nan => false
  | .inf a, .inf b => a && !b
  | .inf a, _ => a
  | _, .inf b => !b
  | .finite na ma ea, .finite nb mb eb =>
    let (n₁, d₁) := Binary64.magnitude ma ea
    let (n₂, d₂) := Binary64.magnitude mb eb
    let x : Int := (n₁ * d₂ : Nat)
    let y : Int := (n₂ * d₁ : Nat)
    (if na then -x else x) < (if nb then -y else y)

/-- The order of two keys: texts by code points, numbers by size, bytes, days and moments each
among themselves. -/
def keyLess (a b : Value) : Except Unwritable Bool :=
  match a, b with
  | .text s, .text t => .ok (decide (s.toList.map Text.codeOf < t.toList.map Text.codeOf))
  | .bytes s, .bytes t => .ok (decide (s.map UInt8.toNat < t.map UInt8.toNat))
  | .day s, .day t => .ok (s.text < t.text)
  | .moment s, .moment t =>
    if s.offset.isSome == t.offset.isSome then .ok (s.instant < t.instant)
    else .error .offsets
  | .day _, .moment _ | .moment _, .day _ => .error .dayAndMoment
  | a, b =>
    match a.number?, b.number? with
    | some x, some y => .ok (numberLess x y)
    | _, _ => .error (.order (kindName a) (kindName b))

/-! ## 3. Layout -/

/-- How a value is laid out. -/
structure Layout where
  /-- Blanks per level of nesting; everything on one line if absent. -/
  indent : Option Nat
  /-- Whether the keys of a map are sorted. -/
  sorted : Bool

/-- What stands before the item at a level of nesting. -/
def Layout.newline (l : Layout) (level : Nat) : String :=
  match l.indent with
  | none => ""
  | some n => String.ofList ('\n' :: List.replicate (n * level) ' ')

/-- Wraps the items of a list or map, which stand one level deeper than `level`. -/
def Layout.wrap (l : Layout) (level : Nat) (left right : String) (items : List String) : String :=
  if items.isEmpty then left ++ right
  else
    let sep := match l.indent with
      | none => ", "
      | some _ => "," ++ l.newline (level + 1)
    left ++ l.newline (level + 1) ++ sep.intercalate items ++ l.newline level ++ right

/-- How the kind of a key is called: in full on one line, in short otherwise. -/
def Layout.keyName (l : Layout) (v : Value) : String :=
  if l.indent.isSome then v.kind else kindName v

/-- The items of a map once each is written, in the order that the layout asks for. -/
def Layout.arrange (l : Layout) (es : List (Value × Except Unwritable String)) :
    Except Unwritable (List String) := do
  let es ← if l.sorted then Order.sortM (fun a b => keyLess a.1 b.1) es else pure es
  es.mapM Prod.snd

mutual
/-- Writes a value whose items stand one level deeper than `level`. -/
def Layout.writeAt (l : Layout) (level : Nat) : Value → Except Unwritable String
  | .null => .ok "null"
  | .bool b => .ok (if b then "true" else "false")
  | .int n => integerText n
  | .float x => .ok (floatText x)
  | .text s => .ok (quote s)
  | .list vs => (l.writeItems (level + 1) vs).map (l.wrap level "[" "]")
  | .pair k v => do
    let kt ← l.writeAt (level + 1) k
    let vt ← l.writeAt (level + 1) v
    pure (l.wrap level "[" "]" [kt, vt])
  | .map es => (l.arrange (l.writeEntries (level + 1) es)).map (l.wrap level "\x7b" "\x7d")
  | .loop _ => .error .cycle
  | v => .error (.kind v.kind)

/-- Writes the items of a list. -/
def Layout.writeItems (l : Layout) (level : Nat) : List Value → Except Unwritable (List String)
  | [] => .ok []
  | v :: vs => do
    let s ← l.writeAt level v
    let ss ← l.writeItems level vs
    pure (s :: ss)

/-- Writes the entries of a map, each by itself. -/
def Layout.writeEntries (l : Layout) (level : Nat) :
    List (Value × Value) → List (Value × Except Unwritable String)
  | [] => []
  | (k, v) :: es =>
    let written := l.writeAt level v
    (k, (keyText l.keyName k).bind fun kt => written.map fun vt => kt ++ ": " ++ vt) ::
      l.writeEntries level es
end

/-- On one line, keys as they come. -/
def write (v : Value) : Except Unwritable String := Layout.writeAt ⟨none, false⟩ 0 v

/-- On one line, keys sorted. -/
def writeSorted (v : Value) : Except Unwritable String := Layout.writeAt ⟨none, true⟩ 0 v

/-- Over several lines, keys as they come. -/
def writePretty (v : Value) : Except Unwritable String := Layout.writeAt ⟨some 2, false⟩ 0 v

end AgentLint.Json
