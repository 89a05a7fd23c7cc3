import AgentLint.Value.Basic

/-!
# Reading records out of values

Stored data may have any shape.  These are the ways to ask a value for a field or for its items, and
what each says when the value is of the wrong kind.
-/

namespace AgentLint

/-! ## 1. Faults of shape -/

/-- Data of the wrong kind where a record was expected. -/
inductive ShapeFault where
  /-- A required field is absent. -/
  | missing (field : String)
  /-- A value that has no items was to be gone through. -/
  | notIterable (kind : String)
  /-- A value that has no fields at all was asked for one. -/
  | notSubscriptable (kind : String)
  /-- A text was asked for a field. -/
  | textIndex
  /-- A list was asked for a field. -/
  | listIndex (kind : String)
  /-- A value without fields was asked for an optional one. -/
  | noGetter (kind : String)
  /-- A list of texts holds something else. -/
  | notText (position : Nat) (kind : String)
  /-- A value that cannot be a key was used as one. -/
  | unhashable (kind : String)
  /-- A number was expected. -/
  | notNumber (kind : String)
  /-- A text that is no number. -/
  | badNumber (text : String)
  /-- A number too large for a double. -/
  | tooLarge
  deriving DecidableEq, Repr

/-- The wording of a fault of shape. -/
def ShapeFault.message : ShapeFault → String
  | missing f => Text.quoted f
  | notIterable k => "'" ++ k ++ "' object is not iterable"
  | notSubscriptable k => "'" ++ k ++ "' object is not subscriptable"
  | textIndex => "string indices must be integers, not 'str'"
  | listIndex k => k ++ " indices must be integers or slices, not str"
  | noGetter k => "'" ++ k ++ "' object has no attribute 'get'"
  | notText i k => "sequence item " ++ toString i ++ ": expected str instance, " ++ k ++ " found"
  | unhashable k => "unhashable type: '" ++ k ++ "'"
  | notNumber k => "float() argument must be a string or a real number, not '" ++ k ++ "'"
  | badNumber t => "could not convert string to float: " ++ Text.quoted t
  | tooLarge => "int too large to convert to float"

/-! ## 2. Fields and items -/

namespace Value

/-- A field that has to be there. -/
def require (k : String) : Value → Except ShapeFault Value
  | .map es => match Entries.get? k es with
    | some v => .ok v
    | none => .error (.missing k)
  | .text _ => .error .textIndex
  | .list vs => .error (.listIndex (Value.list vs).kind)
  | .pair a b => .error (.listIndex (Value.pair a b).kind)
  | v => .error (.notSubscriptable v.kind)

/-- A field that may be absent. -/
def ask (k : String) : Value → Except ShapeFault (Option Value)
  | .map es => .ok (Entries.get? k es)
  | v => .error (.noGetter v.kind)

/-- What one meets when going through a value: the items of a list, the keys of a map, the characters
of a text. -/
def items : Value → Except ShapeFault (List Value)
  | .list vs | .set vs => .ok vs
  | .pair a b => .ok [a, b]
  | .map es => .ok (es.map Prod.fst)
  | .text s => .ok (s.toList.map fun c => .text (String.singleton c))
  | .bytes bs => .ok (bs.map fun b => .int b.toNat)
  | v => .error (.notIterable v.kind)

/-- The same, where whatever counts as false has no items. -/
def itemsOrNone (v : Value) : Except ShapeFault (List Value) := if v.truthy then v.items else .ok []

end Value

end AgentLint
