import AgentLint.Decimal.Integer
import AgentLint.Decimal.Reader
import AgentLint.Text.Lower
import AgentLint.Value.Basic
import AgentLint.Yaml.Lexeme

/-!
# Scalars with a tag

How the text of a scalar becomes a value of its tag.  A text of the right form can still fail to
convert (the thirteenth month, an integer tag on a word); those failures have causes of their own
and are not failures of the YAML text as such.
-/

namespace AgentLint.Yaml

/-- Why a scalar does not convert. -/
inductive ScalarFault where
  /-- Not an integer in the base. -/
  | integer (base : Nat) (text : String)
  /-- An integer with more than 4300 digits. -/
  | tooManyDigits (count : Nat)
  /-- Not a double. -/
  | double (text : String)
  /-- A place of base sixty that is beyond the doubles. -/
  | highPlace
  /-- Not a truth value; the text is in lower case. -/
  | truth (text : String)
  /-- A number without any character. -/
  | emptyNumber
  /-- Not a day or moment at all. -/
  | noTimestamp
  /-- A map where the text of a day or moment is wanted. -/
  | timestampMap
  /-- A year that the calendar lacks. -/
  | year (n : Nat)
  /-- A month that the calendar lacks. -/
  | month
  /-- A day that the month lacks. -/
  | day
  /-- An hour that the day lacks. -/
  | hour
  /-- A minute that the hour lacks. -/
  | minute
  /-- A second that the minute lacks. -/
  | second
  /-- An offset of a day or more. -/
  | offset (minutes : Int)
  /-- An escape for a number that is no code point. -/
  | codePoint
  /-- An escape for a number that is far from any code point. -/
  | hugeCodePoint
  /-- A scalar inside of too many lists and maps. -/
  | tooDeep
  deriving DecidableEq, Repr

/-- The wording of a failure to convert. -/
def ScalarFault.message : ScalarFault → String
  | integer base t =>
    "invalid literal for int() with base " ++ toString base ++ ": " ++
      String.ofList ((Text.quoted t).toList.take 200)
  | tooManyDigits n => Decimal.tooManyDigitsText n
  | double t => "could not convert string to float: " ++ Text.quoted t
  | highPlace => "int too large to convert to float"
  | truth t => Text.quoted t
  | emptyNumber => "string index out of range"
  | noTimestamp => "'NoneType' object has no attribute 'groupdict'"
  | timestampMap => "expected string or bytes-like object, got 'list'"
  | year n => "year " ++ toString n ++ " is out of range"
  | month => "month must be in 1..12"
  | day => "day is out of range for month"
  | hour => "hour must be in 0..23"
  | minute => "minute must be in 0..59"
  | second => "second must be in 0..59"
  | offset m => "offset must be a timedelta strictly between -timedelta(hours=24) and " ++
      "timedelta(hours=24), not " ++ spanLiteral m ++ "."
  | codePoint => "chr() arg not in range(0x110000)"
  | hugeCodePoint => "Python int too large to convert to C int"
  | tooDeep => "maximum recursion depth exceeded"

/-! ## 1. Numbers -/

/-- An integer in a base. -/
def integer (base : Nat) (cs : List Char) : Except ScalarFault Int :=
  match Decimal.readInteger base cs with
  | .ok n => .ok n
  | .error .malformed => .error (.integer base (String.ofList cs))
  | .error (.tooManyDigits n) => .error (.tooManyDigits n)

/-- A sign in front of a number; an empty number is an error. -/
def splitSign (cs : List Char) : Except ScalarFault (Bool × List Char) :=
  match cs with
  | [] => .error .emptyNumber
  | '-' :: r => .ok (true, r)
  | '+' :: r => .ok (false, r)
  | r => .ok (false, r)

/-- Applies a sign. -/
def signed (neg : Bool) (n : Int) : Int := if neg then -n else n

/-- The integer that a scalar stands for: underscores do not count, a leading zero means octal, and
colons separate digits of base sixty. -/
def toInteger (text : String) : Except ScalarFault Int := do
  let cs := text.toList.filter (· ≠ '_')
  let (neg, cs) ← splitSign cs
  let n ← match cs with
    | ['0'] => pure 0
    | '0' :: 'b' :: ds => integer 2 ds
    | '0' :: 'x' :: ds => integer 16 ds
    | '0' :: _ => integer 8 cs
    | [] => throw .emptyNumber
    | _ =>
      if cs.contains ':' then do
        let parts ← (Text.splitOn ':' cs).mapM (integer 10)
        pure (parts.foldl (fun acc d => acc * 60 + d) 0)
      else integer 10 cs
  pure (signed neg n)

/-- Digits of base sixty as a double, the last digit first; `place` is what the next of them counts.  Each
place is rounded to a double before it is multiplied. -/
def ofSixties : (place : Nat) → (acc : Binary64) → List Binary64 → Except ScalarFault Binary64
  | _, acc, [] => .ok acc
  | place, acc, d :: rest =>
    match (Binary64.ofInt place).shape with
    | .inf _ => .error .highPlace
    | _ => ofSixties (place * 60) (acc.add (d.mul (Binary64.ofInt place))) rest

/-- The double that a scalar stands for: underscores do not count and colons separate digits of base
sixty.  A result that is not a number is the common one only where it is written `.nan`; others are told
apart by `serial`. -/
def toDouble (serial : Nat) (text : String) : Except ScalarFault Binary64 := do
  let cs := Text.lower (text.toList.filter (· ≠ '_'))
  let (neg, cs) ← splitSign cs
  let part (ds : List Char) : Except ScalarFault Binary64 :=
    match Decimal.read? ds with
    | some x => .ok x
    | none => .error (.double (String.ofList ds))
  if cs = ".inf".toList then pure (.inf neg)
  else if cs = ".nan".toList then pure .nan
  else
    let x ←
      if cs.contains ':' then do
        let parts ← (Text.splitOn ':' cs).mapM part
        ofSixties 1 (.zero false) parts.reverse
      else part cs
    match x.shape with
    | .nan => pure (.nanNumbered serial)
    | _ => pure (if neg then x.negate else x)

/-! ## 2. Truth values -/

/-- The words for truth values, in lower case. -/
def truthWords : List (String × Bool) :=
  [("yes", true), ("no", false), ("true", true), ("false", false), ("on", true), ("off", false)]

/-- The truth value that a scalar stands for. -/
def toTruth (text : String) : Except ScalarFault Bool :=
  let word := String.ofList (Text.lower text.toList)
  match truthWords.find? fun e => e.1 = word with
  | some (_, b) => .ok b
  | none => .error (.truth word)

/-! ## 3. Days and moments -/

/-- A day, if the calendar has it. -/
def checkDay (y m d : Nat) : Except ScalarFault Day :=
  if y < 1 then .error (.year y)
  else if m < 1 || 12 < m then .error .month
  else if d < 1 || Calendar.daysIn y m < d then .error .day
  else .ok ⟨y, m, d⟩

/-- One or two digits. -/
def short? (cs : List Char) : Option (Nat × List Char) :=
  match cs with
  | a :: b :: rest =>
    if a.isDigit && b.isDigit then some (Decimal.ofDigits [a, b], rest)
    else if a.isDigit then some (Decimal.ofDigits [a], b :: rest)
    else none
  | [a] => if a.isDigit then some (Decimal.ofDigits [a], []) else none
  | [] => none

/-- Exactly `n` digits. -/
def exactly? (n : Nat) (cs : List Char) : Option (Nat × List Char) :=
  let ds := cs.take n
  if ds.length = n && ds.all Char.isDigit then some (Decimal.ofDigits ds, cs.drop n) else none

/-- One character. -/
def mark? (c : Char) : List Char → Option (List Char)
  | [] => none
  | a :: rest => if a = c then some rest else none

/-- The fields of a moment before they are checked. -/
structure Clock where
  /-- The hour. -/
  hour : Nat
  /-- The minute. -/
  minute : Nat
  /-- The second. -/
  second : Nat
  /-- Millionths of a second. -/
  micro : Nat
  /-- Minutes east of universal time. -/
  offset : Option Int

/-- The first six digits of a fraction as millionths. -/
def toMicro (ds : List Char) : Nat :=
  let ds := ds.take 6
  Decimal.ofDigits (ds ++ List.replicate (6 - ds.length) '0')

/-- The offset at the end of a moment. -/
def offset? (cs : List Char) : Option (Option Int) :=
  match cs.dropWhile fun c => c = ' ' || c = '\t' with
  | [] => if cs.isEmpty then some none else none
  | ['Z'] => some (some 0)
  | s :: rest =>
    if s = '+' || s = '-' then do
      let (h, rest) ← short? rest
      let m ← match rest with
        | [] => some 0
        | rest => do
          let rest ← mark? ':' rest
          let (m, rest) ← exactly? 2 rest
          if rest.isEmpty then some m else none
      let total : Int := h * 60 + m
      some (some (if s = '-' then -total else total))
    else none

/-- The time of day after a date: a `T` or blanks, hour, minute, second, fraction, offset. -/
def clock? (cs : List Char) : Option Clock := do
  let rest ← match cs with
    | c :: rest =>
      if c = 'T' || c = 't' then some rest
      else if c = ' ' || c = '\t' then some (rest.dropWhile fun c => c = ' ' || c = '\t')
      else none
    | [] => none
  let (h, rest) ← short? rest
  let rest ← mark? ':' rest
  let (m, rest) ← exactly? 2 rest
  let rest ← mark? ':' rest
  let (s, rest) ← exactly? 2 rest
  let (fs, rest) := match rest with
    | '.' :: r => Decimal.spanDigits r
    | r => ([], r)
  let o ← offset? rest
  some ⟨h, m, s, toMicro fs, o⟩

/-- The characters without a line feed at their end. -/
def dropLineFeed (cs : List Char) : List Char :=
  if cs.getLast? = some '\n' then cs.dropLast else cs

/-- A day or a moment; a line feed may follow. -/
def toTimestamp (text : String) : Except ScalarFault Value :=
  let date : Option (Nat × Nat × Nat × List Char) := do
    let (y, rest) ← exactly? 4 (dropLineFeed text.toList)
    let rest ← mark? '-' rest
    let (m, rest) ← short? rest
    let rest ← mark? '-' rest
    let (d, rest) ← short? rest
    some (y, m, d, rest)
  match date with
  | none => .error .noTimestamp
  | some (y, m, d, rest) =>
    if rest.isEmpty then (checkDay y m d).map .day
    else
      match clock? rest with
      | none => .error .noTimestamp
      | some k => do
        if let some o := k.offset then
          if 24 * 60 ≤ o.natAbs then throw (.offset o)
        let day ← checkDay y m d
        if 23 < k.hour then throw .hour
        if 59 < k.minute then throw .minute
        if 59 < k.second then throw .second
        pure (.moment ⟨day, k.hour, k.minute, k.second, k.micro, k.offset⟩)

/-! ## 4. Bytes -/

/-- The value of a character of base 64. -/
def sixBits? (c : Char) : Option Nat :=
  if c.isUpper then some (c.toNat - 65)
  else if c.isLower then some (c.toNat - 71)
  else if c.isDigit then some (c.toNat + 4)
  else if c = '+' then some 62
  else if c = '/' then some 63
  else none

/-- Decodes base 64: other characters are skipped, and padding in its place ends the data.  `quad`
counts the characters of the current group of four, `left` holds its bits. -/
def base64 : (quad : Nat) → (left : Nat) → (pads : Nat) → (acc : List UInt8) → List Char →
    Option (List UInt8)
  | quad, _, _, acc, [] => if quad = 0 then some acc.reverse else none
  | quad, left, pads, acc, c :: rest =>
    if c = '=' then
      if 2 ≤ quad && 4 ≤ quad + (pads + 1) then some acc.reverse
      else base64 quad left (pads + 1) acc rest
    else
      match sixBits? c with
      | none => base64 quad left pads acc rest
      | some v =>
        match quad with
        | 0 => base64 1 v 0 acc rest
        | 1 => base64 2 (v % 16) 0 (UInt8.ofNat (left * 4 + v / 16) :: acc) rest
        | 2 => base64 3 (v % 4) 0 (UInt8.ofNat (left * 16 + v / 4) :: acc) rest
        | _ => base64 0 0 0 (UInt8.ofNat (left * 64 + v) :: acc) rest

/-- The bytes that a scalar stands for; `none` if it is not base 64. -/
def toBytes? (text : String) : Option (List UInt8) :=
  if text.toList.all fun c => c.toNat < 128 then base64 0 0 0 [] text.toList else none

end AgentLint.Yaml
