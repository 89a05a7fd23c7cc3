import AgentLint.Decimal.Reader
import AgentLint.Value.Basic

/-!
# Reading JSON

`Json.read` accepts JSON with three extensions: `NaN`, `Infinity` and `-Infinity` are numbers.  A
repeated key keeps its first place and its last value.  Integers are exact and unbounded up to
4300 digits; a number with a fraction or an exponent is a double.

A text that is refused gives a `Malformed`: what was expected, and where, as line, column and
offset.  The reader works on what is left of the text, so a place is a remainder; it is turned into
line, column and offset only when a complaint is made.
-/

namespace AgentLint.Json

/-! ## 1. Complaints -/

/-- What is wrong with a text. -/
inductive Complaint where
  /-- It starts with a byte order mark. -/
  | byteOrderMark
  /-- No value starts here. -/
  | value
  /-- Something follows the value. -/
  | extra
  /-- No quoted key starts here. -/
  | propertyName
  /-- The colon after a key is missing. -/
  | colon
  /-- The comma between two items is missing. -/
  | comma
  /-- The text ends inside a string; the place is where the string starts. -/
  | unterminated
  /-- A control character stands in a string. -/
  | control
  /-- A backslash is followed by a character that makes no escape. -/
  | escape
  /-- A numeric escape lacks its four hexadecimal digits. -/
  | numericEscape
  deriving DecidableEq, Repr

/-- The wording of a complaint. -/
def Complaint.text : Complaint → String
  | byteOrderMark => "Unexpected UTF-8 BOM (decode using utf-8-sig)"
  | value => "Expecting value"
  | extra => "Extra data"
  | propertyName => "Expecting property name enclosed in double quotes"
  | colon => "Expecting ':' delimiter"
  | comma => "Expecting ',' delimiter"
  | unterminated => "Unterminated string starting at"
  | control => "Invalid control character at"
  | escape => "Invalid \\escape"
  | numericEscape => "Invalid \\uXXXX escape"

/-- A complaint and its place: line and column count from one, the offset from zero. -/
structure Malformed where
  /-- What is wrong. -/
  complaint : Complaint
  /-- The line. -/
  line : Nat
  /-- The column. -/
  column : Nat
  /-- The offset in characters. -/
  offset : Nat
  deriving DecidableEq, Repr

/-- The complaint with its place. -/
def Malformed.message (m : Malformed) : String :=
  m.complaint.text ++ ": line " ++ toString m.line ++ " column " ++ toString m.column ++
    " (char " ++ toString m.offset ++ ")"

/-- Why a text is not read. -/
inductive Refusal where
  /-- It is not JSON. -/
  | malformed (m : Malformed)
  /-- It holds an integer with more digits than are read. -/
  | tooManyDigits (count : Nat)
  /-- Lists and maps are nested too deeply; `isMap` tells what the innermost one is. -/
  | tooDeep (isMap : Bool)
  deriving DecidableEq, Repr

/-- The wording of a refusal. -/
def Refusal.message : Refusal → String
  | malformed m => m.message
  | tooManyDigits n => Decimal.tooManyDigitsText n
  | tooDeep isMap => "maximum recursion depth exceeded while decoding a JSON " ++
      (if isMap then "object" else "array") ++ " from a unicode string"

/-- A refusal whose place is still a remainder of the text. -/
inductive Stop where
  /-- A complaint about what starts `rest`. -/
  | at (c : Complaint) (rest : List Char)
  /-- An integer that is too long. -/
  | digits (count : Nat)
  /-- A list or map that is too deep inside of others. -/
  | deep (isMap : Bool)

/-- The place of a remainder of `whole`. -/
def locate (whole : List Char) (c : Complaint) (rest : List Char) : Malformed :=
  let offset := whole.length - rest.length
  let before := whole.take offset
  let line := before.count '\n'
  let column := (before.reverse.takeWhile (· ≠ '\n')).length
  ⟨c, line + 1, column + 1, offset⟩

/-- Finds the place of a stop. -/
def Stop.settle (whole : List Char) : Stop → Refusal
  | .at c rest => .malformed (locate whole c rest)
  | .digits n => .tooManyDigits n
  | .deep isMap => .tooDeep isMap

/-! ## 2. Scalars -/

/-- The four blanks of JSON. -/
def isSpace (c : Char) : Bool := c = ' ' || c = '\t' || c = '\n' || c = '\r'

/-- Drops leading blanks. -/
def skip (cs : List Char) : List Char := cs.dropWhile isSpace

/-- The value of a hexadecimal digit. -/
def hexDigit? (c : Char) : Option Nat :=
  if c.isDigit then some (c.toNat - 48)
  else if 'a' ≤ c && c ≤ 'f' then some (c.toNat - 87)
  else if 'A' ≤ c && c ≤ 'F' then some (c.toNat - 55)
  else none

/-- Four hexadecimal digits, which must not be the last characters of the text. -/
def unit? : List Char → Option (Nat × List Char)
  | a :: b :: c :: d :: e :: rest => do
    let a ← hexDigit? a
    let b ← hexDigit? b
    let c ← hexDigit? c
    let d ← hexDigit? d
    some (((a * 16 + b) * 16 + c) * 16 + d, e :: rest)
  | _ => none

/-- The character of a one-letter escape. -/
def shortEscape? (c : Char) : Option Char :=
  match c with
  | '"' => some '"'
  | '\\' => some '\\'
  | '/' => some '/'
  | 'b' => some (Char.ofNat 8)
  | 'f' => some (Char.ofNat 12)
  | 'n' => some '\n'
  | 'r' => some '\r'
  | 't' => some '\t'
  | _ => none

/-- The character that a numeric escape stands for, given what follows `\u`, and what is left.  Two
escapes that make a surrogate pair are one character. -/
def numericEscape (afterMark : List Char) : Except Stop (Char × List Char) :=
  match unit? afterMark with
  | none => .error (.at .numericEscape ('u' :: afterMark))
  | some (u, rest) =>
    if 0xD800 ≤ u && u ≤ 0xDBFF then
      match rest with
      | '\\' :: 'u' :: more =>
        if more.length < 5 then .ok (Text.ofCode u, rest)
        else
          match unit? more with
          | none => .error (.at .numericEscape ('u' :: more))
          | some (v, rest') =>
            if 0xDC00 ≤ v && v ≤ 0xDFFF then
              .ok (Char.ofNat (0x10000 + (u - 0xD800) * 0x400 + (v - 0xDC00)), rest')
            else .ok (Text.ofCode u, rest)
      | _ => .ok (Text.ofCode u, rest)
    else .ok (Text.ofCode u, rest)

/-- The rest of a string after its opening quote, which is the head of `start`.  `fuel` bounds the
number of characters. -/
def stringBody (start : List Char) : (fuel : Nat) → (acc : List Char) → List Char →
    Except Stop (String × List Char)
  | 0, _, _ => .error (.at .unterminated start)
  | fuel + 1, acc, cs =>
    match cs with
    | [] => .error (.at .unterminated start)
    | '"' :: rest => .ok (String.ofList acc.reverse, rest)
    | '\\' :: 'u' :: rest =>
      match numericEscape rest with
      | .error e => .error e
      | .ok (c, rest') => stringBody start fuel (c :: acc) rest'
    | '\\' :: c :: rest =>
      match shortEscape? c with
      | some e => stringBody start fuel (e :: acc) rest
      | none => .error (.at .escape ('\\' :: c :: rest))
    | '\\' :: [] => .error (.at .unterminated start)
    | c :: rest =>
      if c.toNat < 32 then .error (.at .control (c :: rest)) else stringBody start fuel (c :: acc) rest

/-- A string whose opening quote heads `cs`. -/
def readString (cs : List Char) : Except Stop (String × List Char) :=
  stringBody cs (cs.length + 1) [] (cs.drop 1)

/-- The whole part of a number: a zero, or digits that start with another one. -/
def whole? (cs : List Char) : Option (List Char × List Char) :=
  match cs with
  | '0' :: rest => some (['0'], rest)
  | c :: _ => if c.isDigit then some (Decimal.spanDigits cs) else none
  | [] => none

/-- A number; `none` if none starts here. -/
def readNumber (cs : List Char) : Option (Except Stop (Value × List Char)) :=
  let (neg, body) := match cs with
    | '-' :: r => (true, r)
    | r => (false, r)
  match whole? body with
  | none => none
  | some (ds, rest) =>
    let frac := Decimal.fraction? rest
    let afterFrac := (frac.map Prod.snd).getD rest
    let expo := Decimal.exponent? afterFrac
    let afterExpo := (expo.map Prod.snd).getD afterFrac
    if frac.isNone && expo.isNone then
      if Decimal.mostDigits < ds.length then some (.error (.digits ds.length))
      else
        let n : Int := Decimal.ofDigits ds
        some (.ok (.int (if neg then -n else n), rest))
    else
      let fs := (frac.map Prod.fst).getD []
      let e := (expo.map Prod.fst).getD 0
      some (.ok (.float (Binary64.ofDecimal neg (Decimal.ofDigits (ds ++ fs)) (e - fs.length)), afterExpo))

/-- The words of JSON and their values. -/
def words : List (List Char × Value) :=
  [("null".toList, .null), ("true".toList, .bool true), ("false".toList, .bool false),
   ("NaN".toList, .float .nan), ("Infinity".toList, .float (.inf false)),
   ("-Infinity".toList, .float (.inf true))]

/-- A word at the start of the text. -/
def readWord (cs : List Char) : Option (Value × List Char) :=
  words.findSome? fun (w, v) => if w.isPrefixOf cs then some (v, cs.drop w.length) else none

/-! ## 3. Values -/

/-- How many calls can be nested; every list and every map takes one. -/
def deepest : Nat := 1000

/-- How many of them are taken where a text is read, unless it is read deep inside of something else. -/
def inUse : Nat := 25

mutual
/-- One value at the start of the text; `depth` counts the calls around it. -/
def readValue : (fuel depth : Nat) → List Char → Except Stop (Value × List Char)
  | 0, _, cs => .error (.at .value cs)
  | fuel + 1, depth, cs =>
    match cs with
    | '"' :: _ => (readString cs).map fun (s, rest) => (.text s, rest)
    | '[' :: rest =>
      if deepest ≤ depth then .error (.deep false)
      else
        match skip rest with
        | ']' :: rest' => .ok (.list [], rest')
        | rest' => readItems fuel (depth + 1) [] rest'
    | '\x7b' :: rest =>
      if deepest ≤ depth then .error (.deep true)
      else
        match skip rest with
        | '\x7d' :: rest' => .ok (.map [], rest')
        | rest' => readMembers fuel (depth + 1) [] rest'
    | cs =>
      match readWord cs with
      | some r => .ok r
      | none => (readNumber cs).getD (.error (.at .value cs))

/-- The items of a list up to its bracket; `acc` holds those read, last first. -/
def readItems : (fuel depth : Nat) → (acc : List Value) → List Char →
    Except Stop (Value × List Char)
  | 0, _, _, cs => .error (.at .value cs)
  | fuel + 1, depth, acc, cs =>
    match readValue fuel depth cs with
    | .error e => .error e
    | .ok (v, rest) =>
      match skip rest with
      | ']' :: rest' => .ok (.list (v :: acc).reverse, rest')
      | ',' :: rest' => readItems fuel depth (v :: acc) (skip rest')
      | rest' => .error (.at .comma rest')

/-- The members of a map up to its brace; `acc` holds those read, in order. -/
def readMembers : (fuel depth : Nat) → (acc : Entries) → List Char →
    Except Stop (Value × List Char)
  | 0, _, _, cs => .error (.at .value cs)
  | fuel + 1, depth, acc, cs =>
    match cs with
    | '"' :: _ =>
      match readString cs with
      | .error e => .error e
      | .ok (k, rest) =>
        match skip rest with
        | ':' :: rest' =>
          match readValue fuel depth (skip rest') with
          | .error e => .error e
          | .ok (v, rest'') =>
            let acc := Entries.put (.text k) v acc
            match skip rest'' with
            | '\x7d' :: rest₃ => .ok (.map acc, rest₃)
            | ',' :: rest₃ => readMembers fuel depth acc (skip rest₃)
            | rest₃ => .error (.at .comma rest₃)
        | rest' => .error (.at .colon rest')
    | cs => .error (.at .propertyName cs)
end

/-- Reads a whole text where so many calls are taken.  Every step of the reader consumes a character, so
twice the length is more fuel than it can use. -/
def readChars (around : Nat) (cs : List Char) : Except Stop Value :=
  match cs with
  | '\uFEFF' :: _ => .error (.at .byteOrderMark cs)
  | cs =>
    match readValue (2 * cs.length + 2) around (skip cs) with
    | .error e => .error e
    | .ok (v, rest) =>
      match skip rest with
      | [] => .ok v
      | rest' => .error (.at .extra rest')

/-- Reads a JSON text where so many calls are taken. -/
def readInside (around : Nat) (s : String) : Except Refusal Value :=
  let cs := s.toList
  (readChars around cs).mapError (Stop.settle cs)

/-- Reads a JSON text. -/
def read (s : String) : Except Refusal Value := readInside inUse s

end AgentLint.Json
