import AgentLint.Text.Quoted

/-!
# Bytes and characters

`Utf8.encode` and `Utf8.decode`.  Halves of characters have no bytes, and a text with some of them is not
encoded where that matters (`gap?`).  Decoding refuses the first faulty sequence and says how: a byte
that cannot start a character, a byte that cannot continue one, or data that ends too early.
`universalNewlines` turns every line end (`\r\n`, `\r`, `\n`) into a line feed, as is done with the
text of every file that is read.
-/

namespace AgentLint.Utf8

/-! ## 1. Encoding -/

/-- The bytes of a character. -/
def encodeChar (c : Char) : List UInt8 :=
  let n := c.toNat
  let cont (k : Nat) : UInt8 := UInt8.ofNat (0x80 + n / Nat.pow 2 k % 64)
  if n < 0x80 then [UInt8.ofNat n]
  else if n < 0x800 then [UInt8.ofNat (0xC0 + n / 64), cont 0]
  else if n < 0x10000 then [UInt8.ofNat (0xE0 + n / 4096), cont 6, cont 0]
  else [UInt8.ofNat (0xF0 + n / 262144), cont 12, cont 6, cont 0]

/-- The bytes of a text. -/
def encode (s : String) : List UInt8 := s.toList.flatMap encodeChar

/-- Number of bytes of a text. -/
def size (s : String) : Nat := s.utf8ByteSize

/-- A run of halves of characters. -/
structure Gap where
  /-- The offset of the first one, in characters. -/
  offset : Nat
  /-- The halves. -/
  halves : List Char
  deriving DecidableEq, Repr

/-- The wording of a gap: a single half is named, several are counted. -/
def Gap.message (g : Gap) : String :=
  let place := match g.halves with
    | [c] => "character '" ++ String.ofList (Text.numericEscape (Text.codeOf c)) ++ "' in position " ++
        toString g.offset
    | cs => "characters in position " ++ toString g.offset ++ "-" ++ toString (g.offset + cs.length - 1)
  "'utf-8' codec can't encode " ++ place ++ ": surrogates not allowed"

/-- Where a text cannot be encoded, if only some characters can be. -/
def gap? (fine : Char → Bool) (s : String) : Option Gap :=
  let cs := s.toList
  match cs.dropWhile fine with
  | [] => none
  | rest => some ⟨cs.length - rest.length, rest.takeWhile Text.isSurrogate⟩

/-! ## 2. Decoding -/

/-- What is wrong with a sequence. -/
inductive Flaw where
  /-- The byte starts no character. -/
  | start
  /-- The byte after those named continues no character. -/
  | continuation
  /-- The data ends inside a character. -/
  | ending
  deriving DecidableEq, Repr

/-- A faulty sequence: its first offset, its bytes, and the flaw. -/
structure Refusal where
  /-- The offset of its first byte. -/
  offset : Nat
  /-- Its bytes. -/
  bytes : List UInt8
  /-- The flaw. -/
  flaw : Flaw
  deriving DecidableEq, Repr

/-- The wording of a flaw. -/
def Flaw.text : Flaw → String
  | start => "invalid start byte"
  | continuation => "invalid continuation byte"
  | ending => "unexpected end of data"

/-- The wording of a refusal: a single byte is named, several are counted. -/
def Refusal.message (r : Refusal) : String :=
  let place := match r.bytes with
    | [b] => "byte 0x" ++ String.ofList (Text.hex 2 b.toNat) ++ " in position " ++ toString r.offset
    | bs => "bytes in position " ++ toString r.offset ++ "-" ++ toString (r.offset + bs.length - 1)
  "'utf-8' codec can't decode " ++ place ++ ": " ++ r.flaw.text

/-- The least and greatest second byte after a first one; the ends that would encode a character too
long, or half of a surrogate pair, or beyond the last code point, are left out. -/
def secondRange (b : Nat) : Nat × Nat :=
  if b == 0xE0 then (0xA0, 0xBF)
  else if b == 0xED then (0x80, 0x9F)
  else if b == 0xF0 then (0x90, 0xBF)
  else if b == 0xF4 then (0x80, 0x8F)
  else (0x80, 0xBF)

/-- How many bytes a character has that starts with this byte. -/
def lengthOf? (b : Nat) : Option Nat :=
  if b < 0x80 then some 1
  else if b < 0xC2 then none
  else if b < 0xE0 then some 2
  else if b < 0xF0 then some 3
  else if b < 0xF5 then some 4
  else none

/-- Whether `b` may follow `before` bytes of a character that starts with `first`. -/
def continues (first before b : Nat) : Bool :=
  if before == 1 then (secondRange first).1 ≤ b && b ≤ (secondRange first).2
  else 0x80 ≤ b && b ≤ 0xBF

/-- The part of a character's first byte that belongs to the code point. -/
def lead (len first : Nat) : Nat :=
  if len == 1 then first
  else if len == 2 then first % 32
  else if len == 3 then first % 16
  else first % 8

/-- Reads the `more` bytes that a character still needs; `seen` holds those read, last first. -/
def tail (first : Nat) : (more : Nat) → (seen : List UInt8) → (code : Nat) → List UInt8 →
    Except (List UInt8 × Flaw) (Nat × List UInt8)
  | 0, _, code, rest => .ok (code, rest)
  | _ + 1, seen, _, [] => .error (seen.reverse, .ending)
  | more + 1, seen, code, b :: rest =>
    if continues first seen.length b.toNat then
      tail first more (b :: seen) (code * 64 + b.toNat % 64) rest
    else .error (seen.reverse, .continuation)

/-- Decodes; `acc` holds the characters so far, last first, and `offset` counts bytes. -/
def decodeAux : (fuel offset : Nat) → (acc : List Char) → List UInt8 → Except Refusal (List Char)
  | _, _, acc, [] => .ok acc.reverse
  | 0, _, acc, _ => .ok acc.reverse
  | fuel + 1, offset, acc, b :: rest =>
    match lengthOf? b.toNat with
    | none => .error ⟨offset, [b], .start⟩
    | some len =>
      match tail b.toNat (len - 1) [b] (lead len b.toNat) rest with
      | .error (bs, flaw) => .error ⟨offset, bs, flaw⟩
      | .ok (code, rest') => decodeAux fuel (offset + len) (Char.ofNat code :: acc) rest'

/-- The text of a sequence of bytes. -/
def decode (bs : List UInt8) : Except Refusal String :=
  (decodeAux bs.length 0 [] bs).map String.ofList

/-! ## 3. Line ends -/

/-- One step from the right: a carriage return becomes a line feed, or nothing before one. -/
def newlineStep (c : Char) (acc : List Char × Bool) : List Char × Bool :=
  if c = '\r' then (if acc.2 then (acc.1, false) else ('\n' :: acc.1, false))
  else (c :: acc.1, c = '\n')

/-- Every line end as a line feed. -/
def universalNewlines (s : String) : String :=
  String.ofList (s.toList.foldr newlineStep ([], false)).1

end AgentLint.Utf8
