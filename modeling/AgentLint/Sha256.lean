import AgentLint.Text.Utf8
import AgentLint.Text.Quoted

/-!
# SHA-256

The digest of a text in UTF-8, as 64 hexadecimal digits.  The message is padded to blocks of 64
bytes, each block is spread to 64 words, and 64 rounds mix them into the state of eight words.
-/

namespace AgentLint.Sha256

/-- The constants of the rounds. -/
def roundConstants : List UInt32 :=
  [0x428a2f98, 0x71374491, 0xb5c0fbcf, 0xe9b5dba5, 0x3956c25b, 0x59f111f1, 0x923f82a4, 0xab1c5ed5,
   0xd807aa98, 0x12835b01, 0x243185be, 0x550c7dc3, 0x72be5d74, 0x80deb1fe, 0x9bdc06a7, 0xc19bf174,
   0xe49b69c1, 0xefbe4786, 0x0fc19dc6, 0x240ca1cc, 0x2de92c6f, 0x4a7484aa, 0x5cb0a9dc, 0x76f988da,
   0x983e5152, 0xa831c66d, 0xb00327c8, 0xbf597fc7, 0xc6e00bf3, 0xd5a79147, 0x06ca6351, 0x14292967,
   0x27b70a85, 0x2e1b2138, 0x4d2c6dfc, 0x53380d13, 0x650a7354, 0x766a0abb, 0x81c2c92e, 0x92722c85,
   0xa2bfe8a1, 0xa81a664b, 0xc24b8b70, 0xc76c51a3, 0xd192e819, 0xd6990624, 0xf40e3585, 0x106aa070,
   0x19a4c116, 0x1e376c08, 0x2748774c, 0x34b0bcb5, 0x391c0cb3, 0x4ed8aa4a, 0x5b9cca4f, 0x682e6ff3,
   0x748f82ee, 0x78a5636f, 0x84c87814, 0x8cc70208, 0x90befffa, 0xa4506ceb, 0xbef9a3f7, 0xc67178f2]

/-- Eight words. -/
structure Words where
  /-- The first. -/
  a : UInt32
  /-- The second. -/
  b : UInt32
  /-- The third. -/
  c : UInt32
  /-- The fourth. -/
  d : UInt32
  /-- The fifth. -/
  e : UInt32
  /-- The sixth. -/
  f : UInt32
  /-- The seventh. -/
  g : UInt32
  /-- The eighth. -/
  h : UInt32
  deriving DecidableEq, Repr

/-- The state before the first block. -/
def start : Words :=
  ⟨0x6a09e667, 0xbb67ae85, 0x3c6ef372, 0xa54ff53a, 0x510e527f, 0x9b05688c, 0x1f83d9ab, 0x5be0cd19⟩

/-- Word-wise addition. -/
def Words.add (x y : Words) : Words :=
  ⟨x.a + y.a, x.b + y.b, x.c + y.c, x.d + y.d, x.e + y.e, x.f + y.f, x.g + y.g, x.h + y.h⟩

/-- Turns a word to the right. -/
def rotate (n : UInt32) (x : UInt32) : UInt32 := (x >>> n) ||| (x <<< (32 - n))

/-- The padded message: a one bit, zeros, and the length in bits as eight bytes. -/
def pad (bs : List UInt8) : List UInt8 :=
  let zeros := (119 - bs.length % 64) % 64
  let bits := bs.length * 8
  let size : List UInt8 := (List.range 8).reverse.map fun i => UInt8.ofNat (bits >>> (8 * i))
  bs ++ [0x80] ++ List.replicate zeros 0 ++ size

/-- Four bytes as a word, the first one highest. -/
def word (x y z w : UInt8) : UInt32 :=
  (x.toUInt32 <<< 24) ||| (y.toUInt32 <<< 16) ||| (z.toUInt32 <<< 8) ||| w.toUInt32

/-- Bytes as words. -/
def toWords : List UInt8 → List UInt32
  | x :: y :: z :: w :: rest => word x y z w :: toWords rest
  | _ => []

/-- The next word of a schedule whose words so far are given last one first. -/
def nextWord (back : List UInt32) : UInt32 :=
  let at_ (i : Nat) : UInt32 := (back.drop (i - 1)).headD 0
  let s0 := rotate 7 (at_ 15) ^^^ rotate 18 (at_ 15) ^^^ (at_ 15 >>> 3)
  let s1 := rotate 17 (at_ 2) ^^^ rotate 19 (at_ 2) ^^^ (at_ 2 >>> 10)
  at_ 16 + s0 + at_ 7 + s1

/-- Adds words to a schedule. -/
def extendWords : (count : Nat) → List UInt32 → List UInt32
  | 0, back => back
  | n + 1, back => extendWords n (nextWord back :: back)

/-- The 64 words of a block of 16. -/
def schedule (ws : List UInt32) : List UInt32 := (extendWords 48 ws.reverse).reverse

/-- One round, with its constant and its word. -/
def mix (s : Words) (k w : UInt32) : Words :=
  let s1 := rotate 6 s.e ^^^ rotate 11 s.e ^^^ rotate 25 s.e
  let choice := (s.e &&& s.f) ^^^ (~~~s.e &&& s.g)
  let t1 := s.h + s1 + choice + k + w
  let s0 := rotate 2 s.a ^^^ rotate 13 s.a ^^^ rotate 22 s.a
  let majority := (s.a &&& s.b) ^^^ (s.a &&& s.c) ^^^ (s.b &&& s.c)
  ⟨t1 + (s0 + majority), s.a, s.b, s.c, s.d + t1, s.e, s.f, s.g⟩

/-- The state after a block. -/
def compress (s : Words) (block : List UInt32) : Words :=
  s.add ((roundConstants.zip (schedule block)).foldl (fun s kw => mix s kw.1 kw.2) s)

/-- The state after blocks of 16 words; `fuel` bounds their number. -/
def absorb : (fuel : Nat) → Words → List UInt32 → Words
  | 0, s, _ => s
  | _ + 1, s, [] => s
  | fuel + 1, s, ws => absorb fuel (compress s (ws.take 16)) (ws.drop 16)

/-- The digest of bytes. -/
def digest (bs : List UInt8) : Words :=
  let ws := toWords (pad bs)
  absorb (ws.length + 1) start ws

/-- A word as eight hexadecimal digits. -/
def wordText (w : UInt32) : List Char := Text.hex 8 w.toNat

/-- The digest of a text. -/
def hex (s : String) : String :=
  let d := digest (Utf8.encode s)
  String.ofList ([d.a, d.b, d.c, d.d, d.e, d.f, d.g, d.h].flatMap wordText)

end AgentLint.Sha256
