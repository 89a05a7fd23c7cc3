/-!
# Lone surrogates

An escape can name one half of a surrogate pair without the other, and such a half is then part of a text.
No `Char` is one; the private characters from 10D800 to 10DFFF stand for them.  `codeOf` sees through this
arrangement: it gives the code point that is meant.
-/

namespace AgentLint.Text

/-- How far the stand-in of a surrogate is from it. -/
def standInOffset : Nat := 0x100000

/-- Whether a code point is half of a surrogate pair. -/
def isSurrogateCode (n : Nat) : Bool := 0xD800 ≤ n && n ≤ 0xDFFF

/-- Whether a character stands for a lone surrogate. -/
def isSurrogate (c : Char) : Bool := standInOffset < c.toNat && isSurrogateCode (c.toNat - standInOffset)

/-- Whether a character stands for a byte of a file name that is no UTF-8. -/
def isEscapedByte (c : Char) : Bool :=
  isSurrogate c && 0xDC80 ≤ c.toNat - standInOffset && c.toNat - standInOffset ≤ 0xDCFF

/-- The code point that a character stands for. -/
def codeOf (c : Char) : Nat := if isSurrogate c then c.toNat - standInOffset else c.toNat

/-- The character for a code point. -/
def ofCode (n : Nat) : Char :=
  if isSurrogateCode n then Char.ofNat (standInOffset + n) else Char.ofNat n

end AgentLint.Text
