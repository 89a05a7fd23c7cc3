import AgentLint.Text.Printable
import AgentLint.Text.Surrogate

/-!
# Quoted text

The form in which a text appears inside a larger value: between single quotes, or between double
quotes if it holds a single quote and no double one.  The backslash, the quote in use and what
cannot be printed are escaped; tab, line feed and carriage return have short escapes.
-/

namespace AgentLint.Text

/-- A number in lower-case hexadecimal, padded with zeros to at least `width` digits. -/
def hex (width n : Nat) : List Char :=
  let ds := Nat.toDigits 16 n
  List.replicate (width - ds.length) '0' ++ ds

/-- The shortest of the three numeric escapes that can name a code point. -/
def numericEscape (n : Nat) : List Char :=
  if n < 0x100 then '\\' :: 'x' :: hex 2 n
  else if n < 0x10000 then '\\' :: 'u' :: hex 4 n
  else '\\' :: 'U' :: hex 8 n

/-- One character inside quotes. -/
def quoteChar (quote c : Char) : List Char :=
  if c = quote || c = '\\' then ['\\', c]
  else if c = '\n' then ['\\', 'n']
  else if c = '\t' then ['\\', 't']
  else if c = '\r' then ['\\', 'r']
  else if isPrintable c then [c]
  else numericEscape (codeOf c)

/-- The quote a text is put between. -/
def quoteFor (cs : List Char) : Char :=
  if cs.contains '\'' && !cs.contains '"' then '"' else '\''

/-- A text between quotes. -/
def quoted (s : String) : String :=
  let cs := s.toList
  let q := quoteFor cs
  String.ofList (q :: cs.flatMap (quoteChar q) ++ [q])

/-- One byte inside quotes: as `quoteChar`, but nothing beyond ASCII is printed. -/
def quoteByte (quote : Char) (b : UInt8) : List Char :=
  if b.toNat < 128 then quoteChar quote (Char.ofNat b.toNat) else numericEscape b.toNat

/-- Bytes between quotes, after the letter `b`. -/
def quotedBytes (bs : List UInt8) : String :=
  let q := quoteFor (bs.map fun b => Char.ofNat b.toNat)
  String.ofList ('b' :: q :: bs.flatMap (quoteByte q) ++ [q])

end AgentLint.Text
