import AgentLint.Text.Blank
import AgentLint.Text.Word

/-!
# Integers in decimal

An integer may have blanks around it, a sign, and single underscores between its digits; decimal digits may
be those of any script.  The number of digits is limited, both for reading an integer and for writing one.
-/

namespace AgentLint.Decimal

/-- The most digits that an integer is read or written with. -/
def mostDigits : Nat := 4300

/-- Why a text is no integer. -/
inductive IntegerFault where
  /-- It is not written like one. -/
  | malformed
  /-- It has more digits than are read. -/
  | tooManyDigits (digits : Nat)
  deriving DecidableEq, Repr

/-- The wording for an integer with more digits than are read. -/
def tooManyDigitsText (digits : Nat) : String :=
  "Exceeds the limit (" ++ toString mostDigits ++ " digits) for integer string conversion: value has " ++
    toString digits ++ " digits; use sys.set_int_max_str_digits() to increase the limit"

/-- The wording for an integer with more digits than are written. -/
def unwritableText : String :=
  "Exceeds the limit (" ++ toString mostDigits ++
    " digits) for integer string conversion; use sys.set_int_max_str_digits() to increase the limit"

/-- A blank that may stand around a number: the separator controls may not. -/
def isPadding (c : Char) : Bool := Text.isBlank c && !(28 ≤ c.toNat && c.toNat ≤ 31)

/-- Drops padding at both ends. -/
def unpad (cs : List Char) : List Char :=
  ((cs.dropWhile isPadding).reverse.dropWhile isPadding).reverse

/-- The value of a digit in bases up to thirty-six; decimal digits of any script count. -/
def digitValue? (c : Char) : Option Nat :=
  if Text.isDecimal c then some (Text.decimalValue c)
  else if 'a' ≤ c && c ≤ 'z' then some (c.toNat - 87)
  else if 'A' ≤ c && c ≤ 'Z' then some (c.toNat - 55)
  else none

/-- Whether a character is a digit of a base. -/
def isDigitOf (base : Nat) (c : Char) : Bool := (digitValue? c).any (· < base)

/-- The letters that mark a base. -/
def baseMarks (base : Nat) : List Char :=
  if base = 2 then ['b', 'B'] else if base = 8 then ['o', 'O'] else if base = 16 then ['x', 'X'] else []

/-- Drops a zero and the letter of a base in front of digits. -/
def dropMark (base : Nat) : List Char → List Char
  | '0' :: m :: rest => if (baseMarks base).contains m then rest else '0' :: m :: rest
  | cs => cs

/-- Digits without the single underscores between them. -/
def digitGroups? (cs : List Char) : Option (List Char) :=
  let groups := Text.splitOn '_' cs
  if groups.any List.isEmpty then none else some groups.flatten

/-- Reads an integer in a base.  Too many digits, which only base ten knows, are found before what follows
them. -/
def readInteger (base : Nat) (cs : List Char) : Except IntegerFault Int :=
  let (neg, body) := match cs.dropWhile isPadding with
    | '-' :: r => (true, r)
    | '+' :: r => (false, r)
    | r => (false, r)
  let body := dropMark base body
  let isPart (c : Char) : Bool := isDigitOf base c || c = '_'
  match digitGroups? (body.takeWhile isPart) with
  | none => .error .malformed
  | some ds =>
    if base = 10 && mostDigits < ds.length then .error (.tooManyDigits ds.length)
    else if !(body.dropWhile isPart).all isPadding then .error .malformed
    else
      let n := ds.foldl (fun n c => n * base + (digitValue? c).getD 0) 0
      .ok (if neg then -(n : Int) else n)

/-- Whether an integer has more digits than are written. -/
def isUnwritable (n : Int) : Bool := Nat.pow 10 mostDigits ≤ n.natAbs

end AgentLint.Decimal
