/-!
# Doubles as exact ratios

A double is kept as its 64 bits.  All arithmetic on it is exact arithmetic on natural numbers
followed by one rounding: `Binary64.ofRatio` rounds a ratio to the nearest double, a half going to
the even neighbour, and `Binary64.shape` reads a double back as `mant * 2 ^ exp`.  Reading decimal
text, quotients of integers and the digits that are printed all go through these two.
-/

namespace AgentLint

/-- A double by its bit pattern. -/
structure Binary64 where
  /-- Sign, exponent and fraction, from the top. -/
  bits : UInt64
  deriving DecidableEq, Repr, Inhabited

namespace Binary64

/-- What a double stands for. -/
inductive Shape where
  /-- Not a number. -/
  | nan
  /-- An infinity, with its sign. -/
  | inf (neg : Bool)
  /-- The number `mant * 2 ^ exp`, negated if `neg`; a zero keeps its sign. -/
  | finite (neg : Bool) (mant : Nat) (exp : Int)
  deriving DecidableEq, Repr

/-- Decodes the bit pattern. -/
def shape (x : Binary64) : Shape :=
  let n := x.bits.toNat
  let neg := n / Nat.pow 2 63 == 1
  let e : Nat := n / Nat.pow 2 52 % Nat.pow 2 11
  let f : Nat := n % Nat.pow 2 52
  if e == 2047 then (if f == 0 then .inf neg else .nan)
  else if e == 0 then .finite neg f (-1074)
  else .finite neg (f + Nat.pow 2 52) ((e : Int) - 1075)

/-- Puts a sign on a magnitude given by its bits. -/
def withSign (neg : Bool) (magnitude : Nat) : Binary64 :=
  ⟨UInt64.ofNat (if neg then magnitude + Nat.pow 2 63 else magnitude)⟩

/-- Not a number. -/
def nan : Binary64 := withSign false 0x7FF8000000000000

/-- Not a number either, but told apart from `nan` and from those of other numbers. -/
def nanNumbered (n : Nat) : Binary64 := withSign false (0x7FF8000000000001 + n % Nat.pow 2 50)

/-- Positive or negative infinity. -/
def inf (neg : Bool) : Binary64 := withSign neg 0x7FF0000000000000

/-- Positive or negative zero. -/
def zero (neg : Bool) : Binary64 := withSign neg 0

/-- The quotient rounded to the nearest integer, a half going to the even neighbour. -/
def roundDiv (num den : Nat) : Nat :=
  let q := num / den
  let twice := 2 * (num % den)
  if twice < den then q
  else if den < twice then q + 1
  else if q % 2 == 0 then q else q + 1

/-- `roundDiv` of `num / (den * 2 ^ e)`, for an exponent of either sign. -/
def roundScaled (num den : Nat) (e : Int) : Nat :=
  if 0 ≤ e then roundDiv num (den * Nat.pow 2 e.toNat) else roundDiv (num * Nat.pow 2 (-e).toNat) den

/-- Whether `num / den` is at least `2 ^ e`. -/
def reachesPow (num den : Nat) (e : Int) : Bool :=
  if 0 ≤ e then den * Nat.pow 2 e.toNat ≤ num else den ≤ num * Nat.pow 2 (-e).toNat

/-- The double nearest to `num / den`, a half going to the even neighbour; beyond the largest
double it is an infinity. -/
def ofRatio (neg : Bool) (num den : Nat) : Binary64 :=
  if num == 0 || den == 0 then zero neg
  else
    let guess : Int := (num.log2 : Int) - (den.log2 : Int)
    let top := if reachesPow num den guess then guess else guess - 1
    let e := max (top - 52) (-1074)
    let q := roundScaled num den e
    let (q, e) := if q == Nat.pow 2 53 then (Nat.pow 2 52, e + 1) else (q, e)
    if 971 < e then inf neg
    else if q < Nat.pow 2 52 then withSign neg q
    else withSign neg ((e + 1075).toNat * Nat.pow 2 52 + (q - Nat.pow 2 52))

/-- The double nearest to `digits * 10 ^ exp10`.  Beyond three hundred and some decimal places the
answer is a zero or an infinity whatever the digits, so huge exponents are cut off first. -/
def ofDecimal (neg : Bool) (digits : Nat) (exp10 : Int) : Binary64 :=
  if digits == 0 then zero neg
  else
    let places : Int := (Nat.toDigits 10 digits).length
    if 400 < places + exp10 then inf neg
    else if places + exp10 < -400 then zero neg
    else if 0 ≤ exp10 then ofRatio neg (digits * Nat.pow 10 exp10.toNat) 1
    else ofRatio neg digits (Nat.pow 10 (-exp10).toNat)

/-- The double nearest to an integer. -/
def ofInt (n : Int) : Binary64 := ofRatio (n < 0) n.natAbs 1

/-- A finite double as numerator and denominator of its magnitude. -/
def magnitude (mant : Nat) (exp : Int) : Nat × Nat :=
  if 0 ≤ exp then (mant * Nat.pow 2 exp.toNat, 1) else (mant, Nat.pow 2 (-exp).toNat)

/-- The integer a double equals, if it equals one. -/
def toInt? (x : Binary64) : Option Int :=
  match x.shape with
  | .finite neg mant exp =>
    let (num, den) := magnitude mant exp
    if num % den == 0 then some (if neg then -((num / den : Nat) : Int) else (num / den : Nat))
    else none
  | _ => none

/-- Zero of either sign. -/
def isZero (x : Binary64) : Bool :=
  match x.shape with
  | .finite _ mant _ => mant == 0
  | _ => false

/-- Sum of two doubles, rounded once. -/
def add (x y : Binary64) : Binary64 :=
  match x.shape, y.shape with
  | .nan, _ | _, .nan => nan
  | .inf a, .inf b => if a == b then inf a else nan
  | .inf a, _ => inf a
  | _, .inf b => inf b
  | .finite na ma ea, .finite nb mb eb =>
    let e := min ea eb
    let lift (neg : Bool) (m : Nat) (k : Int) : Int :=
      let v : Int := (m * Nat.pow 2 (k - e).toNat : Nat)
      if neg then -v else v
    let s := lift na ma ea + lift nb mb eb
    if s == 0 then zero (na && nb)
    else
      let (num, den) := magnitude s.natAbs e
      ofRatio (s < 0) num den

/-- Product of two doubles, rounded once. -/
def mul (x y : Binary64) : Binary64 :=
  match x.shape, y.shape with
  | .nan, _ | _, .nan => nan
  | .inf a, .inf b => inf (a != b)
  | .inf a, .finite b m _ | .finite b m _, .inf a => if m == 0 then nan else inf (a != b)
  | .finite na ma ea, .finite nb mb eb =>
    let (num, den) := magnitude (ma * mb) (ea + eb)
    ofRatio (na != nb) num den

/-- The same number with the other sign. -/
def negate (x : Binary64) : Binary64 :=
  match x.shape with
  | .nan => nan
  | .inf neg => inf (!neg)
  | .finite neg _ _ => withSign (!neg) (x.bits.toNat % Nat.pow 2 63)

end Binary64

end AgentLint
