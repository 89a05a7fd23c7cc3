import AgentLint.Decimal.Binary64

/-!
# The digits of a double

Two ways to choose decimal digits for a positive double `num / den`.

* `shortest`: the fewest digits that read back as the same double, and of those the nearest to it.
* `significant`: a fixed number of digits, correctly rounded.

Both return the digits as a natural number together with the power of ten of the last digit.
-/

namespace AgentLint.Decimal

/-- A decimal number: `digits * 10 ^ exp10`. -/
structure Digits where
  /-- The digits, read as one number. -/
  digits : Nat
  /-- The power of ten of the last digit. -/
  exp10 : Int
  deriving DecidableEq, Repr

/-- The digits as text. -/
def Digits.text (d : Digits) : List Char := Nat.toDigits 10 d.digits

/-- Where the point stands relative to the first digit: `0.d₁d₂… * 10 ^ point`. -/
def Digits.point (d : Digits) : Int := d.text.length + d.exp10

/-- Drops trailing zeros; at most `fuel` of them, and there are never more than digits. -/
def stripZeros : (fuel : Nat) → Digits → Digits
  | 0, d => d
  | fuel + 1, d =>
    if d.digits != 0 && d.digits % 10 == 0 then stripZeros fuel ⟨d.digits / 10, d.exp10 + 1⟩ else d

/-- The same number without trailing zeros. -/
def Digits.trimmed (d : Digits) : Digits := stripZeros d.text.length d

/-- `num / den` compared with `10 ^ k`: whether it is at least that. -/
def reachesTen (num den : Nat) (k : Int) : Bool :=
  if 0 ≤ k then den * Nat.pow 10 k.toNat ≤ num else den ≤ num * Nat.pow 10 (-k).toNat

/-- The `k` with `10 ^ (k - 1) ≤ num / den < 10 ^ k`, found from an estimate that is off by at most
a few places. -/
def decimalPlaces (num den : Nat) : Int :=
  let guess : Int := ((num.log2 : Int) - (den.log2 : Int)) * 30103 / 100000
  let candidates := [guess - 1, guess, guess + 1, guess + 2]
  match candidates.find? fun k => !reachesTen num den k with
  | some k => k
  | none => guess + 3

/-- `num / den` on the grid of step `10 ^ e`: the whole steps, and numerator and denominator of
the grid quotient. -/
def onGrid (num den : Nat) (e : Int) : Nat × Nat :=
  if 0 ≤ e then (num, den * Nat.pow 10 e.toNat) else (num * Nat.pow 10 (-e).toNat, den)

/-- The neighbour of the value on the grid of `10 ^ e` that reads back as `x`, the nearer one if
both do, the even one on an exact tie. -/
def onGridReading (x : Binary64) (num den : Nat) (e : Int) : Option Digits :=
  let (n, d) := onGrid num den e
  let lo := n / d
  let hi := lo + 1
  let reads (m : Nat) : Bool := Binary64.ofDecimal false m e == x
  let nearer := Binary64.roundDiv n d
  if n % d == 0 then (if reads lo then some ⟨lo, e⟩ else none)
  else if reads nearer then some ⟨nearer, e⟩
  else if reads lo then some ⟨lo, e⟩
  else if reads hi then some ⟨hi, e⟩
  else none

/-- The fewest digits that read back as `x`, which is the positive number `num / den`.  Seventeen
digits always do, so the last resort is never reached. -/
def shortest (x : Binary64) (num den : Nat) : Digits :=
  let k := decimalPlaces num den
  let grids := (List.range 17).map fun (i : Nat) => k - (i : Int) - 1
  match grids.findSome? fun e => onGridReading x num den e with
  | some d => d.trimmed
  | none => (⟨Binary64.roundDiv (onGrid num den (k - 17)).1 (onGrid num den (k - 17)).2, k - 17⟩ :
      Digits).trimmed

/-- `num / den` rounded to `places` significant digits. -/
def significant (places : Nat) (num den : Nat) : Digits :=
  let k := decimalPlaces num den
  let (n, d) := onGrid num den (k - places)
  (⟨Binary64.roundDiv n d, k - places⟩ : Digits).trimmed

end AgentLint.Decimal
