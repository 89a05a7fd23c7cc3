import AgentLint.Decimal.Shortest

/-!
# How doubles are written

Chosen digits are laid out either positionally or with an exponent.  A `Style` holds the decisions:
how many digits, which powers of ten are positional, and whether a whole number keeps `.0`.
Two styles are used: `Style.exact` for doubles inside data, `Style.brief` for sizes in messages.
-/

namespace AgentLint.Decimal

/-- The decisions of a number format. -/
structure Style where
  /-- Number of significant digits; as many as it takes to read back if absent. -/
  places : Option Nat
  /-- The least power of ten of the first digit that is written positionally. -/
  least : Int
  /-- The power of ten of the first digit from which on an exponent is written. -/
  beyond : Int
  /-- Whether a whole number ends in `.0`. -/
  keepsPoint : Bool

/-- Shortest digits that read back, positional from `1e-4` up to `1e16`, whole numbers with `.0`. -/
def Style.exact : Style := ⟨none, -4, 16, true⟩

/-- Six significant digits, positional from `1e-4` up to `1e6`, no trailing `.0`. -/
def Style.brief : Style := ⟨some 6, -4, 6, false⟩

/-- An exponent has a sign and at least two digits. -/
def exponentText (e : Int) : String :=
  let ds := Nat.toDigits 10 e.natAbs
  let padded := if ds.length < 2 then '0' :: ds else ds
  String.ofList ('e' :: (if e < 0 then '-' else '+') :: padded)

/-- Digits with a point somewhere before, inside or after them. -/
def positional (keepsPoint : Bool) (ds : List Char) (point : Int) : String :=
  if point ≤ 0 then
    String.ofList ('0' :: '.' :: List.replicate (-point).toNat '0' ++ ds)
  else
    let p := point.toNat
    if ds.length ≤ p then
      String.ofList (ds ++ List.replicate (p - ds.length) '0' ++ (if keepsPoint then ['.', '0'] else []))
    else String.ofList (ds.take p ++ '.' :: ds.drop p)

/-- One digit before the point, the others after it, then the exponent. -/
def scientific (ds : List Char) (point : Int) : String :=
  let mantissa :=
    match ds with
    | d :: (e :: es) => String.ofList (d :: '.' :: e :: es)
    | ds => String.ofList ds
  mantissa ++ exponentText (point - 1)

/-- Writes a double in a style. -/
def Style.render (s : Style) (x : Binary64) : String :=
  match x.shape with
  | .nan => "nan"
  | .inf neg => if neg then "-inf" else "inf"
  | .finite neg mant exp =>
    let sign := if neg then "-" else ""
    if mant == 0 then sign ++ (if s.keepsPoint then "0.0" else "0")
    else
      let (num, den) := Binary64.magnitude mant exp
      let positive := Binary64.withSign false (x.bits.toNat % Nat.pow 2 63)
      let d := match s.places with
        | none => shortest positive num den
        | some n => significant n num den
      let first := d.point - 1
      if s.least ≤ first && first < s.beyond then sign ++ positional s.keepsPoint d.text d.point
      else sign ++ scientific d.text d.point

/-- The text of a double inside data. -/
def render (x : Binary64) : String := Style.exact.render x

/-- The text of `num / den` to six significant digits, through the nearest double. -/
def briefRatio (num den : Nat) : String := Style.brief.render (Binary64.ofRatio false num den)

end AgentLint.Decimal
