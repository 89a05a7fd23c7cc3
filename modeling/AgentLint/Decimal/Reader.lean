import AgentLint.Decimal.Binary64
import AgentLint.Decimal.Integer

/-!
# Reading decimals

Runs of digits, fractions and exponents, and whole texts that stand for a double.
-/

namespace AgentLint.Decimal

/-! ## 1. Parts of a number -/

/-- Digits as a number. -/
def ofDigits (ds : List Char) : Nat := ds.foldl (fun n c => n * 10 + (c.toNat - 48)) 0

/-- Leading digits and what follows them. -/
def spanDigits (cs : List Char) : List Char × List Char :=
  (cs.takeWhile Char.isDigit, cs.dropWhile Char.isDigit)

/-- A fraction: a point and at least one digit. -/
def fraction? : List Char → Option (List Char × List Char)
  | '.' :: rest =>
    let (ds, rest') := spanDigits rest
    if ds.isEmpty then none else some (ds, rest')
  | _ => none

/-- An exponent: the mark, a sign if any, and at least one digit. -/
def exponent? : List Char → Option (Int × List Char)
  | c :: rest =>
    if c = 'e' || c = 'E' then
      let (neg, rest) := match rest with
        | '-' :: r => (true, r)
        | '+' :: r => (false, r)
        | r => (false, r)
      let (ds, rest') := spanDigits rest
      if ds.isEmpty then none
      else some (if neg then -(ofDigits ds : Int) else (ofDigits ds : Int), rest')
    else none
  | [] => none

/-! ## 2. A text as a double -/

/-- Digits with single underscores between them removed; `none` if one stands elsewhere. -/
def dropSeparators : List Char → Option (List Char)
  | [] => some []
  | [c] => if c = '_' then none else some [c]
  | c :: d :: rest =>
    if c = '_' then none
    else if d = '_' then
      match rest with
      | e :: _ => if c.isDigit && e.isDigit then (dropSeparators rest).map (c :: ·) else none
      | [] => none
    else (dropSeparators (d :: rest)).map (c :: ·)

/-- A double: blanks around it, a sign, digits with a point and an exponent, or a word for infinity
or not-a-number. -/
def read? (cs : List Char) : Option Binary64 :=
  let body := unpad cs
  let (neg, cs) := match body with
    | '-' :: r => (true, r)
    | '+' :: r => (false, r)
    | r => (false, r)
  let word := String.ofList (cs.map Char.toLower)
  if word = "inf" || word = "infinity" then some (.inf neg)
  else if word = "nan" then some .nan
  else
    let plain (c : Char) : Char :=
      if Text.isDecimal c then Char.ofNat (48 + Text.decimalValue c) else c
    match dropSeparators (cs.map plain) with
    | none => none
    | some cs =>
      let (ws, rest) := spanDigits cs
      let (fs, rest) := match rest with
        | '.' :: r => spanDigits r
        | r => ([], r)
      if ws.isEmpty && fs.isEmpty then none
      else
        let value (e : Int) : Binary64 :=
          Binary64.ofDecimal neg (ofDigits (ws ++ fs)) (e - fs.length)
        match rest with
        | [] => some (value 0)
        | rest =>
          match exponent? rest with
          | some (e, []) => some (value e)
          | _ => none

end AgentLint.Decimal
