/-!
# Ranges of code points

A property of characters is kept as an ordered list of inclusive ranges of code points.  Membership
is by halving, over the array that `RangeTable.ofList` makes once.
-/

namespace AgentLint.Text

/-- Inclusive ranges of code points, in ascending order. -/
structure RangeTable where
  /-- The ranges, lowest first. -/
  rows : Array (Nat × Nat)

namespace RangeTable

/-- The table of a list of ranges. -/
def ofList (rs : List (Nat × Nat)) : RangeTable := ⟨rs.toArray⟩

/-- Halves the row interval from `lo` up to `hi` until the row that could hold `n` is left; `steps`
bounds the number of halvings. -/
def search (t : RangeTable) (n : Nat) : (steps lo hi : Nat) → Bool
  | 0, _, _ => false
  | steps + 1, lo, hi =>
    if hi ≤ lo then false
    else
      let mid := (lo + hi) / 2
      match t.rows[mid]? with
      | none => false
      | some (a, b) =>
        if n < a then t.search n steps lo mid
        else if b < n then t.search n steps (mid + 1) hi
        else true

/-- Whether a row of the table holds `n`. -/
def contains (t : RangeTable) (n : Nat) : Bool :=
  t.search n (t.rows.size + 1) 0 t.rows.size

end RangeTable

end AgentLint.Text
