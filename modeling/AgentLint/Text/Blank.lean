/-!
# Blanks and lines

What counts as a blank character, trimming by it, and the split of a text into lines.

A *blank* is one of the 25 white-space characters of the Unicode standard or one of the four separator
controls U+001C to U+001F.  A *line* ends at `\n` only: a carriage return is an ordinary
character here, and a text with `n` line feeds has `n + 1` lines, the last of which may be empty.
The scanners of this library work on `List Char`; the `String` functions beside them convert at
the edge.
-/

namespace AgentLint.Text

/-! ## 1. Blanks -/

/-- The blanks above the first 33 code points. -/
def wideBlanks : List Nat :=
  [0x85, 0xA0, 0x1680, 0x2000, 0x2001, 0x2002, 0x2003, 0x2004, 0x2005, 0x2006, 0x2007, 0x2008,
   0x2009, 0x200A, 0x2028, 0x2029, 0x202F, 0x205F, 0x3000]

/-- White space in the sense used throughout: tab to carriage return, the four separator controls,
space, and the wider Unicode blanks. -/
def isBlank (c : Char) : Bool :=
  let n := c.toNat
  if n ≤ 32 then (9 ≤ n && n ≤ 13) || (28 ≤ n && n ≤ 32)
  else if n < 0x85 then false
  else wideBlanks.contains n

/-- Drops the blanks at both ends. -/
def trim (cs : List Char) : List Char :=
  ((cs.dropWhile isBlank).reverse.dropWhile isBlank).reverse

/-- `trim` on strings. -/
def strip (s : String) : String := String.ofList (trim s.toList)

/-- Nothing but blanks. -/
def isBlankText (s : String) : Bool := s.toList.all isBlank

/-! ## 2. Lines -/

/-- One step of a split: a character that ends a piece opens a new one, any other joins the current
one.  The pair is the current piece and the pieces after it. -/
def splitStep (stop : Char → Bool) (c : Char) (acc : List Char × List (List Char)) :
    List Char × List (List Char) :=
  if stop c then ([], acc.1 :: acc.2) else (c :: acc.1, acc.2)

/-- The pieces between the characters that `stop` picks out; never empty. -/
def splitWhere (stop : Char → Bool) (cs : List Char) : List (List Char) :=
  let r := cs.foldr (splitStep stop) ([], [])
  r.1 :: r.2

/-- The pieces between the occurrences of `stop`; never empty. -/
def splitOn (stop : Char) (cs : List Char) : List (List Char) := splitWhere (· = stop) cs

/-- The longest runs without a blank. -/
def words (cs : List Char) : List (List Char) := (splitWhere isBlank cs).filter (· ≠ [])

/-- The lines of a text, without their line feeds. -/
def splitLines (cs : List Char) : List (List Char) := splitOn '\n' cs

/-- Joins pieces with a separator between them. -/
def joinWith (sep : List Char) : List (List Char) → List Char
  | [] => []
  | l :: ls => l ++ ls.flatMap (sep ++ ·)

/-- The inverse of `splitLines`. -/
def joinLines (ls : List (List Char)) : List Char := joinWith ['\n'] ls

/-- The lines of a string. -/
def lines (s : String) : List String := (splitLines s.toList).map String.ofList

/-- Numbers the elements of a list from `n` on. -/
def numberFrom {α : Type} (n : Nat) : List α → List (Nat × α)
  | xs => xs.zipIdx n |>.map fun p => (p.2, p.1)

/-- Whether a text holds another one somewhere. -/
def holds (part : List Char) : List Char → Bool
  | [] => part.isEmpty
  | c :: cs => part.isPrefixOf (c :: cs) || holds part cs

/-! ## 3. Small facts -/

theorem splitOn_ne_nil (stop : Char) (cs : List Char) : splitOn stop cs ≠ [] := by
  simp [splitOn, splitWhere]

@[simp]
theorem splitOn_nil (stop : Char) : splitOn stop [] = [[]] := rfl

theorem splitOn_cons_stop (stop : Char) (cs : List Char) :
    splitOn stop (stop :: cs) = [] :: splitOn stop cs := by
  simp [splitOn, splitWhere, splitStep]

end AgentLint.Text
