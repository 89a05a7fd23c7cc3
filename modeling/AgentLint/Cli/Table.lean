/-!
# Tables

A table with a title, a heavy frame around its head and a light one around its rows.  Each column is
as wide as its widest cell with a blank on both sides; the title is centred, with the odd blank on
the right.
-/

namespace AgentLint.Cli.Table

/-- A character some number of times. -/
def run (n : Nat) (c : Char) : String := String.ofList (List.replicate n c)

/-- A text filled up with blanks on the right. -/
def fill (width : Nat) (s : String) : String := s ++ run (width - s.length) ' '

/-- The widths of the columns, blanks at the sides not counted. -/
def widths (head : List String) (rows : List (List String)) : List Nat :=
  rows.foldl (fun ws row => ws.zipWith (fun w s => max w s.length) row) (head.map String.length)

/-- A line of the frame. -/
def rule (ws : List Nat) (left mid right line : Char) : String :=
  left.toString ++ mid.toString.intercalate (ws.map fun w => run (w + 2) line) ++ right.toString

/-- A line of cells. -/
def cells (ws : List Nat) (bar : Char) (row : List String) : String :=
  bar.toString ++ bar.toString.intercalate (ws.zipWith (fun w s => " " ++ fill w s ++ " ") row) ++
    bar.toString

/-- A text in the middle of a line. -/
def centre (width : Nat) (s : String) : String :=
  let gap := width - s.length
  run (gap / 2) ' ' ++ s ++ run (gap - gap / 2) ' '

/-- The lines of a table. -/
def lines (title : String) (head : List String) (rows : List (List String)) : List String :=
  let ws := widths head rows
  let width := ws.foldl (fun n w => n + w + 3) 1
  [centre width title, rule ws '┏' '┳' '┓' '━', cells ws '┃' head, rule ws '┡' '╇' '┩' '━'] ++
    rows.map (cells ws '│') ++ [rule ws '└' '┴' '┘' '─']

end AgentLint.Cli.Table
