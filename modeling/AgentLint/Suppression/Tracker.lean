import AgentLint.Assoc
import AgentLint.Suppression.Directive

/-!
# Suppressed ranges and their use

The directives of a file cover ranges of lines.  Ranges are kept in the order in which they close:
single lines where their directive stands, blocks at their end, and blocks that nothing ends, after
all others, at the end of the file.  The first range that covers an issue is the one that counts as
used by it.
-/

namespace AgentLint

/-- What a range of lines comes from. -/
inductive Scope where
  /-- The whole file. -/
  | file
  /-- The line after a directive. -/
  | nextLine
  /-- The line of a directive. -/
  | line
  /-- A block. -/
  | block
  deriving DecidableEq, Repr

/-- The verb of the directive that a range comes from. -/
def Scope.verb : Scope → Verb
  | file => .file
  | nextLine => .nextLine
  | line => .line
  | block => .block

/-- Lines on which a rule is suppressed. -/
structure Suppressed where
  /-- The rule, or the name that stands for all rules. -/
  target : String
  /-- What the range comes from. -/
  scope : Scope
  /-- The line of the directive. -/
  comment : Nat
  /-- First and last line; the whole file if absent. -/
  span : Option (Nat × Nat)
  /-- Whether an issue was suppressed by it. -/
  used : Bool
  deriving DecidableEq, Repr

/-- Whether a range covers a rule at a line. -/
def Suppressed.covers (r : Suppressed) (rule : String) (line : Option Int) : Bool :=
  (r.target = rule || r.target = Directive.allRules) &&
    match r.span with
    | none => true
    | some (first, last) =>
      match line with
      | none => false
      | some n => (first : Int) ≤ n && n ≤ (last : Int)

/-- The ranges of a file. -/
structure Tracker where
  /-- In the order in which they close. -/
  ranges : List Suppressed
  deriving DecidableEq, Repr

namespace Tracker

/-! ## 1. From directives to ranges -/

/-- Ranges closed so far, and the blocks that are open: rule and first line. -/
structure Scan where
  /-- The closed ranges. -/
  closed : List Suppressed
  /-- The open blocks. -/
  opened : Assoc String Nat

/-- The effect of the directive on line `n` of `total`.  A second opening of a block restarts it, and
nothing follows a directive for the next line on the last one. -/
def step (total : Nat) (s : Scan) (n : Nat) (d : Directive) : Scan :=
  let close (scope : Scope) (comment : Nat) (span : Option (Nat × Nat)) : List Suppressed :=
    s.closed ++ [⟨d.target, scope, comment, span, false⟩]
  match d.verb with
  | .file => { s with closed := close .file n none }
  | .nextLine => if n < total then { s with closed := close .nextLine n (some (n + 1, n + 1)) } else s
  | .line => { s with closed := close .line n (some (n, n)) }
  | .block => { s with opened := Assoc.put d.target n s.opened }
  | .enable =>
    match Assoc.get? d.target s.opened with
    | none => s
    | some first => ⟨close .block first (some (first, n)), Assoc.erase d.target s.opened⟩

/-- Scans numbered lines from the top. -/
def scan (total : Nat) (lines : List (Nat × List Char)) : Scan :=
  lines.foldl (fun s l =>
    match Directive.onLine l.2 with
    | none => s
    | some d => step total s l.1 d) ⟨[], []⟩

/-- The ranges of a text: those closed on the way, then the blocks still open. -/
def parse (content : String) : Tracker :=
  let lines := Text.splitLines content.toList
  let s := scan lines.length (Text.numberFrom 1 lines)
  ⟨s.closed ++ s.opened.map fun (t, first) =>
    ⟨t, .block, first, some (first, lines.length), false⟩⟩

/-! ## 2. Use -/

/-- Marks the first range that covers a rule at a line, and says whether there is one. -/
def mark (rule : String) (line : Option Int) : List Suppressed → Bool × List Suppressed
  | [] => (false, [])
  | r :: rs =>
    if r.covers rule line then (true, { r with used := true } :: rs)
    else
      let (found, rs) := mark rule line rs
      (found, r :: rs)

/-- Whether a rule is suppressed at a line; the range that does it is marked. -/
def query (t : Tracker) (rule : String) (line : Option Int) : Bool × Tracker :=
  let (found, rs) := mark rule line t.ranges
  (found, ⟨rs⟩)

/-- Whether some range covers a rule at a line. -/
def covers (t : Tracker) (rule : String) (line : Option Int) : Bool :=
  t.ranges.any fun r => r.covers rule line

/-- The ranges that suppressed nothing. -/
def unused (t : Tracker) : List Suppressed := t.ranges.filter fun r => !r.used

/-! ## 3. Small facts -/

theorem mark_fst (rule : String) (line : Option Int) (rs : List Suppressed) :
    (mark rule line rs).1 = rs.any fun r => r.covers rule line := by
  induction rs with
  | nil => rfl
  | cons r rs ih =>
    by_cases h : r.covers rule line
    · simp [mark, h]
    · simp [mark, h, ih]

/-- The answer to a query depends on the ranges alone. -/
theorem query_fst (t : Tracker) (rule : String) (line : Option Int) :
    (t.query rule line).1 = t.covers rule line := mark_fst rule line t.ranges

theorem covers_used (s : Suppressed) (rule : String) (line : Option Int) :
    { s with used := true }.covers rule line = s.covers rule line := rfl

theorem any_covers_mark (rule rule' : String) (line line' : Option Int) (rs : List Suppressed) :
    ((mark rule line rs).2.any fun r => r.covers rule' line') = rs.any fun r => r.covers rule' line' := by
  induction rs with
  | nil => rfl
  | cons r rs ih =>
    by_cases h : r.covers rule line
    · simp [mark, h, covers_used]
    · simp [mark, h, ih]

/-- A query marks a range and covers what was covered before. -/
theorem covers_query (t : Tracker) (rule : String) (line : Option Int) :
    (t.query rule line).2.covers = t.covers := by
  funext rule' line'
  exact any_covers_mark rule rule' line line' t.ranges

end Tracker

end AgentLint
