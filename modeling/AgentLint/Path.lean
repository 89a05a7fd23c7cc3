import AgentLint.Text.Blank

/-!
# Paths

A path is a number of leading slashes and a list of names.  Reading a path drops empty names and
names that are a single dot, so `a//./b` and `a/b` are the same path; two names up (`..`) are kept,
and so are exactly two leading slashes.  A path without any name is written as a dot.
-/

namespace AgentLint

/-- A normalised path. -/
structure Path where
  /-- Leading slashes: none for a relative path, one or two for an absolute one. -/
  slashes : Nat
  /-- The names, outermost first; none is empty, a dot, or holds a slash. -/
  names : List String
  deriving DecidableEq, Repr, Inhabited

namespace Path

/-- The names between slashes that count. -/
def namesOf (cs : List Char) : List String :=
  ((Text.splitOn '/' cs).filter fun n => n ≠ [] && n ≠ ['.']).map String.ofList

/-- Exactly two leading slashes are kept; three or more are one. -/
def slashesOf (cs : List Char) : Nat :=
  match (cs.takeWhile (· = '/')).length with
  | 0 => 0
  | 2 => 2
  | _ => 1

/-- Reads a path. -/
def ofString (s : String) : Path :=
  let cs := s.toList
  ⟨slashesOf cs, namesOf cs⟩

/-- Writes a path. -/
def text (p : Path) : String :=
  if p.slashes = 0 && p.names.isEmpty then "."
  else String.ofList (List.replicate p.slashes '/') ++ "/".intercalate p.names

/-- The text of the path that a string denotes. -/
def normal (s : String) : String := (ofString s).text

/-- A path from the root. -/
def isAbsolute (p : Path) : Bool := p.slashes ≠ 0

/-- The last name, empty if there is none. -/
def name (p : Path) : String := p.names.getLast?.getD ""

/-- Without the last name; a path without names is its own parent. -/
def parent (p : Path) : Path := { p with names := p.names.dropLast }

/-- One more name. -/
def child (p : Path) (name : String) : Path := { p with names := p.names ++ [name] }

/-- `q` seen from `p`: an absolute `q` stands for itself. -/
def join (p q : Path) : Path :=
  if q.isAbsolute then q else { p with names := p.names ++ q.names }

/-- Splits a name before its last dot, if there is one that is neither first nor last. -/
def splitName (name : List Char) : List Char × List Char :=
  let back := name.reverse
  let ext := back.takeWhile (· ≠ '.')
  let base := (back.dropWhile (· ≠ '.')).drop 1
  if ext.length = name.length || ext.isEmpty || base.isEmpty then (name, [])
  else (base.reverse, '.' :: ext.reverse)

/-- The last name without its extension. -/
def stem (p : Path) : String := String.ofList (splitName p.name.toList).1

/-- The extension of the last name, with its dot. -/
def suffix (p : Path) : String := String.ofList (splitName p.name.toList).2

/-- The names below `base`, if the path lies there. -/
def below? (base p : Path) : Option Path :=
  if base.slashes = p.slashes && base.names.isPrefixOf p.names then
    some ⟨0, p.names.drop base.names.length⟩
  else none

end Path

end AgentLint
