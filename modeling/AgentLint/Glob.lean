import AgentLint.Path
import AgentLint.Regex.Match
import AgentLint.Regex.Reader

/-!
# Glob patterns

`*` and `?` stay within one name of a path, `**` spans any number of names, and `**/` at any place
also stands for nothing at all.  Both the pattern and the path are normalised before they meet.

A pattern without a character class is a list of pieces that `fits` follows one by one.  A class
`[…]` is read by the rules of regular expressions, so a pattern that holds one is matched as the
regular expression it stands for; that is also where a bad class is refused, at its offset in that
expression.
-/

namespace AgentLint

namespace Glob

/-! ## 1. Pieces -/

/-- A piece of a pattern. -/
inductive Piece where
  /-- The character itself. -/
  | lit (c : Char)
  /-- `?`: one character of a name. -/
  | one
  /-- `*`: any run of characters of a name. -/
  | star
  /-- `**`: any run of characters. -/
  | deep
  /-- `**/`: nothing, or any run of characters that ends in a slash. -/
  | deepDir
  /-- A class; the body is already in the form that regular expressions use. -/
  | cls (body : List Char)
  deriving DecidableEq, Repr

/-- The body of a class as regular expressions write it: a leading `!` becomes `^`, and a backslash
is doubled. -/
def classBody (body : List Char) : List Char :=
  match body.flatMap fun c => if c = '\\' then ['\\', '\\'] else [c] with
  | '!' :: rest => '^' :: rest
  | cs => cs

/-- Splits a class after its opening bracket: the body, of at least one character, and what follows
the closing bracket. -/
def splitClass : List Char → Option (List Char × List Char)
  | [] => none
  | c :: rest =>
    if rest.contains ']' then
      some (c :: rest.takeWhile (· ≠ ']'), (rest.dropWhile (· ≠ ']')).drop 1)
    else none

/-- The pieces of a pattern; `fuel` bounds their number. -/
def piecesAux : (fuel : Nat) → List Char → List Piece
  | 0, _ => []
  | _ + 1, [] => []
  | fuel + 1, '*' :: '*' :: '/' :: rest => .deepDir :: piecesAux fuel rest
  | fuel + 1, '*' :: '*' :: rest => .deep :: piecesAux fuel rest
  | fuel + 1, '*' :: rest => .star :: piecesAux fuel rest
  | fuel + 1, '?' :: rest => .one :: piecesAux fuel rest
  | fuel + 1, '[' :: rest =>
    match splitClass rest with
    | some (body, after) => .cls (classBody body) :: piecesAux fuel after
    | none => .lit '[' :: piecesAux fuel rest
  | fuel + 1, c :: rest => .lit c :: piecesAux fuel rest

/-- The pieces of a pattern. -/
def pieces (cs : List Char) : List Piece := piecesAux cs.length cs

/-! ## 2. Matching piece by piece -/

/-- Whether `k` holds of the text after skipping some characters of a class. -/
def skipping (p : Char → Bool) (k : List Char → Bool) : List Char → Bool
  | [] => k []
  | c :: cs => k (c :: cs) || (p c && skipping p k cs)

/-- Whether `k` holds of what follows one of the slashes before the first line feed. -/
def afterSlash (k : List Char → Bool) : List Char → Bool
  | [] => false
  | c :: cs => c ≠ '\n' && ((c = '/' && k cs) || afterSlash k cs)

/-- Whether one character is there and satisfies `p`, and `k` holds of the rest. -/
def taking (p : Char → Bool) (k : List Char → Bool) : List Char → Bool
  | [] => false
  | c :: cs => p c && k cs

/-- Whether the pieces match the whole text.  A class matches nothing here. -/
def fits : List Piece → List Char → Bool
  | [], cs => cs.isEmpty
  | .lit a :: ps, cs => taking (· = a) (fits ps) cs
  | .one :: ps, cs => taking (· ≠ '/') (fits ps) cs
  | .star :: ps, cs => skipping (· ≠ '/') (fits ps) cs
  | .deep :: ps, cs => skipping (· ≠ '\n') (fits ps) cs
  | .deepDir :: ps, cs => fits ps cs || afterSlash (fits ps) cs
  | .cls _ :: _, _ => false

/-! ## 3. As a regular expression -/

/-- The characters that a regular expression takes literally only after a backslash. -/
def special : List Char :=
  "()[]\x7b\x7d?*+-|^$\\.&~# \t\n\r".toList ++ [Char.ofNat 11, Char.ofNat 12]

/-- A piece as part of a regular expression. -/
def Piece.regex : Piece → List Char
  | .lit c => if special.contains c then ['\\', c] else [c]
  | .one => "[^/]".toList
  | .star => "[^/]*".toList
  | .deep => ".*".toList
  | .deepDir => "(?:.*/)?".toList
  | .cls body => '[' :: body ++ [']']

/-- Whether a piece is a class. -/
def Piece.isClass : Piece → Bool
  | .cls _ => true
  | _ => false

end Glob

/-- A pattern made ready for matching. -/
inductive Glob where
  /-- Without classes: its pieces. -/
  | plain (ps : List Glob.Piece)
  /-- With classes: its regular expression. -/
  | classes (r : Regex.Pattern)

namespace Glob

/-- Makes a pattern ready, or refuses its classes. -/
def compile (pattern : String) : Except Regex.Refusal Glob :=
  let ps := pieces (Path.normal pattern).toList
  if ps.any Piece.isClass then
    (Regex.read (String.ofList (ps.flatMap Piece.regex))).map .classes
  else .ok (.plain ps)

/-- Whether a pattern matches a path. -/
def accepts (g : Glob) (path : String) : Bool :=
  match g with
  | plain ps => fits ps (Path.normal path).toList
  | classes r => r.matchesAll (Path.normal path)

/-- Whether the pattern matches the path, or why the pattern is refused. -/
def glob (path pattern : String) : Except Regex.Refusal Bool :=
  (compile pattern).map fun g => g.accepts path

/-- Whether one of the patterns matches the path; patterns after the first that does are not looked
at. -/
def globAny (path : String) : List String → Except Regex.Refusal Bool
  | [] => .ok false
  | p :: ps => do if ← glob path p then pure true else globAny path ps

end Glob

end AgentLint
