import AgentLint.Markdown.Line

/-!
# Imports

An import is a word that starts with an at sign and names a file after it.  Inside fenced blocks and
inline code an at sign does not import anything; what merely looks like an import there is found by
`tokens`.
-/

namespace AgentLint.Markdown

/-- An import: the path as written, and its line. -/
structure Import where
  /-- What stands after the at sign. -/
  path : String
  /-- The number of the line. -/
  line : Nat
  deriving DecidableEq, Repr

/-- Joins the pieces between backticks, leaving out those that stand between two of them.  A backtick
without a partner stays. -/
def dropPaired : List (List Char) → List Char
  | [] => []
  | [p] => p
  | [p, q] => p ++ '`' :: q
  | p :: _ :: r :: rest => p ++ dropPaired (r :: rest)

/-- A line without its inline code. -/
def withoutInlineCode (line : List Char) : List Char := dropPaired (Text.splitOn '`' line)

/-- The path that a word imports. -/
def imported? : List Char → Option String
  | '@' :: c :: rest => some (String.ofList (c :: rest))
  | _ => none

/-- The imports of a text, in order. -/
def imports (content : String) : List Import :=
  (Text.numberFrom 1 (Text.splitLines (withoutCode content).toList)).flatMap fun (n, line) =>
    ((Text.words (withoutInlineCode line)).filterMap imported?).map fun p => ⟨p, n⟩

/-- What follows the first at sign of each word of a line. -/
def tokens (line : String) : List String :=
  (Text.words line.toList).filterMap fun w => imported? (w.dropWhile (· ≠ '@'))

end AgentLint.Markdown
