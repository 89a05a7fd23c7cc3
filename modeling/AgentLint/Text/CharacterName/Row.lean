/-!
# Rows of names

The names of characters that follow each other mostly start alike.  A row holds what they start with once,
and how each goes on.
-/

namespace AgentLint.Text

/-- The names of some characters that follow each other. -/
structure NameRow where
  /-- The code point of the first. -/
  first : Nat
  /-- What all the names start with. -/
  head : String
  /-- How they go on, several in a text, with bars between them. -/
  tails : List String
  deriving DecidableEq, Repr

/-- What is left of a text after another one in front of it. -/
def after? (head cs : List Char) : Option (List Char) :=
  if head.isPrefixOf cs then some (cs.drop head.length) else none

end AgentLint.Text
