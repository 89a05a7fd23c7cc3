import AgentLint.Text.Blank

/-!
# Shortening a text

A text of more than fifty bytes is shown by its beginning and its end: at most 25 bytes, three dots,
and at most 24 bytes.  No character is cut in two.
-/

namespace AgentLint.Text

/-- The longest text that is shown whole, in bytes. -/
def wholeBytes : Nat := 50

/-- As many characters from the front as fit into a number of bytes. -/
def takeBytes : (room : Nat) → List Char → List Char
  | _, [] => []
  | room, c :: cs =>
    if c.utf8Size ≤ room then c :: takeBytes (room - c.utf8Size) cs else []

/-- Shortens a long text. -/
def elide (s : String) : String :=
  if s.utf8ByteSize ≤ wholeBytes then s
  else
    let cs := s.toList
    String.ofList (takeBytes 25 cs ++ "...".toList ++ (takeBytes 24 cs.reverse).reverse)

end AgentLint.Text
