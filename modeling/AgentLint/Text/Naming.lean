import AgentLint.Text.Blank

/-!
# Forms of names

Two forms: words in small letters and digits joined by single hyphens, and names in capitals, digits
and underscores that do not start with a digit.  One line feed after a name is not counted.
-/

namespace AgentLint.Text

/-- A text without one line feed at its end. -/
def dropLineFeed (cs : List Char) : List Char :=
  if cs.getLast? = some '\n' then cs.dropLast else cs

/-- A small letter or a digit. -/
def isSmallAlnum (c : Char) : Bool := c.isLower || c.isDigit

/-- Groups of small letters and digits, joined by single hyphens. -/
def isHyphenated (cs : List Char) : Bool :=
  (splitOn '-' (dropLineFeed cs)).all fun g => !g.isEmpty && g.all isSmallAlnum

/-- A capital or an underscore. -/
def isConstantStart (c : Char) : Bool := c.isUpper || c = '_'

/-- A capital, a digit or an underscore. -/
def isConstantChar (c : Char) : Bool := isConstantStart c || c.isDigit

/-- A name in capitals, digits and underscores that does not start with a digit. -/
def isConstantName (cs : List Char) : Bool :=
  match dropLineFeed cs with
  | [] => false
  | c :: rest => isConstantStart c && rest.all isConstantChar

end AgentLint.Text
