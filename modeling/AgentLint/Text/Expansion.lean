import AgentLint.Text.Blank

/-!
# Variable expansions

An expansion is `${…}` up to the next closing brace, or a dollar sign in front of a name.  Inside the
braces a default may follow after `:-`.
-/

namespace AgentLint.Text

/-- The opening of a braced expansion. -/
def openBrace : Char := Char.ofNat 0x7b

/-- The end of a braced expansion. -/
def closeBrace : Char := Char.ofNat 0x7d

/-- The texts between braces, in order, each up to the next closing brace. -/
def bracedAux : (fuel : Nat) → List Char → List (List Char)
  | 0, _ => []
  | _ + 1, [] => []
  | fuel + 1, c :: cs =>
    if c = '$' && cs.head? = some openBrace then
      let inner := cs.drop 1
      if inner.contains closeBrace then
        inner.takeWhile (· ≠ closeBrace) ::
          bracedAux fuel ((inner.dropWhile (· ≠ closeBrace)).drop 1)
      else bracedAux fuel cs
    else bracedAux fuel cs

/-- The insides of the braced expansions of a text. -/
def braced (cs : List Char) : List (List Char) := bracedAux (cs.length + 1) cs

/-- A braced expansion as it is written. -/
def inBraces (inner : List Char) : List Char := '$' :: openBrace :: inner ++ [closeBrace]

/-- The part before the first `:-`. -/
def beforeDefault : List Char → List Char
  | ':' :: '-' :: _ => []
  | c :: cs => c :: beforeDefault cs
  | [] => []

/-- The variable of an expansion: the inside without default and blanks. -/
def variableOf (inner : List Char) : List Char := trim (beforeDefault inner)

/-- The first character of a name after a bare dollar sign. -/
def isBareStart (c : Char) : Bool := c.isAlpha || c = '_'

/-- A later character of such a name. -/
def isBareChar (c : Char) : Bool := c.isAlphanum || c = '_'

/-- The names after bare dollar signs, in order. -/
def bareNames : List Char → List (List Char)
  | '$' :: cs =>
    if cs.head?.any isBareStart then cs.takeWhile isBareChar :: bareNames cs else bareNames cs
  | _ :: cs => bareNames cs
  | [] => []

end AgentLint.Text
