import AgentLint.Text.Blank

/-!
# Suppression directives

A directive is an HTML comment on one line:

    <!-- lintloom-disable-file [rule] -->
    <!-- lintloom-disable-next-line [rule] -->
    <!-- lintloom-disable-line [rule] -->
    <!-- lintloom-disable [rule] -->
    <!-- lintloom-enable [rule] -->

Without a rule it concerns all rules.  The name of a rule is a word over small letters, digits and
hyphens that does not start with a hyphen.  A line carries the directive that starts leftmost on it.
-/

namespace AgentLint

/-- What a directive does. -/
inductive Verb where
  /-- Suppresses in the whole file. -/
  | file
  /-- Suppresses on the next line. -/
  | nextLine
  /-- Suppresses on its own line. -/
  | line
  /-- Suppresses from here on. -/
  | block
  /-- Ends a block. -/
  | enable
  deriving DecidableEq, Repr

/-- The word for what a directive does. -/
def Verb.word : Verb → String
  | file => "disable-file"
  | nextLine => "disable-next-line"
  | line => "disable-line"
  | block => "disable"
  | enable => "enable"

/-- The verbs, longer words before those they start with. -/
def Verb.all : List Verb := [.file, .nextLine, .line, .block, .enable]

/-- A directive: what it does, and the rule it concerns. -/
structure Directive where
  /-- What it does. -/
  verb : Verb
  /-- The rule, or the name that stands for all rules. -/
  target : String
  deriving DecidableEq, Repr

namespace Directive

/-- The name that stands for all rules. -/
def allRules : String := "all"

/-- The rest of a text after a given start. -/
def after? (start : List Char) (cs : List Char) : Option (List Char) :=
  if start.isPrefixOf cs then some (cs.drop start.length) else none

/-- A character of a rule name. -/
def isNameChar (c : Char) : Bool := c.isLower || c.isDigit || c = '-'

/-- The characters that close a comment. -/
def closing : List Char := ['-', '-', '>']

/-- Whether the comment closes here, after blanks. -/
def closes (cs : List Char) : Bool := closing.isPrefixOf (cs.dropWhile Text.isBlank)

/-- A rule name followed by the end of the comment.  Two hyphens before the closing bracket belong
to the end, not to the name. -/
def name? (cs : List Char) : Option (List Char) :=
  let word := cs.takeWhile isNameChar
  let rest := cs.dropWhile isNameChar
  match word with
  | [] => none
  | '-' :: _ => none
  | _ =>
    if closes rest then some word
    else if rest.head? = some '>' && ['-', '-'].isSuffixOf word && 2 < word.length then
      some (word.take (word.length - 2))
    else none

/-- What follows the verb: a rule name after blanks, or nothing, and the end of the comment. -/
def target? (cs : List Char) : Option String :=
  let rest := cs.dropWhile Text.isBlank
  let named := if rest.length < cs.length then name? rest else none
  match named with
  | some n => some (String.ofList n)
  | none => if closes cs then some allRules else none

/-- A directive at the very start of a text. -/
def startingAt (cs : List Char) : Option Directive := do
  let rest ← after? "<!--".toList cs
  let rest ← after? "lintloom-".toList (rest.dropWhile Text.isBlank)
  Verb.all.findSome? fun v => do
    let rest ← after? v.word.toList rest
    let t ← target? rest
    some ⟨v, t⟩

/-- The leftmost directive of a line. -/
def onLine : List Char → Option Directive
  | [] => none
  | c :: cs =>
    match startingAt (c :: cs) with
    | some d => some d
    | none => onLine cs

end Directive

end AgentLint
