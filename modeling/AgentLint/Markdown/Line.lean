import AgentLint.Text.Blank

/-!
# Lines of a Markdown text

Which lines of a text are prose, which are fences, and which stand inside a fenced block.  A fence is
a line that starts, after blanks, with three backticks or three tildes; a block ends at the next
fence of the same kind, or at the end of the text.

A text is looked at without its code (`withoutCode`), and its code is looked at alone (`codeLines`).
Each of the two goes through the lines by itself and keeps track of the block that is open.
-/

namespace AgentLint.Markdown

/-! ## 1. Fences -/

/-- The two kinds of fence. -/
inductive Fence where
  /-- Three backticks. -/
  | backticks
  /-- Three tildes. -/
  | tildes
  deriving DecidableEq, Repr

/-- The fence that a line starts with, if it does. -/
def fence? (line : List Char) : Option Fence :=
  match line.dropWhile Text.isBlank with
  | '`' :: '`' :: '`' :: _ => some .backticks
  | '~' :: '~' :: '~' :: _ => some .tildes
  | _ => none

/-! ## 2. With and without code -/

/-- Lines with fences and code emptied, given the block that is open before them. -/
def emptyCode : Option Fence → List (List Char) → List (List Char)
  | _, [] => []
  | none, line :: rest =>
    match fence? line with
    | some f => [] :: emptyCode (some f) rest
    | none => line :: emptyCode none rest
  | some f, line :: rest => [] :: emptyCode (if fence? line = some f then none else some f) rest

/-- The lines of a text with fences and code emptied, so that line numbers stay. -/
def proseLines (content : List Char) : List (List Char) := emptyCode none (Text.splitLines content)

/-- A text with fences and code emptied. -/
def withoutCode (content : String) : String :=
  String.ofList (Text.joinLines (proseLines content.toList))

/-- The numbered lines that stand inside blocks, given the block that is open before them. -/
def insideBlocks : Option Fence → List (Nat × List Char) → List (Nat × List Char)
  | _, [] => []
  | none, (_, line) :: rest => insideBlocks (fence? line) rest
  | some f, (n, line) :: rest =>
    if fence? line = some f then insideBlocks none rest else (n, line) :: insideBlocks (some f) rest

/-- The lines inside blocks, with their numbers. -/
def codeLines (content : String) : List (Nat × String) :=
  (insideBlocks none (Text.numberFrom 1 (Text.splitLines content.toList))).map fun (n, line) =>
    (n, String.ofList line)

/-- The number of lines of a text. -/
def lineCount (content : String) : Nat := (Text.splitLines content.toList).length

/-! ## 3. Headings -/

/-- The deepest level of a heading. -/
def deepestHeading : Nat := 6

/-- A heading: one to six number signs, blanks, and something after them. -/
def isHeading (line : List Char) : Bool :=
  let signs := (line.takeWhile (· = '#')).length
  let rest := line.dropWhile (· = '#')
  1 ≤ signs && signs ≤ deepestHeading && (rest.head?.any Text.isBlank) &&
    !(rest.dropWhile Text.isBlank).isEmpty

end AgentLint.Markdown
