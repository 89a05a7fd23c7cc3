import AgentLint.Text.Blank
import AgentLint.Yaml.Load

/-!
# Frontmatter

A text may begin with a header between two lines of three hyphens.  The header is a YAML document,
and it is usable if it is a map; an empty one is the empty map.  What follows the closing line is the
body.  There is always at least one line between the two, and a closing line may be the last of the
text.  Carriage returns before line feeds belong to the line ends here.

`Frontmatter.read` fails only on a scalar of the header that does not convert; malformed YAML and a
header that is no map are results, so that they can be reported.
-/

namespace AgentLint

/-! ## 1. The block -/

namespace Frontmatter

/-- A text cut at its header. -/
structure Block where
  /-- The lines of the header. -/
  header : List (List Char)
  /-- The lines after it; `none` if the closing line ends the text. -/
  rest : Option (List (List Char))
  deriving DecidableEq, Repr

/-- A blank in the sense of the lines that fence a header. -/
def isMargin (c : Char) : Bool := c = ' ' || c = '\t'

/-- What follows three hyphens and margins on a line. -/
def afterHyphens? : List Char → Option (List Char)
  | '-' :: '-' :: '-' :: rest => some (rest.dropWhile isMargin)
  | _ => none

/-- A line of hyphens that a line feed follows. -/
def isFence (line : List Char) : Bool :=
  match afterHyphens? line with
  | some [] | some ['\r'] => true
  | _ => false

/-- A line of hyphens at the end of the text. -/
def isLastFence (line : List Char) : Bool := afterHyphens? line = some []

/-- Finds the closing line among the lines after the first line of a header, whose lines so far are
`seen`, last one first. -/
def close? (seen : List (List Char)) : List (List Char) → Option Block
  | [] => none
  | [line] => if isLastFence line then some ⟨seen.reverse, none⟩ else none
  | line :: rest => if isFence line then some ⟨seen.reverse, some rest⟩ else close? (line :: seen) rest

/-- The header of a text. -/
def block? (content : List Char) : Option Block :=
  match Text.splitLines content with
  | first :: line :: rest => if isFence first then close? [line] rest else none
  | _ => none

/-- A carriage return at the end of the header belongs to the line end. -/
def dropReturn (cs : List Char) : List Char :=
  if cs.getLast? = some '\r' then cs.dropLast else cs

/-- The text of the header. -/
def Block.raw (b : Block) : List Char := dropReturn (Text.joinLines b.header)

/-- The text after the header. -/
def Block.body (b : Block) : List Char := Text.joinLines (b.rest.getD [])

/-- The number of line feeds up to the body. -/
def Block.offset (b : Block) : Nat := b.header.length + 1 + (if b.rest.isSome then 1 else 0)

/-! ## 2. Its content -/

/-- What the header of a text is good for. -/
inductive Header where
  /-- There is none. -/
  | absent
  /-- It is not YAML. -/
  | notYaml
  /-- It is no map. -/
  | notMapping
  /-- Its fields. -/
  | fields (es : Entries)
  deriving Inhabited

end Frontmatter

/-- A text split into header and body. -/
structure Frontmatter where
  /-- What the header holds. -/
  header : Frontmatter.Header
  /-- The text after it, or the whole text if there is none. -/
  body : String
  /-- The number of lines before the body. -/
  offset : Nat
  /-- The text of the header. -/
  raw : String
  deriving Inhabited

namespace Frontmatter

/-- Whether there is a header. -/
def present (f : Frontmatter) : Bool :=
  match f.header with
  | .absent => false
  | _ => true

/-- The fields, if the header is usable. -/
def data? (f : Frontmatter) : Option Entries :=
  match f.header with
  | .fields es => some es
  | _ => none

/-- What is wrong with the header. -/
def complaint? (f : Frontmatter) : Option String :=
  match f.header with
  | .notYaml => some "Failed to parse YAML frontmatter: <yaml error>"
  | .notMapping => some "Frontmatter must be a YAML mapping"
  | _ => none

/-- The header that a YAML document makes. -/
def Header.ofValue : Value → Header
  | .null => .fields []
  | .map es => .fields es
  | _ => .notMapping

/-- Splits a text into header and body. -/
def read (content : String) : Except Yaml.ScalarFault Frontmatter :=
  match block? content.toList with
  | none => .ok ⟨.absent, content, 0, ""⟩
  | some b =>
    let raw := String.ofList b.raw
    let made (h : Header) : Frontmatter := ⟨h, String.ofList b.body, b.offset, raw⟩
    match Yaml.read raw with
    | .ok v => .ok (made (.ofValue v))
    | .error (.malformed _) => .ok (made .notYaml)
    | .error (.scalar f) => .error f

/-! ## 3. Where a field stands -/

/-- Whether a line starts with a key and a colon, with blanks between them at most. -/
def startsField (key line : List Char) : Bool :=
  key.isPrefixOf line &&
    ((line.drop key.length).dropWhile Text.isBlank).head? = some ':'

/-- The line of a field of the header. -/
def fieldLine? (content key : String) : Option Nat := do
  let b ← block? content.toList
  let numbered := Text.numberFrom 2 (Text.splitLines b.raw)
  (numbered.find? fun l => startsField key.toList l.2).map Prod.fst

end Frontmatter

end AgentLint
