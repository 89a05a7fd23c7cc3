import AgentLint.Text.Blank
import AgentLint.Text.Surrogate

/-!
# A place in a YAML text

The cursor that the YAML reader moves over a text: what is left, and the line, column and offset of
the next character.  Line ends are `\r\n`, `\r`, `\n`, the next-line character, and the line and
paragraph separators; the first four are read as a line feed.
-/

namespace AgentLint.Yaml

/-- Why a text is not a YAML document of the kind that is accepted. -/
inductive Malformed where
  /-- A character that must not occur at all. -/
  | unprintable
  /-- A character that starts nothing. -/
  | token
  /-- A key without its colon. -/
  | simpleKey
  /-- A list item, key or value where none may start. -/
  | misplaced
  /-- A directive that is not understood. -/
  | directive
  /-- An anchor or alias without a proper name. -/
  | anchor
  /-- A tag that is not well-formed or has an unknown handle. -/
  | tag
  /-- A block scalar with a wrong heading. -/
  | blockHeading
  /-- An unknown escape. -/
  | escape
  /-- A quoted scalar that is not closed. -/
  | quote
  /-- Tokens in an order that makes no document. -/
  | arrangement
  /-- An alias without its anchor. -/
  | undefinedAlias
  /-- An anchor that is used twice. -/
  | duplicateAnchor
  /-- More than one document. -/
  | severalDocuments
  /-- A tag that does not go with its node. -/
  | kind
  /-- A list or map as a key. -/
  | key
  /-- A merge of something that is no map. -/
  | merge
  deriving DecidableEq, Repr

/-- The place of the next character. -/
structure Cursor where
  /-- What is left. -/
  rest : List Char
  /-- The offset. -/
  index : Nat
  /-- The line, from zero. -/
  line : Nat
  /-- The column, from zero. -/
  column : Nat
  /-- More than the length of what is left: a loop that takes a character in each round ends within so many
  rounds. -/
  bound : Nat

/-- A line end. -/
def isBreak (c : Char) : Bool :=
  c = '\n' || c = '\r' || c.toNat = 0x85 || c.toNat = 0x2028 || c.toNat = 0x2029

/-- The end of the text, or a character of a class. -/
def endOr (p : Char → Bool) : Option Char → Bool
  | none => true
  | some c => p c

/-- The end of the text or a line end. -/
def atLineEnd (c : Option Char) : Bool := endOr isBreak c

/-- The end of the text, a blank or a line end. -/
def atGap (c : Option Char) : Bool := endOr (fun c => c = ' ' || isBreak c) c

/-- As `atGap`, or a tab. -/
def atWideGap (c : Option Char) : Bool := endOr (fun c => c = ' ' || c = '\t' || isBreak c) c

namespace Cursor

/-- The cursor at the start of a text. -/
def start (cs : List Char) : Cursor := ⟨cs, 0, 0, 0, cs.length + 2⟩

/-- The next character. -/
def peek (c : Cursor) : Option Char := c.rest.head?

/-- The character `n` places further on. -/
def peekAt (c : Cursor) (n : Nat) : Option Char := c.rest[n]?

/-- One character on.  A byte order mark takes no column. -/
def next (c : Cursor) : Cursor :=
  match c.rest with
  | [] => c
  | a :: rest =>
    if isBreak a && !(a = '\r' && rest.head? = some '\n') then
      { c with rest, index := c.index + 1, line := c.line + 1, column := 0 }
    else if a.toNat = 0xFEFF then { c with rest, index := c.index + 1 }
    else { c with rest, index := c.index + 1, column := c.column + 1 }

/-- `n` characters on. -/
def skip : Nat → Cursor → Cursor
  | 0, c => c
  | n + 1, c => skip n c.next

/-- The leading characters of a class, and the cursor after them. -/
def span (p : Char → Bool) (c : Cursor) : List Char × Cursor :=
  let cs := c.rest.takeWhile p
  (cs, c.skip cs.length)

/-- Past the leading characters of a class. -/
def skipWhile (p : Char → Bool) (c : Cursor) : Cursor := (c.span p).2

/-- Past leading blanks. -/
def skipBlanks (c : Cursor) : Cursor := c.skipWhile (· = ' ')

/-- Takes a line end, as it is read: the first four kinds are a line feed. -/
def lineBreak (c : Cursor) : Option (Char × Cursor) :=
  match c.rest with
  | '\r' :: '\n' :: _ => some ('\n', c.skip 2)
  | a :: _ =>
    if a = '\n' || a = '\r' || a.toNat = 0x85 then some ('\n', c.next)
    else if isBreak a then some (a, c.next)
    else none
  | [] => none

/-- Three dashes or dots that separate documents, if they stood at the start of a line. -/
def atSeparator (c : Cursor) : Bool :=
  match c.rest with
  | '-' :: '-' :: '-' :: rest => atWideGap rest.head?
  | '.' :: '.' :: '.' :: rest => atWideGap rest.head?
  | _ => false

/-- Past the blanks and the comment at the end of a line; `none` if anything else stands there. -/
def endLine? (c : Cursor) : Option Cursor :=
  let c := c.skipBlanks
  let c := if c.peek = some '#' then c.skipWhile (fun a => !isBreak a) else c
  if atLineEnd c.peek then some ((c.lineBreak.map Prod.snd).getD c) else none

end Cursor

/-- A character that may occur in a text. -/
def isAllowed (c : Char) : Bool :=
  let n := c.toNat
  n = 9 || n = 10 || n = 13 || (32 ≤ n && n ≤ 126) || n = 0x85 || (0xA0 ≤ n && n ≤ 0xD7FF) ||
    (0xE000 ≤ n && n ≤ 0xFFFD) || (0x10000 ≤ n && !Text.isSurrogate c)

end AgentLint.Yaml
