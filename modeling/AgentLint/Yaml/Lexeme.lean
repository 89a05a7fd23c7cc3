import AgentLint.Decimal.Integer
import AgentLint.Text.Surrogate
import AgentLint.Text.Utf8
import AgentLint.Yaml.Cursor

/-!
# The texts of YAML scalars

How a scalar is written over one or several lines: plain, between quotes, or as a block.  Each
function takes the cursor at the start of the scalar and gives its text and the cursor after it.
A single line end inside a flow scalar is a blank, further ones are line feeds; block scalars keep
or fold their line ends as the heading says.

Loops are bounded by the length of the text: every round of each of them takes a character.  While a text
grows it is kept backwards.
-/

namespace AgentLint.Yaml

/-- Why a text cannot be read. -/
inductive LexFault where
  /-- It is not YAML. -/
  | malformed (m : Malformed)
  /-- An escape names a number that is no code point. -/
  | codePoint (n : Nat)
  /-- A version number has more digits than are read. -/
  | tooManyDigits (n : Nat)
  /-- Lists and maps are nested too deeply. -/
  | tooDeep

/-- Adds characters to a text that is kept backwards. -/
def onto (acc cs : List Char) : List Char := cs.reverse ++ acc

/-! ## 1. Quoted scalars -/

/-- One-letter escapes in double quotes. -/
def escapes : List (Char × Nat) :=
  [('0', 0), ('a', 7), ('b', 8), ('t', 9), ('\t', 9), ('n', 10), ('v', 11), ('f', 12), ('r', 13),
   ('e', 27), (' ', 32), ('"', 34), ('\\', 92), ('/', 47), ('N', 0x85), ('_', 0xA0), ('L', 0x2028),
   ('P', 0x2029)]

/-- The number of hexadecimal digits of a numeric escape. -/
def escapeWidth? (c : Char) : Option Nat :=
  match c with
  | 'x' => some 2
  | 'u' => some 4
  | 'U' => some 8
  | _ => none

/-- The value of a hexadecimal digit. -/
def hexValue? (c : Char) : Option Nat :=
  if c.isDigit then some (c.toNat - 48)
  else if 'a' ≤ c && c ≤ 'f' then some (c.toNat - 87)
  else if 'A' ≤ c && c ≤ 'F' then some (c.toNat - 55)
  else none

/-- The number written with `n` hexadecimal digits. -/
def hexNumber? (n : Nat) (cs : List Char) : Option Nat :=
  let ds := cs.take n
  if ds.length < n then none
  else ds.foldlM (fun acc c => (hexValue? c).map (acc * 16 + ·)) 0

/-- The line ends after the first one inside quotes.  A document separator there is an error. -/
def quotedBreaks : (fuel : Nat) → (acc : List Char) → Cursor → Except LexFault (List Char × Cursor)
  | 0, acc, c => .ok (acc.reverse, c)
  | fuel + 1, acc, c =>
    if c.atSeparator then .error (.malformed .quote)
    else
      let c := c.skipWhile fun a => a = ' ' || a = '\t'
      match c.lineBreak with
      | some (b, c) => quotedBreaks fuel (b :: acc) c
      | none => .ok (acc.reverse, c)

/-- Blanks inside quotes, folded if a line ends there. -/
def quotedSpaces (c : Cursor) : Except LexFault (List Char × Cursor) :=
  let (blanks, c) := c.span fun a => a = ' ' || a = '\t'
  match c.peek with
  | none => .error (.malformed .quote)
  | some _ =>
    match c.lineBreak with
    | none => .ok (blanks, c)
    | some (b, c) =>
      match quotedBreaks c.bound [] c with
      | .error e => .error e
      | .ok (breaks, c) =>
        if b ≠ '\n' then .ok (b :: breaks, c)
        else if breaks.isEmpty then .ok ([' '], c)
        else .ok (breaks, c)

/-- The effect of a backslash in double quotes; the cursor stands after it. -/
def quotedEscape (c : Cursor) : Except LexFault (List Char × Cursor) :=
  match c.peek with
  | none => .error (.malformed .escape)
  | some a =>
    match escapes.find? fun e => e.1 = a with
    | some (_, n) => .ok ([Char.ofNat n], c.next)
    | none =>
      match escapeWidth? a with
      | some w =>
        match hexNumber? w c.next.rest with
        | none => .error (.malformed .escape)
        | some n =>
          if 0x10FFFF < n then .error (.codePoint n)
          else .ok ([Text.ofCode n], c.next.skip w)
      | none =>
        match c.lineBreak with
        | some (_, c) => quotedBreaks c.bound [] c
        | none => .error (.malformed .escape)

/-- A stretch without blanks inside quotes, added to the text so far. -/
def quotedSolid (double : Bool) : (fuel : Nat) → (acc : List Char) → Cursor →
    Except LexFault (List Char × Cursor)
  | 0, acc, c => .ok (acc, c)
  | fuel + 1, acc, c =>
    let (cs, c) := c.span fun a =>
      !(a = '\'' || a = '"' || a = '\\' || a = ' ' || a = '\t' || isBreak a)
    let acc := onto acc cs
    match c.peek with
    | some '\'' =>
      if double then quotedSolid double fuel ('\'' :: acc) c.next
      else if c.peekAt 1 = some '\'' then quotedSolid double fuel ('\'' :: acc) (c.skip 2)
      else .ok (acc, c)
    | some '"' => if double then .ok (acc, c) else quotedSolid double fuel ('"' :: acc) c.next
    | some '\\' =>
      if double then
        match quotedEscape c.next with
        | .error e => .error e
        | .ok (cs, c) => quotedSolid double fuel (onto acc cs) c
      else quotedSolid double fuel ('\\' :: acc) c.next
    | _ => .ok (acc, c)

/-- The rest of a quoted scalar: blanks and solid stretches in turn, up to the quote. -/
def quotedRest (double : Bool) : (fuel : Nat) → (acc : List Char) → Cursor →
    Except LexFault (List Char × Cursor)
  | 0, _, _ => .error (.malformed .quote)
  | fuel + 1, acc, c =>
    if c.peek = some (if double then '"' else '\'') then .ok (acc, c.next)
    else
      match quotedSpaces c with
      | .error e => .error e
      | .ok (blanks, c) =>
        match quotedSolid double c.bound (onto acc blanks) c with
        | .error e => .error e
        | .ok (acc, c) => quotedRest double fuel acc c

/-- A scalar between quotes; the cursor stands at the opening one. -/
def quotedScalar (double : Bool) (c : Cursor) : Except LexFault (String × Cursor) :=
  match quotedSolid double c.bound [] c.next with
  | .error e => .error e
  | .ok (acc, c) =>
    (quotedRest double c.bound acc c).map fun (acc, c) => (String.ofList acc.reverse, c)

/-! ## 2. Plain scalars -/

/-- Where a plain stretch ends: at a gap, at a colon before one, and inside brackets also at a
bracket or comma. -/
def plainEnds (flow : Bool) : List Char → Bool
  | [] => true
  | a :: rest =>
    atWideGap (some a) ||
      (a = ':' && (atWideGap rest.head? || (flow && endOr (",[]\x7b\x7d".toList.contains ·) rest.head?))) ||
      (flow && ",?[]\x7b\x7d".toList.contains a)

/-- The length of a plain stretch, counted on from `n`. -/
def plainLength (flow : Bool) (n : Nat) : List Char → Nat
  | [] => n
  | a :: rest => if plainEnds flow (a :: rest) then n else plainLength flow (n + 1) rest

/-- The line ends and indentation inside a plain scalar, after its first line end.  The flag is
false if a document separator comes next. -/
def plainBreaks : (fuel : Nat) → (acc : List Char) → Cursor → List Char × Cursor × Bool
  | 0, acc, c => (acc.reverse, c, true)
  | fuel + 1, acc, c =>
    if c.peek = some ' ' then plainBreaks fuel acc c.next
    else
      match c.lineBreak with
      | some (b, c) =>
        if c.atSeparator then (acc.reverse, c, false) else plainBreaks fuel (b :: acc) c
      | none => (acc.reverse, c, true)

/-- What stands between two stretches of a plain scalar: its text (nothing at all ends the scalar),
the cursor after it, and whether a line ended. -/
def plainSpaces (c : Cursor) : List Char × Cursor × Bool :=
  let (blanks, c) := c.span (· = ' ')
  match c.lineBreak with
  | none => (blanks, c, false)
  | some (b, c) =>
    if c.atSeparator then ([], c, true)
    else
      match plainBreaks c.bound [] c with
      | (_, c, false) => ([], c, true)
      | (breaks, c, true) =>
        if b ≠ '\n' then (b :: breaks, c, true)
        else if breaks.isEmpty then ([' '], c, true)
        else (breaks, c, true)

/-- A plain scalar with lines indented by at least `indent`: its text backwards, the cursor after it, and
whether a key may start there. -/
def plainAux (flow : Bool) (indent : Int) : (fuel : Nat) → (acc spaces : List Char) →
    (fresh : Bool) → Cursor → List Char × Cursor × Bool
  | 0, acc, _, fresh, c => (acc, c, fresh)
  | fuel + 1, acc, spaces, fresh, c =>
    if c.peek = some '#' then (acc, c, fresh)
    else
      let n := plainLength flow 0 c.rest
      if n = 0 then (acc, c, fresh)
      else
        let acc := onto (onto acc spaces) (c.rest.take n)
        let (spaces, c, fresh) := plainSpaces (c.skip n)
        if spaces.isEmpty || c.peek = some '#' || (!flow && (c.column : Int) < indent) then
          (acc, c, fresh)
        else plainAux flow indent fuel acc spaces fresh c

/-- A plain scalar at the cursor. -/
def plainScalar (flow : Bool) (indent : Int) (c : Cursor) : String × Cursor × Bool :=
  let (acc, c, fresh) := plainAux flow indent c.bound [] [] false c
  (String.ofList acc.reverse, c, fresh)

/-! ## 3. Block scalars -/

/-- What happens to the line ends at the end of a block. -/
inductive Chomp where
  /-- One is kept. -/
  | clip
  /-- All are kept. -/
  | keep
  /-- None is kept. -/
  | strip
  deriving DecidableEq

/-- The mark for the line ends at the end of a block. -/
def chomp? (c : Option Char) : Option Chomp :=
  if c = some '+' then some .keep else if c = some '-' then some .strip else none

/-- A digit that gives the indentation of a block; zero is an error. -/
def increment? (c : Option Char) : Except LexFault (Option Nat) :=
  match c with
  | some d =>
    if d = '0' then .error (.malformed .blockHeading)
    else if d.isDigit then .ok (some (d.toNat - 48))
    else .ok none
  | none => .ok none

/-- The heading of a block after its mark: line ends, indentation, and the cursor after its line. -/
def blockHeading (c : Cursor) : Except LexFault (Chomp × Option Nat × Cursor) := do
  let (chomp, inc, c) ← match chomp? c.peek with
    | some k => do
      let c := c.next
      let inc ← increment? c.peek
      pure (k, inc, if inc.isSome then c.next else c)
    | none => do
      let inc ← increment? c.peek
      if inc.isSome then
        let c := c.next
        match chomp? c.peek with
        | some k => pure (k, inc, c.next)
        | none => pure (Chomp.clip, inc, c)
      else pure (Chomp.clip, none, c)
  if !atGap c.peek then throw (.malformed .blockHeading)
  match c.endLine? with
  | some c => pure (chomp, inc, c)
  | none => throw (.malformed .blockHeading)

/-- The empty lines before a block whose indentation is not given, and its deepest column. -/
def blockIndentation : (fuel : Nat) → (breaks : List Char) → (deepest : Nat) → Cursor →
    List Char × Nat × Cursor
  | 0, breaks, deepest, c => (breaks.reverse, deepest, c)
  | fuel + 1, breaks, deepest, c =>
    if c.peek = some ' ' then blockIndentation fuel breaks (max deepest c.next.column) c.next
    else
      match c.lineBreak with
      | some (b, c) => blockIndentation fuel (b :: breaks) deepest c
      | none => (breaks.reverse, deepest, c)

/-- Past blanks, up to a column. -/
def toColumn (indent : Int) : (fuel : Nat) → Cursor → Cursor
  | 0, c => c
  | fuel + 1, c =>
    if (c.column : Int) < indent && c.peek = some ' ' then toColumn indent fuel c.next else c

/-- The empty lines inside a block, and the indentation of the line after them. -/
def blockBreaks (indent : Int) : (fuel : Nat) → (acc : List Char) → Cursor → List Char × Cursor
  | 0, acc, c => (acc.reverse, c)
  | fuel + 1, acc, c =>
    let c := toColumn indent c.bound c
    match c.lineBreak with
    | some (b, c) => blockBreaks indent fuel (b :: acc) c
    | none => (acc.reverse, c)

/-- The lines of a block.  `breaks` are the line ends before the next line; the result holds the text
backwards, and the last line end and the line ends after it apart, for the heading to decide about. -/
def blockLines (folded : Bool) (indent : Int) : (fuel : Nat) → (acc breaks : List Char) →
    (last : List Char) → Cursor → List Char × List Char × List Char × Cursor
  | 0, acc, breaks, last, c => (acc, last, breaks, c)
  | fuel + 1, acc, breaks, last, c =>
    if (c.column : Int) = indent && c.peek.isSome then
      let acc := onto acc breaks
      let solid := !(c.peek = some ' ' || c.peek = some '\t')
      let (line, c) := c.span fun a => !isBreak a
      let acc := onto acc line
      let (last, c) := match c.lineBreak with
        | some (b, c) => ([b], c)
        | none => ([], c)
      let (breaks, c) := blockBreaks indent c.bound [] c
      if (c.column : Int) = indent && c.peek.isSome then
        let joint :=
          if folded && last = ['\n'] && solid && !(c.peek = some ' ' || c.peek = some '\t') then
            (if breaks.isEmpty then [' '] else [])
          else last
        blockLines folded indent fuel (onto acc joint) breaks last c
      else (acc, last, breaks, c)
    else (acc, last, breaks, c)

/-- A block scalar inside a node indented by `indent`; the cursor stands at its mark. -/
def blockScalar (folded : Bool) (indent : Int) (c : Cursor) : Except LexFault (String × Cursor) := do
  let (chomp, inc, c) ← blockHeading c.next
  let least := max (indent + 1) 1
  let (breaks, column, c) := match inc with
    | none =>
      let (breaks, deepest, c) := blockIndentation c.bound [] 0 c
      (breaks, max least (deepest : Int), c)
    | some k =>
      let column := least + k - 1
      let (breaks, c) := blockBreaks column c.bound [] c
      (breaks, column, c)
  let (acc, last, breaks, c) := blockLines folded column c.bound [] breaks [] c
  let tail := match chomp with
    | .strip => []
    | .clip => last
    | .keep => last ++ breaks
  pure (String.ofList (onto acc tail).reverse, c)

/-! ## 4. Names, tags and directives -/

/-- Characters of the names of anchors, handles and directives. -/
def isName (c : Char) : Bool := c.isAlphanum || c = '-' || c = '_'

/-- Characters of a tag. -/
def isUri (c : Char) : Bool := c.isAlphanum || "-;/?:@&=+$,_.!~*'()[]%".toList.contains c

/-- The name of an anchor or alias; the cursor stands after its mark. -/
def anchorName (c : Cursor) : Except LexFault (String × Cursor) :=
  let (name, c) := c.span isName
  if name.isEmpty then .error (.malformed .anchor)
  else if endOr (fun a => a = ' ' || a = '\t' || isBreak a || "?:,]\x7d%@`".toList.contains a) c.peek then
    .ok (String.ofList name, c)
  else .error (.malformed .anchor)

/-- Bytes written as a percent sign and two hexadecimal digits each. -/
def percentBytes : (fuel : Nat) → (acc : List UInt8) → Cursor → Except LexFault (List UInt8 × Cursor)
  | 0, acc, c => .ok (acc.reverse, c)
  | fuel + 1, acc, c =>
    if c.peek = some '%' then
      match hexNumber? 2 c.next.rest with
      | some n => percentBytes fuel (UInt8.ofNat n :: acc) (c.skip 3)
      | none => .error (.malformed .tag)
    else .ok (acc.reverse, c)

/-- The text of a tag, with escaped bytes decoded. -/
def uriAux : (fuel : Nat) → (acc : List Char) → Cursor → Except LexFault (List Char × Cursor)
  | 0, acc, c => .ok (acc.reverse, c)
  | fuel + 1, acc, c =>
    match c.peek with
    | some '%' =>
      match percentBytes c.bound [] c with
      | .error e => .error e
      | .ok (bs, c) =>
        match Utf8.decode bs with
        | .error _ => .error (.malformed .tag)
        | .ok s => uriAux fuel (onto acc s.toList) c
    | some a => if isUri a then uriAux fuel (a :: acc) c.next else .ok (acc.reverse, c)
    | none => .ok (acc.reverse, c)

/-- A tag text of at least one character. -/
def uri (c : Cursor) : Except LexFault (String × Cursor) :=
  match uriAux c.bound [] c with
  | .error e => .error e
  | .ok ([], _) => .error (.malformed .tag)
  | .ok (cs, c) => .ok (String.ofList cs, c)

/-- The handle of a tag: `!`, `!!` or `!name!`; the cursor stands at its first mark. -/
def tagHandle (c : Cursor) : Except LexFault (String × Cursor) :=
  if c.peek ≠ some '!' then .error (.malformed .tag)
  else if c.peekAt 1 = some ' ' then .ok ("!", c.next)
  else
    let (name, c) := c.next.span isName
    if c.peek = some '!' then .ok (String.ofList ('!' :: name ++ ['!']), c.next)
    else .error (.malformed .tag)

/-- A tag: its handle, if any, and the rest of it; the cursor stands at its mark. -/
def tagLexeme (c : Cursor) : Except LexFault (Option String × String × Cursor) := do
  let (handle, rest, c) ←
    if c.peekAt 1 = some '<' then do
      let (s, c) ← uri (c.skip 2)
      if c.peek ≠ some '>' then throw (.malformed .tag)
      pure (none, s, c.next)
    else if atWideGap (c.peekAt 1) then pure (none, "!", c.next)
    else do
      let hasHandle := (c.next.rest.takeWhile fun a => !atGap (some a)).contains '!'
      let (handle, c) ← if hasHandle then tagHandle c else pure ("!", c.next)
      let (s, c) ← uri c
      pure (some handle, s, c)
  if atGap c.peek then pure (handle, rest, c) else throw (.malformed .tag)

/-- A directive. -/
inductive Directive where
  /-- The version of the language. -/
  | version (major : Nat)
  /-- A handle and what it stands for. -/
  | handle (name expansion : String)
  /-- One that is ignored. -/
  | other
  deriving DecidableEq

/-- Digits of a version number. -/
def versionNumber (c : Cursor) : Except LexFault (Nat × Cursor) :=
  let (ds, c) := c.span Char.isDigit
  if ds.isEmpty then .error (.malformed .directive)
  else if Decimal.mostDigits < ds.length then .error (.tooManyDigits ds.length)
  else .ok (ds.foldl (fun n d => n * 10 + (d.toNat - 48)) 0, c)

/-- A directive; the cursor stands at its percent sign. -/
def directive (c : Cursor) : Except LexFault (Directive × Cursor) := do
  let (name, c) := c.next.span isName
  if name.isEmpty || !atGap c.peek then throw (.malformed .directive)
  let (d, c) ←
    if name = "YAML".toList then do
      let (major, c) ← versionNumber c.skipBlanks
      if c.peek ≠ some '.' then throw (.malformed .directive)
      let (_, c) ← versionNumber c.next
      if !atGap c.peek then throw (.malformed .directive)
      pure (Directive.version major, c)
    else if name = "TAG".toList then do
      let (handle, c) ← tagHandle c.skipBlanks
      if c.peek ≠ some ' ' then throw (.malformed .directive)
      let (expansion, c) ← uri c.skipBlanks
      if !atGap c.peek then throw (.malformed .directive)
      pure (Directive.handle handle expansion, c)
    else pure (Directive.other, c.skipWhile fun a => !isBreak a)
  match c.endLine? with
  | some c => pure (d, c)
  | none => throw (.malformed .directive)

end AgentLint.Yaml
