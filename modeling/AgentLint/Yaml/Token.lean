import AgentLint.Yaml.Lexeme

/-!
# The tokens of a YAML text

A text is cut into tokens from left to right.  In block context, indentation opens and closes lists
and maps.  A scalar, alias or bracket may turn out to be a key only when a colon follows on the same
line within 1024 characters: its place among the tokens is remembered until then, and the key mark
is put in there.

A text that cannot be cut to its end still has the tokens before that place: what they mean may be wrong in
itself, and that is found first.
-/

namespace AgentLint.Yaml

/-- A token. -/
inductive Token where
  /-- A directive. -/
  | directive (d : Directive)
  /-- `---`. -/
  | documentStart
  /-- `...`. -/
  | documentEnd
  /-- A block list opens. -/
  | blockList
  /-- A block map opens. -/
  | blockMap
  /-- A block list or map closes. -/
  | blockEnd
  /-- `[`. -/
  | listOpen
  /-- `]`. -/
  | listClose
  /-- An opening brace. -/
  | mapOpen
  /-- A closing brace. -/
  | mapClose
  /-- `-`. -/
  | item
  /-- `,`. -/
  | comma
  /-- A key follows. -/
  | key
  /-- A value follows. -/
  | value
  /-- `*name`. -/
  | alias (name : String)
  /-- `&name`. -/
  | anchor (name : String)
  /-- `!handle!rest`. -/
  | tag (handle : Option String) (rest : String)
  /-- A scalar, and whether it is plain. -/
  | scalar (text : String) (plain : Bool)
  deriving DecidableEq

/-- A token that may turn out to be a key. -/
structure Candidate where
  /-- Its place among the tokens. -/
  position : Nat
  /-- Whether it must be a key, because it stands at the indentation of a map. -/
  required : Bool
  /-- Its offset. -/
  index : Nat
  /-- Its line. -/
  line : Nat
  /-- Its column. -/
  column : Nat

/-- Whether a candidate is too far back to be a key. -/
def Candidate.isStale (k : Candidate) (c : Cursor) : Bool := k.line ≠ c.line || 1024 < c.index - k.index

/-- The candidates for keys: one at each number of open brackets. -/
structure Candidates where
  /-- The one outside of all brackets. -/
  base : Option Candidate := none
  /-- Those inside, with the number of brackets, the most first. -/
  nested : List (Nat × Candidate) := []

namespace Candidates

/-- The candidate at a number of open brackets. -/
def get? (flow : Nat) (ks : Candidates) : Option Candidate :=
  if flow = 0 then ks.base
  else
    match ks.nested with
    | (n, k) :: _ => if n = flow then some k else none
    | [] => none

/-- Without the candidate at a number of open brackets. -/
def erase (flow : Nat) (ks : Candidates) : Candidates :=
  if flow = 0 then { ks with base := none }
  else
    match ks.nested with
    | (n, _) :: rest => if n = flow then { ks with nested := rest } else ks
    | [] => ks

/-- With a candidate at a number of open brackets, in place of another. -/
def put (flow : Nat) (k : Candidate) (ks : Candidates) : Candidates :=
  if flow = 0 then { ks with base := some k }
  else { ks with nested := (flow, k) :: (ks.erase flow).nested }

/-- All candidates. -/
def toList (ks : Candidates) : List Candidate := ks.base.toList ++ ks.nested.map Prod.snd

/-- Of `count` tokens up to a place, the number of the one that cannot be had before the next one is cut: the
first that is still a candidate for a key, or the next itself. -/
def wanted (ks : Candidates) (place : Cursor) (count : Nat) : Nat :=
  (ks.toList.filter fun k => !k.isStale place).foldl (fun n k => min n k.position) count

end Candidates

/-- The state of the cutting. -/
structure Cutter where
  /-- The place in the text. -/
  cursor : Cursor
  /-- The tokens so far, the last first. -/
  tokens : List Token
  /-- How many they are. -/
  count : Nat
  /-- The current indentation; `-1` outside everything. -/
  indent : Int
  /-- The indentations around it. -/
  outer : List Int
  /-- How many brackets are open. -/
  flow : Nat
  /-- Whether a key may start here. -/
  mayKey : Bool
  /-- The candidates for keys; those inside brackets may be too far back. -/
  candidates : Candidates

/-- A step of the cutting. -/
abbrev Cutting (α : Type) := ExceptT LexFault (StateM Cutter) α

namespace Cutting

/-- Refuses the text. -/
def refuse {α : Type} (m : Malformed) : Cutting α := throw (.malformed m)

/-- Adds a token. -/
def emit (t : Token) : Cutting Unit :=
  modify fun s => { s with tokens := t :: s.tokens, count := s.count + 1 }

/-- Moves on by `n` characters. -/
def advance (n : Nat) : Cutting Unit := modify fun s => { s with cursor := s.cursor.skip n }

/-- Says whether a key may start next. -/
def allowKey (b : Bool) : Cutting Unit := modify fun s => { s with mayKey := b }

/-- Runs a scalar or name reader at the cursor. -/
def lex {α : Type} (f : Cursor → Except LexFault (α × Cursor)) : Cutting α := do
  let s ← get
  match f s.cursor with
  | .error e => throw e
  | .ok (a, c) =>
    modify fun s => { s with cursor := c }
    pure a

/-! ## 1. Candidates for keys -/

/-- Forgets the candidate at the current number of brackets; one that had to be a key is an
error. -/
def dropCandidate : Cutting Unit := do
  let s ← get
  match s.candidates.get? s.flow with
  | none => pure ()
  | some k =>
    if k.required then refuse .simpleKey
    set { s with candidates := s.candidates.erase s.flow }

/-- Forgets the candidate outside of all brackets if it is too far back; only that one can be required.
The others are looked at when they are wanted. -/
def dropStale : Cutting Unit := do
  let s ← get
  match s.candidates.base with
  | none => pure ()
  | some k =>
    if k.isStale s.cursor then
      if k.required then refuse .simpleKey
      set { s with candidates := s.candidates.erase 0 }

/-- Remembers the next token as a candidate, if a key may start here. -/
def noteCandidate : Cutting Unit := do
  let s ← get
  if s.mayKey then
    dropCandidate
    let s ← get
    let k : Candidate :=
      ⟨s.count, s.flow = 0 && s.indent = s.cursor.column, s.cursor.index, s.cursor.line,
       s.cursor.column⟩
    set { s with candidates := s.candidates.put s.flow k }

/-! ## 2. Indentation -/

/-- Closes blocks that are indented by more than `column`; `fuel` bounds their number, as each of them took
a character. -/
def unwindAux (column : Int) : (fuel : Nat) → Cutting Unit
  | 0 => pure ()
  | fuel + 1 => do
    let s ← get
    if column < s.indent then
      set { s with indent := s.outer.headD (-1), outer := s.outer.drop 1 }
      emit .blockEnd
      unwindAux column fuel

/-- Closes blocks that are indented by more than `column`; inside brackets there are none. -/
def unwind (column : Int) : Cutting Unit := do
  let s ← get
  if s.flow = 0 then unwindAux column s.cursor.bound

/-- Opens a block if `column` is deeper than the current one, and says whether it did. -/
def deepen (column : Nat) : Cutting Bool := do
  let s ← get
  if s.indent < column then
    set { s with indent := (column : Int), outer := s.indent :: s.outer }
    pure true
  else pure false

/-! ## 3. Tokens by their first character -/

/-- Ends all blocks before a directive, a separator or the end. -/
def closeAll : Cutting Unit := do
  unwind (-1)
  dropCandidate
  allowKey false

/-- `[` or an opening brace. -/
def openBracket (t : Token) : Cutting Unit := do
  noteCandidate
  modify fun s => { s with flow := s.flow + 1 }
  allowKey true
  advance 1
  emit t

/-- `]` or a closing brace.  Without an open bracket it is left to the structure to refuse. -/
def closeBracket (t : Token) : Cutting Unit := do
  dropCandidate
  if (← get).flow = 0 then refuse .arrangement
  modify fun s => { s with flow := s.flow - 1 }
  allowKey false
  advance 1
  emit t

/-- `,`. -/
def comma : Cutting Unit := do
  allowKey true
  dropCandidate
  advance 1
  emit .comma

/-- `-` before a gap. -/
def item : Cutting Unit := do
  let s ← get
  if s.flow = 0 then
    if !s.mayKey then refuse .misplaced
    if ← deepen s.cursor.column then emit .blockList
  allowKey true
  dropCandidate
  advance 1
  emit .item

/-- `?` before a gap. -/
def explicitKey : Cutting Unit := do
  let s ← get
  if s.flow = 0 then
    if !s.mayKey then refuse .misplaced
    if ← deepen s.cursor.column then emit .blockMap
  allowKey (s.flow = 0)
  dropCandidate
  advance 1
  emit .key

/-- Puts tokens in front of the token of a number. -/
def insertAt (n : Nat) (marks : List Token) : Cutting Unit :=
  modify fun s =>
    let later := s.count - n
    { s with
      tokens := s.tokens.take later ++ marks.reverse ++ s.tokens.drop later
      count := s.count + marks.length }

/-- `:`.  A candidate becomes a key now. -/
def colon : Cutting Unit := do
  let s ← get
  match (s.candidates.get? s.flow).filter fun k => !k.isStale s.cursor with
  | some k =>
    modify fun s => { s with candidates := s.candidates.erase s.flow }
    let opens ← if s.flow = 0 then deepen k.column else pure false
    insertAt k.position (if opens then [.blockMap, .key] else [.key])
    allowKey false
  | none =>
    if s.flow = 0 then
      if !s.mayKey then refuse .misplaced
      if ← deepen s.cursor.column then emit .blockMap
    allowKey (s.flow = 0)
    dropCandidate
  advance 1
  emit .value

/-- An alias, anchor, tag or quoted scalar: it may be a key, and none follows it directly. -/
def mayBeKey (f : Cursor → Except LexFault (Token × Cursor)) : Cutting Unit := do
  noteCandidate
  allowKey false
  emit (← lex f)

/-- A block scalar. -/
def block (folded : Bool) : Cutting Unit := do
  allowKey true
  dropCandidate
  let s ← get
  let text ← lex (blockScalar folded s.indent)
  emit (.scalar text false)

/-- A plain scalar. -/
def plain : Cutting Unit := do
  noteCandidate
  allowKey false
  let s ← get
  let (text, c, fresh) := plainScalar (s.flow ≠ 0) (s.indent + 1) s.cursor
  modify fun s => { s with cursor := c, mayKey := fresh }
  emit (.scalar text true)

/-! ## 4. The loop -/

/-- Past blanks, comments and line ends; a line end outside brackets allows a key. -/
def toNextAux : (fuel : Nat) → Cutting Unit
  | 0 => pure ()
  | fuel + 1 => do
    let s ← get
    let c := s.cursor.skipBlanks
    let c := if c.peek = some '#' then c.skipWhile (fun a => !isBreak a) else c
    match c.lineBreak with
    | none => set { s with cursor := c }
    | some (_, c) =>
      set { s with cursor := c, mayKey := s.mayKey || s.flow = 0 }
      toNextAux fuel

/-- Past blanks, comments and line ends, and a byte order mark at the very start. -/
def toNext : Cutting Unit := do
  let s ← get
  if s.cursor.index = 0 && s.cursor.peek.map Char.toNat = some 0xFEFF then advance 1
  toNextAux s.cursor.bound

/-- Whether a plain scalar may start with this character, given the one after it. -/
def startsPlain (flow : Bool) (c : Char) (after : Option Char) : Bool :=
  !(atWideGap (some c) || "-?:,[]\x7b\x7d#&*!|>'\"%@`".toList.contains c) ||
    (!atWideGap after && (c = '-' || (!flow && (c = '?' || c = ':'))))

/-- Cuts one token (with the block marks before it); false at the end of the text. -/
def one : Cutting Bool := do
  toNext
  dropStale
  unwind (← get).cursor.column
  let s ← get
  let flow := s.flow ≠ 0
  let after := s.cursor.peekAt 1
  let lineStart := s.cursor.column = 0
  match s.cursor.peek with
  | none =>
    closeAll
    return false
  | some c =>
    if c = '%' && lineStart then
      closeAll
      emit (.directive (← lex directive))
    else if c = '-' && lineStart && s.cursor.atSeparator then
      closeAll
      advance 3
      emit .documentStart
    else if c = '.' && lineStart && s.cursor.atSeparator then
      closeAll
      advance 3
      emit .documentEnd
    else if c = '[' then openBracket .listOpen
    else if c = '\x7b' then openBracket .mapOpen
    else if c = ']' then closeBracket .listClose
    else if c = '\x7d' then closeBracket .mapClose
    else if c = ',' then comma
    else if c = '-' && atWideGap after then item
    else if c = '?' && (flow || atWideGap after) then explicitKey
    else if c = ':' && (flow || atWideGap after) then colon
    else if c = '*' then mayBeKey fun k => (anchorName k.next).map fun (n, k) => (.alias n, k)
    else if c = '&' then mayBeKey fun k => (anchorName k.next).map fun (n, k) => (.anchor n, k)
    else if c = '!' then mayBeKey fun k => (tagLexeme k).map fun (h, r, k) => (.tag h r, k)
    else if c = '|' && !flow then block false
    else if c = '>' && !flow then block true
    else if c = '\'' then
      mayBeKey fun k => (quotedScalar false k).map fun (t, k) => (.scalar t false, k)
    else if c = '"' then
      mayBeKey fun k => (quotedScalar true k).map fun (t, k) => (.scalar t false, k)
    else if startsPlain flow c after then plain
    else refuse .token
    return true

/-- Cuts tokens until the text ends or a token cannot be cut; then comes the fault, with the number of the
token that shows it.  Every token takes a character. -/
def all : (fuel : Nat) → Cutter → Cutter × Option (Nat × LexFault)
  | 0, s => (s, none)
  | fuel + 1, s =>
    let candidates := s.candidates
    let place := s.cursor
    let count := s.count
    match one.run s with
    | (.error e, s) => (s, some (candidates.wanted place count, e))
    | (.ok true, s) => all fuel s
    | (.ok false, s) => (s, none)

end Cutting

/-- The tokens of a text, as far as they can be cut. -/
structure Tokens where
  /-- The tokens. -/
  tokens : List Token
  /-- What is wrong with the text after them, and the number of the token that shows it: whoever asks for
  that token meets the fault. -/
  fault : Option (Nat × LexFault)

/-- The tokens of a text. -/
def Tokens.ofText (cs : List Char) : Tokens :=
  if cs.all isAllowed then
    let (s, fault) := Cutting.all (cs.length + 2) ⟨.start cs, [], 0, -1, [], 0, true, {}⟩
    ⟨s.tokens.reverse, fault⟩
  else ⟨[], some (0, .malformed .unprintable)⟩

end AgentLint.Yaml
