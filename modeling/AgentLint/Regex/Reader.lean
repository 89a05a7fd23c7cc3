import AgentLint.Assoc
import AgentLint.Regex.Pattern
import AgentLint.Text.CharacterName
import AgentLint.Text.Identifier
import AgentLint.Text.Surrogate

/-!
# Reading regular expressions

`Regex.read` turns the text of an expression into a tree, or refuses it with a cause and a place.
The text is taken token by token, a backslash together with the character after it; the token after
the current one is always known, so that a lone backslash at the end is refused as soon as the
token before it is taken.
-/

namespace AgentLint.Regex

/-! ## 1. The cursor -/

/-- What the reader knows at a place. -/
structure Cursor where
  /-- The whole expression. -/
  source : List Char
  /-- The next token: a character, or a backslash and a character. -/
  next : Option (List Char)
  /-- What follows the next token. -/
  rest : List Char
  /-- The offset of the next token. -/
  offset : Nat
  /-- The global settings so far. -/
  flags : Flags
  /-- The number of groups opened, the whole expression included. -/
  groups : Nat
  /-- The numbers of the named groups. -/
  names : Assoc String Nat
  /-- Least and greatest width of the groups that are closed. -/
  widths : Assoc Nat (Nat × Nat)
  /-- While looking back: the number of groups when the look began. -/
  behind : Option Nat
  /-- The groups that conditions name, with the place of the first such condition. -/
  conditions : Assoc Nat Nat

/-- A step of the reader. -/
abbrev Reading (α : Type) := StateT Cursor (Except Refusal) α

/-- Refuses at an offset. -/
def refuseAt {α : Type} (cause : Cause) (place : Nat) : Reading α := do
  throw ⟨cause, some place, (← get).source⟩

/-- Refuses `back` characters before the next token. -/
def refuse {α : Type} (cause : Cause) (back : Nat) : Reading α := do
  refuseAt cause ((← get).offset - back)

/-- Makes the token at the start of `cs` the next one. -/
def load (offset : Nat) (cs : List Char) : Reading Unit := do
  match cs with
  | [] => modify fun c => { c with next := none, rest := [], offset := offset }
  | '\\' :: [] => refuseAt .trailingEscape ((← get).source.length - 1)
  | '\\' :: e :: rest =>
    modify fun c => { c with next := some ['\\', e], rest := rest, offset := offset }
  | a :: rest => modify fun c => { c with next := some [a], rest := rest, offset := offset }

/-- Takes the next token. -/
def take : Reading (Option (List Char)) := do
  let c ← get
  match c.next with
  | none => pure none
  | some t => do
    load (c.offset + t.length) c.rest
    pure (some t)

/-- Takes the next token if it is the character `ch`. -/
def accept (ch : Char) : Reading Bool := do
  if (← get).next = some [ch] then
    let _ ← take
    pure true
  else pure false

/-- Goes back to an offset. -/
def seek (offset : Nat) : Reading Unit := do
  load offset ((← get).source.drop offset)

/-- Takes at most `n` tokens that are characters of a class. -/
def takeWhileUpTo (p : Char → Bool) : Nat → Reading (List Char)
  | 0 => pure []
  | n + 1 => do
    match (← get).next with
    | some [c] =>
      if p c then do
        let _ ← take
        let cs ← takeWhileUpTo p n
        pure (c :: cs)
      else pure []
    | _ => pure []

/-- The text up to the character `stop`, which is taken too; `what` names it in refusals. -/
def takeUntil (stop : Char) (what : String) : (fuel : Nat) → (acc : List Char) →
    Reading (List Char)
  | 0, _ => refuse (.missing what) 0
  | fuel + 1, acc => do
    match ← take with
    | none =>
      if acc.isEmpty then refuse (.missing what) 0
      else refuse (.unterminatedName (String.singleton stop)) acc.length
    | some t =>
      if t = [stop] then
        if acc.isEmpty then refuse (.missing what) 1 else pure acc
      else takeUntil stop what fuel (acc ++ t)

/-- `takeUntil` with fuel for the whole expression. -/
def takeName (stop : Char) (what : String) : Reading (List Char) := do
  takeUntil stop what ((← get).source.length + 1) []

/-! ## 2. Escapes -/

/-- Hexadecimal digits. -/
def isHex (c : Char) : Bool := c.isDigit || ('a' ≤ c && c ≤ 'f') || ('A' ≤ c && c ≤ 'F')

/-- Octal digits. -/
def isOctal (c : Char) : Bool := '0' ≤ c && c ≤ '7'

/-- Digits in a base up to sixteen. -/
def ofBase (base : Nat) (ds : List Char) : Nat :=
  ds.foldl (fun n c =>
    n * base + (if c.isDigit then c.toNat - 48 else c.toLower.toNat - 87)) 0

/-- ASCII letters. -/
def isLetter (c : Char) : Bool := c.isAlpha

/-- Escapes that stand for one control character or the backslash. -/
def controlEscape? (c : Char) : Option Nat :=
  match c with
  | 'a' => some 7
  | 'f' => some 12
  | 'n' => some 10
  | 'r' => some 13
  | 't' => some 9
  | 'v' => some 11
  | '\\' => some 92
  | _ => none

/-- Escapes that stand for a class of characters. -/
def categoryEscape? (c : Char) : Option SetItem :=
  match c with
  | 'd' => some (.category .digit false)
  | 'D' => some (.category .digit true)
  | 's' => some (.category .space false)
  | 'S' => some (.category .space true)
  | 'w' => some (.category .word false)
  | 'W' => some (.category .word true)
  | _ => none

/-- Escapes that stand for a place. -/
def anchorEscape? (c : Char) : Option Anchor :=
  match c with
  | 'A' => some .textStart
  | 'b' => some .boundary
  | 'B' => some .notBoundary
  | 'Z' => some .textEnd
  | _ => none

/-- A numeric escape of exactly `n` hexadecimal digits after `\c`. -/
def hexEscape (c : Char) (n : Nat) : Reading Nat := do
  let ds ← takeWhileUpTo isHex n
  let whole := '\\' :: c :: ds
  if ds.length ≠ n then refuse (.incompleteEscape (String.ofList whole)) whole.length
  let code := ofBase 16 ds
  if 0x80000000 ≤ code then throw ⟨.oversizedEscape, none, (← get).source⟩
  if 0x10FFFF < code then refuse (.badEscape (String.ofList whole)) whole.length
  pure code

/-- The escapes by code or name that sets and expressions share; `none` if `c` starts none. -/
def codeEscape? (c : Char) : Reading (Option Nat) := do
  match c with
  | 'x' => some <$> hexEscape c 2
  | 'u' => some <$> hexEscape c 4
  | 'U' => some <$> hexEscape c 8
  | 'N' =>
    if !(← accept '\x7b') then refuse (.missing "\x7b") 0
    let name ← takeName '\x7d' "character name"
    match Text.codeOfName? name with
    | some n => pure (some n)
    | none => refuse (.unknownCharacter (String.ofList name)) (name.length + 4)
  | _ => pure none

/-- An escape inside a set. -/
def setEscape (c : Char) : Reading SetItem := do
  if let some n := controlEscape? c then return .code n
  if c = 'b' then return .code 8
  if let some item := categoryEscape? c then return item
  if let some n ← codeEscape? c then return .code n
  if isOctal c then
    let ds ← takeWhileUpTo isOctal 2
    let whole := '\\' :: c :: ds
    let n := ofBase 8 (c :: ds)
    if 0o377 < n then refuse (.octalRange (String.ofList whole)) whole.length
    return .code n
  if c.isDigit || isLetter c then refuse (.badEscape (String.ofList ['\\', c])) 2
  pure (.code (Text.codeOf c))

/-- Whether a group is closed. -/
def isClosed (g : Nat) : Reading Bool := do
  let c ← get
  pure (g < c.groups && (Assoc.get? g c.widths).isSome)

/-- While looking back, only groups closed before the look began can be referred to. -/
def checkBehind (g : Nat) : Reading Unit := do
  match (← get).behind with
  | none => pure ()
  | some limit =>
    if !(← isClosed g) then refuse .openGroup 0
    if limit ≤ g then refuse .sameLookbehind 0

/-- A reference to a group by number, or an octal escape: three octal digits are the latter. -/
def digitEscape (c : Char) : Reading Part := do
  let second ← takeWhileUpTo Char.isDigit 1
  match second with
  | [d] =>
    if isOctal c && isOctal d then
      match ← takeWhileUpTo isOctal 1 with
      | [e] =>
        let n := ofBase 8 [c, d, e]
        if 0o377 < n then refuse (.octalRange (String.ofList ['\\', c, d, e])) 4
        return .code n
      | _ => pure ()
  | _ => pure ()
  let digits := c :: second
  let g := ofBase 10 digits
  if g < (← get).groups then
    if !(← isClosed g) then refuse .openGroup (digits.length + 1)
    checkBehind g
    pure (.again g)
  else refuse (.invalidReference g) digits.length

/-- An escape outside a set. -/
def escape (c : Char) : Reading Part := do
  if let some a := anchorEscape? c then return .anchor a
  if let some item := categoryEscape? c then return .set false [item]
  if let some n := controlEscape? c then return .code n
  if let some n ← codeEscape? c then return .code n
  if c = '0' then
    let ds ← takeWhileUpTo isOctal 2
    return .code (ofBase 8 ds)
  if c.isDigit then return ← digitEscape c
  if isLetter c then refuse (.badEscape (String.ofList ['\\', c])) 2
  pure (.code (Text.codeOf c))

/-! ## 3. Sets -/

/-- The text of a token. -/
def tokenText (t : List Char) : String := String.ofList t

/-- One end of a range, or a single member. -/
def setMember (t : List Char) : Reading SetItem := do
  match t with
  | ['\\', c] => setEscape c
  | c :: _ => pure (.code (Text.codeOf c))
  | [] => pure (.code 0)

/-- The members of a set up to its bracket; `start` is the offset of the opening bracket. -/
def setItems (start : Nat) : (fuel : Nat) → (acc : List SetItem) → Reading (List SetItem)
  | 0, _ => refuseAt .unterminatedSet start
  | fuel + 1, acc => do
    match ← take with
    | none => refuseAt .unterminatedSet start
    | some lo =>
      if lo = [']'] && !acc.isEmpty then return acc
      let first ← setMember lo
      if ← accept '-' then
        match ← take with
        | none => refuseAt .unterminatedSet start
        | some hi =>
          if hi = [']'] then return acc ++ [first, .code 45]
          let second ← setMember hi
          match first, second with
          | .code a, .code b =>
            if b < a then
              refuse (.badRange (tokenText lo) (tokenText hi)) (lo.length + 1 + hi.length)
            setItems start fuel (acc ++ [.range a b])
          | _, _ =>
            refuse (.badRange (tokenText lo) (tokenText hi)) (lo.length + 1 + hi.length)
      else setItems start fuel (acc ++ [first])

/-- A set whose opening bracket has been taken. -/
def readSet : Reading Part := do
  let c ← get
  let start := c.offset - 1
  let negated ← accept '^'
  let items ← setItems start (c.source.length + 1) []
  pure (ofItems negated items)

/-! ## 4. Repetitions -/

/-- What no bound of a repetition may reach. -/
def boundLimit : Nat := 4294967295

/-- A bound from its digits. -/
def boundOf (ds : List Char) : Reading Nat := do
  let source := (← get).source
  if Decimal.mostDigits < ds.length then throw ⟨.longNumber ds.length, none, source⟩
  let n := ofBase 10 ds
  if boundLimit ≤ n then throw ⟨.repetitionTooLarge, none, source⟩
  pure n

/-- The bounds of a repetition; `none` if a brace turns out to be an ordinary character. -/
def bounds (c : Char) : Reading (Option (Nat × Option Nat)) := do
  match c with
  | '?' => pure (some (0, some 1))
  | '*' => pure (some (0, none))
  | '+' => pure (some (1, none))
  | _ => do
    let cur ← get
    let here := cur.offset
    if cur.next = some ['\x7d'] then return none
    let n := cur.source.length + 1
    let lo ← takeWhileUpTo Char.isDigit n
    let comma ← accept ','
    let hi ← if comma then takeWhileUpTo Char.isDigit n else pure lo
    if !(← accept '\x7d') then
      seek here
      return none
    let least ← boundOf lo
    let most ← if hi.isEmpty then pure none else some <$> boundOf hi
    if let some m := most then
      if m < least then refuseAt .minGreaterThanMax here
    pure (some (least, most))

/-- Puts a repetition on the last part read. -/
def repeatLast (mark : Nat) (least : Nat) (most : Option Nat) (acc : List Part) :
    Reading (List Part) := do
  match acc.getLast? with
  | none => refuseAt .nothingToRepeat mark
  | some (.anchor _) => refuseAt .nothingToRepeat mark
  | some (.rounds ..) => refuseAt .multipleRepeat mark
  | some part => do
    let mode ← do
      if ← accept '?' then pure Appetite.lazy
      else if ← accept '+' then pure Appetite.possessive
      else pure Appetite.greedy
    pure (acc.dropLast ++ [.rounds mode least most (ungroup [part])])

/-! ## 5. Widths -/

/-- The greatest width, which stands for "no bound"; the least one is kept below it. -/
def wide : Nat := boundLimit

mutual
/-- Least and greatest number of characters a part can match, given those of the closed groups. -/
def partWidth (groups : Assoc Nat (Nat × Nat)) : Part → Nat × Nat
  | .code _ | .notCode _ | .any | .set _ _ => (1, 1)
  | .anchor _ | .look _ _ _ => (0, 0)
  | .branch alts => altWidth groups alts
  | .rounds _ least most body =>
    let (lo, hi) := seqWidth groups body
    (lo * least, hi * most.getD wide)
  | .group _ _ _ body => seqWidth groups body
  | .atomic body => seqWidth groups body
  | .again g => (Assoc.get? g groups).getD (0, 0)
  | .either _ yes no =>
    let (a, b) := seqWidth groups yes
    let (c, d) := seqWidth groups no
    (min a c, max b d)

/-- The width of a sequence. -/
def seqWidth (groups : Assoc Nat (Nat × Nat)) : List Part → Nat × Nat
  | [] => (0, 0)
  | p :: ps =>
    let (a, b) := partWidth groups p
    let (c, d) := seqWidth groups ps
    (min (a + c) (wide - 1), min (b + d) wide)

/-- The width of the alternatives taken together. -/
def altWidth (groups : Assoc Nat (Nat × Nat)) : List (List Part) → Nat × Nat
  | [] => (0, 0)
  | [ps] => seqWidth groups ps
  | ps :: rest =>
    let (a, b) := seqWidth groups ps
    let (c, d) := altWidth groups rest
    (min a c, max b d)
end

/-! ## 6. Groups and settings -/

/-- The setting that a letter stands for. -/
def flag? (c : Char) : Option Flags :=
  match c with
  | 'i' => some { ignoreCase := true }
  | 'm' => some { multiline := true }
  | 's' => some { dotAll := true }
  | 'x' => some { verbose := true }
  | 'a' => some { ascii := true }
  | 'u' => some { wide := true }
  | 't' => some { idle := true }
  | 'L' => some {}
  | _ => none

/-- A token that is a letter, for the choice between two refusals. -/
def isAlphaToken (t : List Char) : Bool := t.all Text.isLetter

/-- The settings turned on, and the character that ends them. -/
def flagsOn : (fuel : Nat) → (c : Char) → (acc : Flags) → Reading (Flags × Char)
  | 0, _, _ => refuse (.missing "-, : or )") 0
  | fuel + 1, c, acc => do
    if c = 'L' then refuse (.badFlags "cannot use 'L' flag with a str pattern") 0
    let acc := acc.union ((flag? c).getD {})
    if acc.ascii && acc.wide then
      refuse (.badFlags "flags 'a', 'u' and 'L' are incompatible") 0
    match ← take with
    | none => refuse (.missing "-, : or )") 0
    | some [d] =>
      if d = ')' || d = '-' || d = ':' then pure (acc, d)
      else if (flag? d).isSome then flagsOn fuel d acc
      else if isAlphaToken [d] then refuse .unknownFlag 1
      else refuse (.missing "-, : or )") 1
    | some t => refuse (.missing "-, : or )") t.length

/-- The settings turned off, up to the colon. -/
def flagsOff : (fuel : Nat) → (c : Char) → (acc : Flags) → Reading Flags
  | 0, _, _ => refuse (.missing ":") 0
  | fuel + 1, c, acc => do
    if c = 'a' || c = 'u' || c = 'L' then
      refuse (.badFlags "cannot turn off flags 'a', 'u' and 'L'") 0
    let acc := acc.union ((flag? c).getD {})
    match ← take with
    | none => refuse (.missing ":") 0
    | some [d] =>
      if d = ':' then pure acc
      else if (flag? d).isSome then flagsOff fuel d acc
      else if isAlphaToken [d] then refuse .unknownFlag 1
      else refuse (.missing ":") 1
    | some t => refuse (.missing ":") t.length

/-- The settings in `(?…)` or `(?…:`; `none` for the former, which are global. -/
def readFlags (c : Char) : Reading (Option (Flags × Flags)) := do
  let fuel := (← get).source.length + 1
  let (on, stop) ← if c = '-' then pure (({} : Flags), '-') else flagsOn fuel c {}
  if stop = ')' then
    modify fun cur => { cur with flags := cur.flags.union on }
    return none
  if on.idle then refuse (.badFlags "cannot turn on global flag") 1
  let off ← do
    if stop = '-' then
      match ← take with
      | none => refuse (.missing "flag") 0
      | some [d] =>
        if (flag? d).isSome then flagsOff fuel d {}
        else if isAlphaToken [d] then refuse .unknownFlag 1
        else refuse (.missing "flag") 1
      | some t => refuse (.missing "flag") t.length
    else pure {}
  if off.idle then refuse (.badFlags "cannot turn off global flag") 1
  if !(on.minus (on.minus off)).isEmpty then
    refuse (.badFlags "flag turned on and off") 1
  pure (some (on, off))

/-- A group name up to the character `stop`. -/
def groupName (stop : Char) : Reading String := do
  let name ← takeName stop "group name"
  if !Text.isIdentifier name then refuse (.badGroupName (String.ofList name)) (name.length + 1)
  pure (String.ofList name)

/-- Opens a group and gives its number. -/
def openGroup (name : Option String) : Reading Nat := do
  let c ← get
  match name with
  | none => pure ()
  | some n =>
    match Assoc.get? n c.names with
    | some earlier => refuse (.redefinedGroup n c.groups earlier) (n.length + 1)
    | none => modify fun c => { c with names := Assoc.put n c.groups c.names }
  modify fun c => { c with groups := c.groups + 1 }
  pure c.groups

/-- Closes a group whose body has been read. -/
def closeGroup (g : Nat) (body : List Part) : Reading Unit :=
  modify fun c => { c with widths := Assoc.put g (seqWidth c.widths body) c.widths }

/-- The group that a condition names, by name or by number. -/
def conditionGroup : Reading Nat := do
  let name ← takeName ')' "group name"
  let back := name.length + 1
  if Text.isIdentifier name then
    match Assoc.get? (String.ofList name) (← get).names with
    | none => refuse (.unknownGroup (String.ofList name)) back
    | some g => pure g
  else
    let g ← match Decimal.readInteger 10 name with
      | .ok (.ofNat g) => pure g
      | _ => refuse (.badGroupName (String.ofList name)) back
    if g == 0 then refuse .badGroupNumber back
    if 1073741823 ≤ g then refuse (.invalidReference g) back
    modify fun c =>
      if Assoc.has g c.conditions then c
      else { c with conditions := Assoc.put g (c.offset - back) c.conditions }
    pure g

/-- What the characters after an opening parenthesis ask for. -/
inductive Opening where
  /-- A group to be read: its name if it captures, its settings, and whether it is atomic. -/
  | group (captures : Bool) (name : Option String) (on off : Flags) (atomic : Bool)
  /-- A look ahead or back. -/
  | look (ahead negated : Bool)
  /-- A condition on a group. -/
  | condition (group : Nat)
  /-- A part that is complete already. -/
  | done (part : Part)
  /-- Nothing to match: a comment. -/
  | nothing
  /-- Global settings. -/
  | global

/-- Skips a comment up to its parenthesis; `start` is the offset of the opening one. -/
def skipComment (start : Nat) : (fuel : Nat) → Reading Unit
  | 0 => refuseAt .unterminatedComment start
  | fuel + 1 => do
    match ← take with
    | none => refuseAt .unterminatedComment start
    | some t => if t = [')'] then pure () else skipComment start fuel

/-- Reads what stands between `(` and the body of a group. -/
def opening (start : Nat) : Reading Opening := do
  if !(← accept '?') then return .group true none {} {} false
  match ← take with
  | none => refuse .unexpectedEnd 0
  | some ['P'] =>
    if ← accept '<' then
      return .group true (some (← groupName '>')) {} {} false
    if ← accept '=' then
      let name ← groupName ')'
      match Assoc.get? name (← get).names with
      | none => refuse (.unknownGroup name) (name.length + 1)
      | some g =>
        if !(← isClosed g) then refuse .openGroup (name.length + 1)
        checkBehind g
        return .done (.again g)
    match ← take with
    | none => refuse .unexpectedEnd 0
    | some t => refuse (.unknownExtension ("P" ++ tokenText t)) (t.length + 2)
  | some [':'] => pure (.group false none {} {} false)
  | some ['#'] =>
    skipComment start ((← get).source.length + 1)
    pure .nothing
  | some ['='] => pure (.look true false)
  | some ['!'] => pure (.look true true)
  | some ['<'] =>
    match ← take with
    | none => refuse .unexpectedEnd 0
    | some ['='] => pure (.look false false)
    | some ['!'] => pure (.look false true)
    | some t => refuse (.unknownExtension ("<" ++ tokenText t)) (t.length + 2)
  | some ['('] =>
    let g ← conditionGroup
    checkBehind g
    pure (.condition g)
  | some ['>'] => pure (.group false none {} {} true)
  | some [c] =>
    if (flag? c).isSome || c = '-' then
      match ← readFlags c with
      | none => pure .global
      | some (on, off) => pure (.group false none on off false)
    else refuse (.unknownExtension (String.singleton c)) 2
  | some t => refuse (.unknownExtension (tokenText t)) (t.length + 1)

/-! ## 7. Sequences -/

/-- The blanks skipped in verbose expressions. -/
def isVerboseBlank (c : Char) : Bool := c = ' ' || (9 ≤ c.toNat && c.toNat ≤ 13)

/-- Skips a verbose comment to the end of its line. -/
def skipLine : (fuel : Nat) → Reading Unit
  | 0 => pure ()
  | fuel + 1 => do
    match ← take with
    | none => pure ()
    | some t => if t = ['\n'] then pure () else skipLine fuel

/-- Takes the parenthesis that closes the group opened at `start`. -/
def closeAt (start : Nat) : Reading Unit := do
  if !(← accept ')') then refuseAt .unterminatedGroup start

/-- How deep groups can be nested. -/
def deepest : Nat := 480

mutual
/-- Alternatives; the expression as a whole has depth zero. -/
def readBranches : (fuel : Nat) → (depth : Nat) → (verbose : Bool) → Reading (List Part)
  | 0, _, _ => pure []
  | fuel + 1, depth, verbose => do
    if deepest < depth then throw ⟨.tooDeep, none, (← get).source⟩
    let first ← readSeq fuel depth verbose (depth == 0) []
    let others ← readOthers fuel depth verbose
    if others.isEmpty then pure (ungroup first)
    else pure (ofAlternatives ((first :: others).map ungroup))

/-- The alternatives after the first. -/
def readOthers : (fuel : Nat) → (depth : Nat) → (verbose : Bool) → Reading (List (List Part))
  | 0, _, _ => pure []
  | fuel + 1, depth, verbose => do
    if ← accept '|' then
      let flags := (← get).flags
      let verbose := if depth == 0 then flags.verbose else verbose
      let ps ← readSeq fuel depth verbose false []
      let rest ← readOthers fuel depth verbose
      pure (ps :: rest)
    else pure []

/-- A sequence up to a bar, a closing parenthesis or the end; `first` holds where global settings
may stand. -/
def readSeq : (fuel : Nat) → (depth : Nat) → (verbose first : Bool) → (acc : List Part) →
    Reading (List Part)
  | 0, _, _, _, acc => pure acc
  | fuel + 1, depth, verbose, first, acc => do
    let cur ← get
    match cur.next with
    | none => pure acc
    | some ['|'] | some [')'] => pure acc
    | some t => do
      let _ ← take
      match t with
      -- A token of two characters is a backslash and the character behind it.
      | [_, c] =>
        let p ← escape c
        readSeq fuel depth verbose first (acc ++ [p])
      | [c] =>
        if verbose && isVerboseBlank c then readSeq fuel depth verbose first acc
        else if verbose && c = '#' then
          skipLine (cur.source.length + 1)
          readSeq fuel depth verbose first acc
        else if c = '[' then
          let p ← readSet
          readSeq fuel depth verbose first (acc ++ [p])
        else if c = '*' || c = '+' || c = '?' || c = '\x7b' then
          match ← bounds c with
          | none => readSeq fuel depth verbose first (acc ++ [.code (Text.codeOf c)])
          | some (least, most) =>
            let acc ← repeatLast cur.offset least most acc
            readSeq fuel depth verbose first acc
        else if c = '.' then readSeq fuel depth verbose first (acc ++ [.any])
        else if c = '^' then readSeq fuel depth verbose first (acc ++ [.anchor .lineStart])
        else if c = '$' then readSeq fuel depth verbose first (acc ++ [.anchor .lineEnd])
        else if c = '(' then
          let start := cur.offset
          match ← opening start with
          | .nothing => readSeq fuel depth verbose first acc
          | .done p => readSeq fuel depth verbose first (acc ++ [p])
          | .global =>
            if !first || !acc.isEmpty then refuseAt .lateFlags start
            readSeq fuel depth (← get).flags.verbose first acc
          | .look ahead negated =>
            let before := (← get).behind
            if !ahead && before.isNone then
              modify fun c => { c with behind := some c.groups }
            let body ← readBranches fuel (depth + 1) verbose
            if !ahead && before.isNone then modify fun c => { c with behind := none }
            closeAt start
            readSeq fuel depth verbose first (acc ++ [.look ahead negated body])
          | .condition g =>
            let yes ← ungroup <$> readSeq fuel (depth + 1) verbose false []
            let bar ← accept '|'
            let no ← if bar then ungroup <$> readSeq fuel (depth + 1) verbose false [] else pure []
            if bar && (← get).next = some ['|'] then refuse .tooManyBranches 0
            closeAt start
            readSeq fuel depth verbose first (acc ++ [.either g yes no])
          | .group captures name on off atomic =>
            let number ← if captures then some <$> openGroup name else pure none
            let inner := (verbose || on.verbose) && !off.verbose
            let body ← readBranches fuel (depth + 1) inner
            closeAt start
            if let some g := number then closeGroup g body
            let p := if atomic then Part.atomic body else Part.group number on off body
            readSeq fuel depth verbose first (acc ++ [p])
        else readSeq fuel depth verbose first (acc ++ [.code (Text.codeOf c)])
      | _ => pure acc
end

/-! ## 8. Whole expressions -/

mutual
/-- The first thing in a part that only the whole expression shows to be wrong: a look back of varying
width, or a repetition under the idle setting. -/
def partFlaw? (idle : Bool) (groups : Assoc Nat (Nat × Nat)) : Part → Option Cause
  | .look ahead _ body =>
    if !ahead && (seqWidth groups body).1 != (seqWidth groups body).2 then some .variableLookbehind
    else seqFlaw? idle groups body
  | .branch alts => altFlaw? idle groups alts
  | .rounds mode _ _ body => if idle then some (.idleRepeat mode) else seqFlaw? idle groups body
  | .group _ _ _ body | .atomic body => seqFlaw? idle groups body
  | .either _ yes no => (seqFlaw? idle groups yes).or (seqFlaw? idle groups no)
  | _ => none

/-- The first flaw in a sequence. -/
def seqFlaw? (idle : Bool) (groups : Assoc Nat (Nat × Nat)) : List Part → Option Cause
  | [] => none
  | p :: ps => (partFlaw? idle groups p).or (seqFlaw? idle groups ps)

/-- The first flaw in some alternatives. -/
def altFlaw? (idle : Bool) (groups : Assoc Nat (Nat × Nat)) : List (List Part) → Option Cause
  | [] => none
  | ps :: rest => (seqFlaw? idle groups ps).or (altFlaw? idle groups rest)
end

/-- The cursor before an expression. -/
def start (source : List Char) : Cursor :=
  ⟨source, none, [], 0, {}, 1, [], [], none, []⟩

/-- Reads an expression.  Every step takes a token, or opens one level of a group, so four steps
per character are enough. -/
def reading (source : List Char) : Reading Pattern := do
  load 0 source
  let parts ← readBranches (4 * source.length + 8) 0 false
  let c ← get
  if c.flags.ascii && c.flags.wide then throw ⟨.flagClash, none, source⟩
  if c.next.isSome then refuse .unbalanced 0
  match c.conditions.find? fun e => c.groups ≤ e.1 with
  | some (g, place) => refuseAt (.invalidReference g) place
  | none => pure ()
  if let some flaw := seqFlaw? c.flags.idle c.widths parts then throw ⟨flaw, none, source⟩
  pure ⟨parts, c.flags⟩

/-- The tree of an expression given by its characters, or why there is none. -/
def readChars (source : List Char) : Except Refusal Pattern := (reading source).run' (start source)

/-- The tree of an expression, or why there is none. -/
def read (s : String) : Except Refusal Pattern := readChars s.toList

end AgentLint.Regex
