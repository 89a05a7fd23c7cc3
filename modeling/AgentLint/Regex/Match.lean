import AgentLint.Assoc
import AgentLint.Regex.Pattern
import AgentLint.Text.Blank
import AgentLint.Text.Case
import AgentLint.Text.Surrogate
import AgentLint.Text.Word

/-!
# Matching regular expressions

A backtracking matcher.  `runPart` tries a part at a place and hands every way in which it can match
to a continuation, best first; the first continuation that succeeds decides.  Depth is bounded by
`fuel`, of which `fuelFor` gives more than any run can use: each round of a repetition beyond its
least number consumes a character.
-/

namespace AgentLint.Regex

/-! ## 1. Single characters -/

/-- Whether a code point belongs to a class. -/
def Category.holds (ascii : Bool) (k : Category) (n : Nat) : Bool :=
  let c := Text.ofCode n
  match k with
  | .digit => if ascii then c.isDigit else Text.isDecimal c
  | .space => if ascii then c = ' ' || (9 ≤ n && n ≤ 13) else Text.isBlank c
  | .word => if ascii then c.isAlphanum || c = '_' else Text.isWord c

/-- The lower-case partner of a code point, as the settings see it. -/
def Flags.lower (f : Flags) (n : Nat) : Nat :=
  if f.ascii && 128 ≤ n then n else Text.lowerCode n

/-- Whether a code point has a case, as the settings see it. -/
def Flags.isCased (f : Flags) (n : Nat) : Bool :=
  if f.ascii && 128 ≤ n then false else Text.isCasedCode n

/-- The other lower-case code points that a lower-case one agrees with. -/
def Flags.siblings (f : Flags) (n : Nat) : List Nat :=
  if f.ascii then [] else Text.siblingCodes n

/-- Whether a code point fits another, up to case if the settings say so. -/
def codeFits (f : Flags) (n m : Nat) : Bool :=
  if f.ignoreCase then
    let l := f.lower n
    l == f.lower m || (f.siblings l).contains (f.lower m)
  else n == m

/-- The first code point beyond the basic plane.  In a set, those from here on are compared as they are. -/
def planeSize : Nat := 0x10000

/-- Whether a range holds a code point. -/
def within (lo hi n : Nat) : Bool := lo ≤ n && n ≤ hi

/-- Whether a range holds a code point with a case. -/
def holdsCased (f : Flags) (lo hi : Nat) : Bool := Text.casedWithin lo (if f.ascii then min hi 127 else hi)

/-- Whether a lower-case code point is the partner of one in a range. -/
def isPartnerWithin (f : Flags) (lo hi l : Nat) : Bool :=
  (f.lower l == l && within lo hi l) ||
    (Text.raisedCodes l).any fun m => within lo hi m && f.lower m == l

/-- Whether case matters for a member of a set. -/
def SetItem.isCased (f : Flags) : SetItem → Bool
  | .code n => planeSize ≤ n || f.isCased n
  | .range lo hi => planeSize ≤ hi || holdsCased f lo hi
  | .category .. => false

/-- Whether a member of a set fits a code point. -/
def SetItem.fits (f : Flags) (n : Nat) : SetItem → Bool
  | .code m => m == n
  | .range lo hi => within lo hi n
  | .category k negated => k.holds f.ascii n != negated

/-- Whether a member of a set fits a code point up to case; the code point is in lower case already. -/
def SetItem.fitsLower (f : Flags) (l : Nat) : SetItem → Bool
  | .code m => if m < planeSize then codeFits f m l else m == l
  | .range lo hi =>
    (l :: f.siblings l).any (isPartnerWithin f lo (min hi (planeSize - 1))) ||
      (planeSize ≤ hi && (within lo hi l || within lo hi (Text.upperCode l)))
  | .category k negated => k.holds f.ascii l != negated

/-- Whether a set, or its complement, fits a code point. -/
def setFits (f : Flags) (negated : Bool) (items : List SetItem) (n : Nat) : Bool :=
  (if f.ignoreCase && items.any (SetItem.isCased f) then items.any (SetItem.fitsLower f (f.lower n))
    else items.any (SetItem.fits f n)) != negated

/-- Whether two code points of the text are the same, up to case if the settings say so. -/
def isSame (f : Flags) (n m : Nat) : Bool :=
  if f.ignoreCase then f.lower n == f.lower m else n == m

/-! ## 2. Places -/

/-- Whether the place `i` lies between a word character and none. -/
def atBoundary (f : Flags) (text : Array Char) (i : Nat) : Bool :=
  let word (j : Nat) : Bool := (text[j]?.map fun c => Category.word.holds f.ascii c.toNat).getD false
  (i != 0 && word (i - 1)) != word i

/-- Whether a condition holds at a place. -/
def Anchor.holds (f : Flags) (text : Array Char) (i : Nat) : Anchor → Bool
  | .lineStart => i == 0 || (f.multiline && text[i - 1]? == some '\n')
  | .lineEnd =>
    i == text.size || (i + 1 == text.size && text[i]? == some '\n') ||
      (f.multiline && text[i]? == some '\n')
  | .textStart => i == 0
  | .textEnd => i == text.size
  | .boundary => text.size != 0 && atBoundary f text i
  | .notBoundary => text.size != 0 && !atBoundary f text i

/-! ## 3. The matcher -/

/-- What the groups have captured: first and last place. -/
abbrev Captures := Assoc Nat (Nat × Nat)

/-- The outcome of a match: where it ended and what was captured. -/
abbrev Outcome := Option (Nat × Captures)

/-- Settings inside a group. -/
def Flags.enter (f on off : Flags) : Flags :=
  let f := if on.ascii || on.wide then { f with ascii := false, wide := false } else f
  (f.union on).minus off

/-- Whether a repetition may have another round. -/
def mayGoOn (most : Option Nat) (count : Nat) : Bool :=
  match most with
  | none => true
  | some m => count < m

mutual
/-- All ways in which one part matches at `i`. -/
def runPart (text : Array Char) : (fuel : Nat) → Flags → Part → (i : Nat) → Captures →
    (k : Nat → Captures → Outcome) → Outcome
  | 0, _, _, _, _, _ => none
  | fuel + 1, f, part, i, caps, k =>
    match part with
    | .code n =>
      match text[i]? with
      | some c => if codeFits f n (Text.codeOf c) then k (i + 1) caps else none
      | none => none
    | .notCode n =>
      match text[i]? with
      | some c => if codeFits f n (Text.codeOf c) then none else k (i + 1) caps
      | none => none
    | .any =>
      match text[i]? with
      | some c => if f.dotAll || c ≠ '\n' then k (i + 1) caps else none
      | none => none
    | .set negated items =>
      match text[i]? with
      | some c => if setFits f negated items (Text.codeOf c) then k (i + 1) caps else none
      | none => none
    | .anchor a => if a.holds f text i then k i caps else none
    | .branch alts => runAlts text fuel f alts i caps k
    | .rounds .possessive least most body =>
      match runPossessive text fuel f least most body 0 none i caps with
      | some (j, c) => k j c
      | none => none
    | .rounds mode least most body => runRounds text fuel f mode least most body 0 none i caps k
    | .group number on off body =>
      runSeq text fuel (f.enter on off) body i caps fun j c =>
        k j (match number with
          | some g => Assoc.put g (i, j) c
          | none => c)
    | .atomic body =>
      match runSeq text fuel f body i caps (fun j c => some (j, c)) with
      | some (j, c) => k j c
      | none => none
    | .again g =>
      match Assoc.get? g caps with
      | none => none
      | some (a, b) =>
        let n := b - a
        let same := (List.range n).all fun d =>
          match text[a + d]?, text[i + d]? with
          | some x, some y => isSame f (Text.codeOf x) (Text.codeOf y)
          | _, _ => false
        if same then k (i + n) caps else none
    | .look true negated body =>
      match runSeq text fuel f body i caps (fun j c => some (j, c)) with
      | some (_, c) => if negated then none else k i c
      | none => if negated then k i caps else none
    | .look false negated body =>
      let starts := (List.range (i + 1)).reverse
      let found := starts.findSome? fun a =>
        runSeq text fuel f body a caps fun j c => if j == i then some (j, c) else none
      match found with
      | some (_, c) => if negated then none else k i c
      | none => if negated then k i caps else none
    | .either g yes no =>
      if (Assoc.get? g caps).isSome then runSeq text fuel f yes i caps k
      else runSeq text fuel f no i caps k

/-- All ways in which a sequence matches at `i`. -/
def runSeq (text : Array Char) : (fuel : Nat) → Flags → List Part → (i : Nat) → Captures →
    (k : Nat → Captures → Outcome) → Outcome
  | 0, _, _, _, _, _ => none
  | fuel + 1, f, parts, i, caps, k =>
    match parts with
    | [] => k i caps
    | p :: ps => runPart text fuel f p i caps fun j c => runSeq text fuel f ps j c k

/-- The alternatives, in order. -/
def runAlts (text : Array Char) : (fuel : Nat) → Flags → List (List Part) → (i : Nat) → Captures →
    (k : Nat → Captures → Outcome) → Outcome
  | 0, _, _, _, _, _ => none
  | fuel + 1, f, alts, i, caps, k =>
    match alts with
    | [] => none
    | ps :: rest =>
      match runSeq text fuel f ps i caps k with
      | some r => some r
      | none => runAlts text fuel f rest i caps k

/-- A repetition after `count` rounds; `last` is where the last round beyond the least number started, and
no other one starts there. -/
def runRounds (text : Array Char) : (fuel : Nat) → Flags → Appetite → (least : Nat) →
    (most : Option Nat) → List Part → (count : Nat) → (last : Option Nat) → (i : Nat) → Captures →
    (k : Nat → Captures → Outcome) → Outcome
  | 0, _, _, _, _, _, _, _, _, _, _ => none
  | fuel + 1, f, mode, least, most, body, count, last, i, caps, k =>
    let again (last : Option Nat) : Outcome :=
      runSeq text fuel f body i caps fun j c =>
        runRounds text fuel f mode least most body (count + 1) last j c k
    if count < least then again last
    else
      let may := mayGoOn most count && last != some i
      match mode with
      | .lazy =>
        match k i caps with
        | some r => some r
        | none => if may then again (some i) else none
      | _ =>
        if may then
          match again (some i) with
          | some r => some r
          | none => k i caps
        else k i caps

/-- A repetition of which no round is entered again, after `count` rounds. -/
def runPossessive (text : Array Char) : (fuel : Nat) → Flags → (least : Nat) →
    (most : Option Nat) → List Part → (count : Nat) → (last : Option Nat) → (i : Nat) → Captures →
    Outcome
  | 0, _, _, _, _, _, _, _, _ => none
  | fuel + 1, f, least, most, body, count, last, i, caps =>
    let round (_ : Unit) : Outcome := runSeq text fuel f body i caps fun j c => some (j, c)
    if count < least then
      match round () with
      | some (j, c) => runPossessive text fuel f least most body (count + 1) last j c
      | none => none
    else if mayGoOn most count && last != some i then
      match round () with
      | some (j, c) => runPossessive text fuel f least most body (count + 1) (some i) j c
      | none => some (i, caps)
    else some (i, caps)
end

mutual
/-- A bound on the number of steps through a part, repetitions taken their least number of times
and once more. -/
def partCost : Part → Nat
  | .branch alts => altCost alts + 1
  | .rounds _ least _ body => (least + 3) * (seqCost body + 2) + 1
  | .group _ _ _ body | .atomic body | .look _ _ body => seqCost body + 1
  | .either _ yes no => seqCost yes + seqCost no + 1
  | _ => 1

/-- The sum over a sequence. -/
def seqCost : List Part → Nat
  | [] => 1
  | p :: ps => partCost p + seqCost ps + 1

/-- The sum over the alternatives. -/
def altCost : List (List Part) → Nat
  | [] => 1
  | ps :: rest => seqCost ps + altCost rest + 1
end

/-- Enough fuel for an expression on a text of a length. -/
def fuelFor (p : Pattern) (length : Nat) : Nat := 2 * (seqCost p.parts + 2) * (length + 2)

/-- Matches at the start of a text. -/
def Pattern.run (p : Pattern) (text : Array Char) (k : Nat → Captures → Outcome) : Outcome :=
  runSeq text (fuelFor p text.size) p.flags p.parts 0 [] k

/-- Whether the expression matches some prefix of the text. -/
def Pattern.matchesStart (p : Pattern) (s : String) : Bool :=
  (p.run s.toList.toArray fun j c => some (j, c)).isSome

/-- Whether the expression matches the whole text. -/
def Pattern.matchesAll (p : Pattern) (s : String) : Bool :=
  let text := s.toList.toArray
  (p.run text fun j c => if j == text.size then some (j, c) else none).isSome

end AgentLint.Regex
