import AgentLint.Decimal.Integer
import AgentLint.Text.Quoted

/-!
# Regular expressions

The tree of a regular expression, the settings that parts of it are read under, and the reasons for
refusing one.  Characters are kept as code points, because an escape may name a code point that no
character has; such a code point matches nothing.
-/

namespace AgentLint.Regex

/-! ## 1. Trees -/

/-- The settings that letters in `(?…)` turn on and off. -/
structure Flags where
  /-- Letter case is ignored. -/
  ignoreCase : Bool := false
  /-- `^` and `$` also match at line ends. -/
  multiline : Bool := false
  /-- The dot also matches a line feed. -/
  dotAll : Bool := false
  /-- Blanks and comments in the expression are skipped. -/
  verbose : Bool := false
  /-- Classes of characters hold ASCII characters only. -/
  ascii : Bool := false
  /-- Classes of characters hold characters of every script. -/
  wide : Bool := false
  /-- A setting that is accepted and has no effect. -/
  idle : Bool := false
  deriving DecidableEq, Repr

/-- Both sets of settings together. -/
def Flags.union (a b : Flags) : Flags :=
  ⟨a.ignoreCase || b.ignoreCase, a.multiline || b.multiline, a.dotAll || b.dotAll,
   a.verbose || b.verbose, a.ascii || b.ascii, a.wide || b.wide, a.idle || b.idle⟩

/-- The settings of `a` that are not in `b`. -/
def Flags.minus (a b : Flags) : Flags :=
  ⟨a.ignoreCase && !b.ignoreCase, a.multiline && !b.multiline, a.dotAll && !b.dotAll,
   a.verbose && !b.verbose, a.ascii && !b.ascii, a.wide && !b.wide, a.idle && !b.idle⟩

/-- No setting at all. -/
def Flags.isEmpty (a : Flags) : Bool := a == {}

/-- A named class of characters. -/
inductive Category where
  /-- Decimal digits. -/
  | digit
  /-- Blanks. -/
  | space
  /-- Letters, numbers and the underscore. -/
  | word
  deriving DecidableEq, Repr

/-- A member of a set of characters. -/
inductive SetItem where
  /-- One code point. -/
  | code (n : Nat)
  /-- All code points from `lo` to `hi`. -/
  | range (lo hi : Nat)
  /-- A class, or the characters outside it. -/
  | category (c : Category) (negated : Bool)
  deriving DecidableEq, Repr

/-- A condition on a place in the text. -/
inductive Anchor where
  /-- `^`. -/
  | lineStart
  /-- `$`. -/
  | lineEnd
  /-- `\A`. -/
  | textStart
  /-- `\Z`. -/
  | textEnd
  /-- `\b`. -/
  | boundary
  /-- `\B`. -/
  | notBoundary
  deriving DecidableEq, Repr

/-- How a repetition chooses its number of rounds. -/
inductive Appetite where
  /-- As many as possible first. -/
  | greedy
  /-- As few as possible first. -/
  | lazy
  /-- As many as possible, and no fewer afterwards. -/
  | possessive
  deriving DecidableEq, Repr

/-- One part of an expression; a sequence is a list of parts. -/
inductive Part where
  /-- One code point. -/
  | code (n : Nat)
  /-- Any code point but one. -/
  | notCode (n : Nat)
  /-- Any character, line feeds as the settings say. -/
  | any
  /-- A set of characters, or its complement. -/
  | set (negated : Bool) (items : List SetItem)
  /-- A condition on the place. -/
  | anchor (a : Anchor)
  /-- The first of several alternatives that fits. -/
  | branch (alternatives : List (List Part))
  /-- A repetition; without `most` there is no upper bound. -/
  | rounds (mode : Appetite) (least : Nat) (most : Option Nat) (body : List Part)
  /-- A group, numbered if it captures, with the settings it turns on and off. -/
  | group (number : Option Nat) (on off : Flags) (body : List Part)
  /-- A group that is not entered again once it has matched. -/
  | atomic (body : List Part)
  /-- What a group captured, once more. -/
  | again (group : Nat)
  /-- Whether the body fits after (or, looking back, before) this place. -/
  | look (ahead negated : Bool) (body : List Part)
  /-- One of two sequences, by whether a group has captured. -/
  | either (group : Nat) (yes no : List Part)
  deriving Inhabited

/-- An expression and its global settings. -/
structure Pattern where
  /-- The sequence to match. -/
  parts : List Part
  /-- The settings for all of it. -/
  flags : Flags

/-! ## 2. Simpler trees

Three simplifications are made while an expression is read: a group that neither captures nor changes a
setting gives way to its body, what all alternatives start with is taken out of them, and alternatives that
are single characters or sets become one set. -/

/-- Puts the bodies of plain groups in their places. -/
def ungroup (parts : List Part) : List Part :=
  parts.flatMap fun p =>
    match p with
    | .group none on off body => if on.isEmpty && off.isEmpty then body else [p]
    | p => [p]

/-- Whether two parts without parts of their own are the same. -/
def Part.isSameLeaf : Part → Part → Bool
  | .code a, .code b | .notCode a, .notCode b => a == b
  | .any, .any => true
  | .set m xs, .set n ys => m == n && xs == ys
  | .anchor a, .anchor b => a == b
  | .again a, .again b => a == b
  | _, _ => false

/-- The part that all alternatives start with, if they do. -/
def sharedHead? : List (List Part) → Option Part
  | [] => none
  | [] :: _ => none
  | (p :: _) :: rest =>
    if rest.all fun ps => (ps.head?.map p.isSameLeaf).getD false then some p else none

/-- Takes what all alternatives start with out of them; `fuel` bounds how often. -/
def takeShared : (fuel : Nat) → List (List Part) → List Part × List (List Part)
  | 0, alts => ([], alts)
  | fuel + 1, alts =>
    match sharedHead? alts with
    | none => ([], alts)
    | some p =>
      let (ps, alts) := takeShared fuel (alts.map List.tail)
      (p :: ps, alts)

/-- The members of the set that a sequence stands for, if it is a single character or a set. -/
def singleSet? : List Part → Option (List SetItem)
  | [.code n] => some [.code n]
  | [.set false items] => some items
  | _ => none

/-- Two or more alternatives. -/
def ofAlternatives (alts : List (List Part)) : List Part :=
  let (shared, alts) := takeShared ((alts.headD []).length) alts
  shared ++ [match alts.mapM singleSet? with
    | some sets => .set false sets.flatten.eraseDups
    | none => .branch alts]

/-- A set; one of a single code point is that code point. -/
def ofItems (negated : Bool) (items : List SetItem) : Part :=
  match items.eraseDups with
  | [.code n] => if negated then .notCode n else .code n
  | items => .set negated items

/-! ## 3. Refusals -/

/-- Why an expression is refused. -/
inductive Cause where
  /-- The text ends after a backslash. -/
  | trailingEscape
  /-- A backslash and something it does not go with. -/
  | badEscape (what : String)
  /-- A numeric escape with too few digits. -/
  | incompleteEscape (what : String)
  /-- An octal escape above 255. -/
  | octalRange (what : String)
  /-- A character name that is not known. -/
  | unknownCharacter (name : String)
  /-- A set without its bracket. -/
  | unterminatedSet
  /-- A range whose ends are no characters or in the wrong order. -/
  | badRange (lo hi : String)
  /-- A repetition with nothing before it. -/
  | nothingToRepeat
  /-- A repetition after a repetition. -/
  | multipleRepeat
  /-- Bounds in the wrong order. -/
  | minGreaterThanMax
  /-- A bound that is too large. -/
  | repetitionTooLarge
  /-- A bound with more digits than are read. -/
  | longNumber (digits : Nat)
  /-- An escape for a number that does not fit a signed word of 32 bits. -/
  | oversizedEscape
  /-- Groups within groups, too many of them. -/
  | tooDeep
  /-- A parenthesis that is never closed. -/
  | unterminatedGroup
  /-- A comment that is never closed. -/
  | unterminatedComment
  /-- A closing parenthesis without an opening one. -/
  | unbalanced
  /-- Nothing after `(?`. -/
  | unexpectedEnd
  /-- An unknown character after `(?`. -/
  | unknownExtension (what : String)
  /-- Something that has to come next does not. -/
  | missing (what : String)
  /-- A name that is not closed. -/
  | unterminatedName (stop : String)
  /-- A group name that is not an identifier. -/
  | badGroupName (name : String)
  /-- A group name used twice. -/
  | redefinedGroup (name : String) (number earlier : Nat)
  /-- A reference to a name that no group has. -/
  | unknownGroup (name : String)
  /-- A reference to group number zero. -/
  | badGroupNumber
  /-- A reference to a group that does not exist. -/
  | invalidReference (number : Nat)
  /-- A reference to a group from inside it. -/
  | openGroup
  /-- A reference, while looking back, to a group of the same look. -/
  | sameLookbehind
  /-- A third branch of a condition. -/
  | tooManyBranches
  /-- Global settings that do not come first. -/
  | lateFlags
  /-- A letter that is no setting. -/
  | unknownFlag
  /-- A wrong combination of settings. -/
  | badFlags (what : String)
  /-- A look back of varying width. -/
  | variableLookbehind
  /-- Global settings that exclude each other. -/
  | flagClash
  /-- A repetition under the setting that has no effect otherwise. -/
  | idleRepeat (mode : Appetite)
  deriving DecidableEq, Repr

/-- The name of a repetition. -/
def Appetite.name : Appetite → String
  | greedy => "MAX_REPEAT"
  | lazy => "MIN_REPEAT"
  | possessive => "POSSESSIVE_REPEAT"

/-- The wording of a cause. -/
def Cause.text : Cause → String
  | trailingEscape => "bad escape (end of pattern)"
  | badEscape w => "bad escape " ++ w
  | incompleteEscape w => "incomplete escape " ++ w
  | octalRange w => "octal escape value " ++ w ++ " outside of range 0-0o377"
  | unknownCharacter n => "undefined character name " ++ Text.quoted n
  | unterminatedSet => "unterminated character set"
  | badRange lo hi => "bad character range " ++ lo ++ "-" ++ hi
  | nothingToRepeat => "nothing to repeat"
  | multipleRepeat => "multiple repeat"
  | minGreaterThanMax => "min repeat greater than max repeat"
  | repetitionTooLarge => "the repetition number is too large"
  | unterminatedGroup => "missing ), unterminated subpattern"
  | unterminatedComment => "missing ), unterminated comment"
  | unbalanced => "unbalanced parenthesis"
  | unexpectedEnd => "unexpected end of pattern"
  | unknownExtension w => "unknown extension ?" ++ w
  | missing w => "missing " ++ w
  | unterminatedName s => "missing " ++ s ++ ", unterminated name"
  | badGroupName n => "bad character in group name " ++ Text.quoted n
  | redefinedGroup n k j => "redefinition of group name " ++ Text.quoted n ++ " as group " ++
      toString k ++ "; was group " ++ toString j
  | unknownGroup n => "unknown group name " ++ Text.quoted n
  | badGroupNumber => "bad group number"
  | invalidReference n => "invalid group reference " ++ toString n
  | openGroup => "cannot refer to an open group"
  | sameLookbehind => "cannot refer to group defined in the same lookbehind subpattern"
  | tooManyBranches => "conditional backref with more than two branches"
  | lateFlags => "global flags not at the start of the expression"
  | unknownFlag => "unknown flag"
  | badFlags w => "bad inline flags: " ++ w
  | variableLookbehind => "look-behind requires fixed-width pattern"
  | longNumber n => Decimal.tooManyDigitsText n
  | oversizedEscape => "Python int too large to convert to C int"
  | tooDeep => "maximum recursion depth exceeded"
  | flagClash => "ASCII and UNICODE flags are incompatible"
  | idleRepeat mode => "internal: unsupported template operator " ++ mode.name

/-- What kind of failure a cause is. -/
inductive CauseKind where
  /-- The expression is not written as one. -/
  | form
  /-- It is, and a value in it is refused. -/
  | value
  /-- A number in it is out of range. -/
  | range
  /-- It is nested too deeply. -/
  | depth
  deriving DecidableEq, Repr

/-- The kind of a cause. -/
def Cause.kind : Cause → CauseKind
  | longNumber _ | flagClash => .value
  | repetitionTooLarge | oversizedEscape => .range
  | tooDeep => .depth
  | _ => .form

/-- Whether a refusal ends the work at hand, rather than being reported about the expression. -/
def CauseKind.isFatal : CauseKind → Bool
  | form | value => false
  | range | depth => true

/-- A refusal: the cause and, unless it concerns the expression as a whole, the offset. -/
structure Refusal where
  /-- What is wrong. -/
  cause : Cause
  /-- Where. -/
  place : Option Nat
  /-- The expression. -/
  source : List Char
  deriving DecidableEq, Repr

/-- The wording with the place; line and column are added if the expression has several lines. -/
def Refusal.message (r : Refusal) : String :=
  match r.place with
  | none => r.cause.text
  | some p =>
    let plain := r.cause.text ++ " at position " ++ toString p
    if r.source.contains '\n' then
      let before := r.source.take p
      plain ++ " (line " ++ toString (before.count '\n' + 1) ++ ", column " ++
        toString ((before.reverse.takeWhile (· ≠ '\n')).length + 1) ++ ")"
    else plain

end AgentLint.Regex
