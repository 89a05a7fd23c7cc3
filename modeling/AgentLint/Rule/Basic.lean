import AgentLint.FileTree.Basic
import AgentLint.Rule.Option
import AgentLint.Views

/-!
# Rules

A rule is what is known about it and a check.  A check sees one file through a `Context`, reports
what it finds, and may fail; what it reported before it failed stays reported.  It may read the
views of the file, which are shared with the rules before and after it, and it may look at the file
tree, but it changes neither the file nor the tree.

One thing it can change: the fields of the header are the same object for all rules of a file, and a
rule that changes them changes what the rules after it read.
-/

namespace AgentLint

/-! ## 1. What is known about a rule -/

/-- Why a rule is deprecated and what replaces it. -/
structure Deprecation where
  /-- Why. -/
  reason : String
  /-- The rules to use instead. -/
  replacedBy : List String := []
  /-- The version that deprecated it. -/
  since : Option String := none
  /-- The version that will not have it any more. -/
  removedIn : Option String := none
  /-- Where to read more. -/
  url : Option String := none
  deriving DecidableEq, Repr

/-- What is known about a rule. -/
structure RuleInfo where
  /-- The name by which configurations and directives know it. -/
  id : String
  /-- Its title. -/
  name : String
  /-- What it checks. -/
  description : String
  /-- The files it applies to. -/
  category : Category
  /-- Its severity unless a configuration says otherwise. -/
  severity : Severity := .error
  /-- Whether it can mend what it finds. -/
  fixable : Bool := false
  /-- The version that brought it. -/
  since : String := "0.1.0"
  /-- The model of its options; without one it takes any. -/
  options : Option OptionModel := none
  /-- Whether and why it is deprecated. -/
  deprecation : Option Deprecation := none

/-- The options of a rule if none are given. -/
def RuleInfo.defaultOptions (i : RuleInfo) : Except Fault Entries :=
  match i.options with
  | none => .ok []
  | some m => m.defaults

/-! ## 2. Checks -/

/-- A mended text, as a change to the text of a file. -/
structure AutoFix where
  /-- The rule that offers it. -/
  rule : String
  /-- What it does. -/
  description : String
  /-- The file. -/
  path : String
  /-- The mended text for a text. -/
  apply : String → String

/-- What a rule reports. -/
structure Report where
  /-- What is wrong. -/
  message : String
  /-- The line, if it has one. -/
  line : Option Int := none
  /-- What to do about it. -/
  fix : Option String := none
  /-- Why it matters. -/
  explanation : Option String := none
  /-- How to do it. -/
  howToFix : Option String := none
  /-- The mended text it comes with, if any. -/
  autoFix : Option AutoFix := none

/-- What a rule sees of a file. -/
structure Context where
  /-- The rule. -/
  rule : String
  /-- The path of the file. -/
  path : String
  /-- Its text. -/
  content : String
  /-- The options of the rule at this file. -/
  options : Entries
  /-- The files around it. -/
  host : Host

/-- What the rules of a file share. -/
structure Shared (content : String) where
  /-- The views, as far as they were computed. -/
  views : Views content
  /-- What was made of the fields of the header, if anything. -/
  fields? : Option Entries

namespace Shared

variable {content : String}

/-- Nothing was read or changed yet. -/
def fresh : Shared content := ⟨.unread, none⟩

/-- A frontmatter with its fields as they are now; one without fields has none that could change. -/
def seen (s : Shared content) (f : Frontmatter) : Frontmatter :=
  match s.fields?, f.header with
  | some es, .fields _ => { f with header := .fields es }
  | _, _ => f

end Shared

/-- What a check leaves: what the rules share, and the reports in order. -/
structure Trace (content : String) extends Shared content where
  /-- The reports. -/
  reports : List Report

/-- A check of a text: an outcome, and what it leaves in either case. -/
abbrev Check (content : String) (α : Type) := ExceptT Fault (StateM (Trace content)) α

/-- A rule. -/
structure Rule where
  /-- What is known about it. -/
  info : RuleInfo
  /-- What it does. -/
  check : (c : Context) → Check c.content Unit

namespace Check

variable {content : String} {α : Type}

/-- Reports something. -/
def report (r : Report) : Check content Unit :=
  modify fun t => { t with reports := t.reports ++ [r] }

/-- Reads a view. -/
def view (f : Views content → Except Yaml.ScalarFault (α × Views content)) : Check content α := do
  let t ← get
  match f t.views with
  | .ok (a, v) =>
    set { t with views := v }
    pure a
  | .error e => throw (.scalar e)

/-- The frontmatter of the file. -/
def frontmatter : Check content Frontmatter := do
  let f ← view Views.readFrontmatter
  return (← get).seen f

/-- Changes the fields of the header, for itself and for the rules after it. -/
def changeFields (change : Entries → Entries) : Check content Unit := do
  match (← frontmatter).data? with
  | some es => modify fun t => { t with fields? := some (change es) }
  | none => pure ()

/-- The body of the file. -/
def body : Check content String := view Views.readBody

/-- The text of the file without code. -/
def prose : Check content String := view Views.readProse

/-- The text of a value in a message. -/
def shown (v : Value) : Check content String :=
  match v.display? with
  | some s => pure s
  | none => throw .unshowable

/-- Lifts an outcome. -/
def lift {ε : Type} (wrap : ε → Fault) : Except ε α → Check content α
  | .ok a => pure a
  | .error e => throw (wrap e)

end Check

/-- The outcome of a rule on a file, given what the rules before it have left. -/
def Rule.runOn (r : Rule) (c : Context) (s : Shared c.content) : Except Fault Unit × Trace c.content :=
  ExceptT.run (r.check c) |>.run ⟨s, []⟩

/-- The outcome of a rule on a file whose header nobody has changed, given the views so far. -/
def Rule.run (r : Rule) (c : Context) (v : Views c.content) : Except Fault Unit × Trace c.content :=
  r.runOn c ⟨v, none⟩

/-! ## 3. Rules as they are handed in -/

/-- A rule whose category and severity are still to be read. -/
structure RuleDraft where
  /-- What is known about it; category and severity here do not count. -/
  info : RuleInfo
  /-- The category as given. -/
  category : Value
  /-- The severity as given. -/
  severity : Value
  /-- What it does. -/
  check : (c : Context) → Check c.content Unit

/-- Reads category and severity, in this order. -/
def RuleDraft.rule (d : RuleDraft) : Except Fault Rule :=
  match Category.parse? d.category with
  | none => .error (.category d.category)
  | some c =>
    match Severity.parse? d.severity with
    | none => .error (.severity d.severity)
    | some s => .ok ⟨{ d.info with category := c, severity := s }, d.check⟩

end AgentLint
