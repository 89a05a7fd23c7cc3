import AgentLint.Proofs.FileTree.Answers
import AgentLint.Proofs.Rule.Ending
import AgentLint.Proofs.Rule.Options

/-!
# What the rules for instruction files do with any text

Four of the five rules for instruction files look at the text alone and always end well.  The fifth looks for the
files that the text imports, one after the other, and reports those that are not there (`exec_checkImports`).  Whether
a file is there is a question with an answer for most paths: one that is not there, or could not be, is not there.
`Untold` lists the paths without an answer.  They name the home of an account that does not exist or cannot, or they
are too long for the file system, or lie behind a directory that must not be entered.  The first import of this kind
ends the rule, and what comes behind it is not looked for (`instructions_end`).
-/

namespace AgentLint

namespace Builtin

open Check

/-! ## 1. Imports without an answer -/

/-- The fault of the first import without an answer. -/
def untold? (h : Host) (path : String) (is : List Markdown.Import) : Option FileFault :=
  is.findSome? fun i => match importAnswer h path i.path with
    | .ok _ => none
    | .error e => some e

/-- The imports before it whose files are not there. -/
def missing (h : Host) (path : String) (is : List Markdown.Import) : List Markdown.Import :=
  (is.takeWhile fun i => (importAnswer h path i.path).isOk).filter fun i =>
    (importAnswer h path i.path).toOption = some false

/-- How looking for imports ends. -/
def looking (h : Host) (path : String) (is : List Markdown.Import) : Except Fault Unit :=
  match untold? h path is with
  | none => .ok ()
  | some e => .error (.file e)

/-- How a rule for instruction files ends on a file. -/
def ending (h : Host) (path content : String) (rule : Rule) : Except Fault Unit :=
  if rule.info.id = importRule then looking h path (Markdown.imports content) else .ok ()

theorem mem_rules_of_instructions {rule : Rule} (hrule : rule ∈ instructionRules) : rule ∈ rules := by
  simp only [rules, List.mem_append]
  exact .inl (.inl (.inl (.inl hrule)))

end Builtin

end AgentLint
