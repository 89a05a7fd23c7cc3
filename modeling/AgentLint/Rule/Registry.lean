import AgentLint.Assoc
import AgentLint.Rule.Basic

/-!
# The registry

The rules of a run by their ids, in the order in which the ids were first registered.  Registering an
id again replaces the rule in place.
-/

namespace AgentLint

/-- The rules by id. -/
abbrev Registry := Assoc String Rule

namespace Registry

/-- No rules. -/
def empty : Registry := []

/-- Adds a rule, or replaces the one of the same id. -/
def add (t : Registry) (r : Rule) : Registry := Assoc.put r.info.id r t

/-- Reads a rule and adds it. -/
def register (t : Registry) (d : RuleDraft) : Except Fault Registry := d.rule.map t.add

/-- Adds rules one after the other. -/
def addAll (t : Registry) (rs : List Rule) : Registry := rs.foldl add t

/-- What is known about a rule. -/
def info? (t : Registry) (id : String) : Option RuleInfo := (Assoc.get? id t).map Rule.info

/-- The ids, in order. -/
def ids (t : Registry) : List String := Assoc.keys t

/-- All rules, in order. -/
def rules (t : Registry) : List Rule := Assoc.vals t

/-- The rules of a category, in order. -/
def ofCategory (t : Registry) (c : Category) : List Rule := t.rules.filter fun r => r.info.category = c

/-- The rules of a category given by its name. -/
def ofCategoryNamed (t : Registry) (v : Value) : Except Fault (List Rule) :=
  match Category.parse? v with
  | none => .error (.category v)
  | some c => .ok (t.ofCategory c)

/-- The options of a rule if none are given; a rule that is not there has none. -/
def defaultOptions (t : Registry) (id : String) : Except Fault Entries :=
  match t.info? id with
  | none => .ok []
  | some i => i.defaultOptions

/-- Options that are there, or those of a rule if none are given. -/
def optionsOrDefault (t : Registry) (id : String) : Option Entries → Except Fault Entries
  | some os => .ok os
  | none => t.defaultOptions id

end Registry

end AgentLint
