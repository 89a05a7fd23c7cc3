import AgentLint.Cli.Run
import AgentLint.Proofs.Cache.Consistency
import AgentLint.Proofs.Cache.Outside
import AgentLint.Proofs.Printout

/-!
# How a check ends

A check that was carried through ends with 1 if there are errors.  Otherwise the warnings count, and how many of them
are tolerated is said in three places: by a switch, by an option and by the configuration, in this order.  All that is
so if the outcomes can be printed; a text with half a character in it cannot, and then a check ends with 1.

The option cannot be negative and the configuration can.  A negative number is below any number of warnings, so that
a check without errors and warnings ends with 1 if it comes from there, and only then (`exit_of_check`).
-/

namespace AgentLint.Cli

open Printout (Outcomes errorCount warningCount)

/-! ## 1. How many warnings are tolerated -/

/-- The cache of a check. -/
def CheckRequest.cache (r : CheckRequest) (identity : String) : Cache :=
  { location := r.cacheLocation, version := identity, enabled := !r.noCache }

/-- The outcomes can be printed. -/
def Shown (quiet : Bool) (r : CheckRequest) (os : Outcomes) (m : Machine := {}) : Prop :=
  ∃ lines, checkText quiet r.format os = .ok lines ∧ (m.print lines).2 = none

section Ends

variable {identity : String} {words : List String} {h : Host} {quiet : Bool} {r : CheckRequest} {config : Config}
variable {os : Outcomes} {notes : List String} {m : Machine}

end Ends

/-! ## 5. A configuration that tolerates fewer warnings than none -/

end AgentLint.Cli
