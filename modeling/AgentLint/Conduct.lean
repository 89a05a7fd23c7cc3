import AgentLint.Family.Lint

/-!
# Rules that change what they are handed

A rule is handed the options of its setting, and the lists and maps inside them are the same objects
each time.  A rule that changes one changes what it is handed for the next file, and so may what other
rules are handed that share it.  A `Conduct` is what rules do if they can do so: they see what has been
made of the objects so far, and leave what they make of them.

The runs of this module are those of a runner whose rules behave by some conduct.  If the rules change
nothing they are the runs of `Runner` and `Family`, which know of no such objects.
-/

namespace AgentLint

variable {σ : Type}

/-- The outcome of each rule on a file, given what the rules before it have left of the file and what has
been made of the objects that are handed to all, and what it makes of these. -/
abbrev Conduct (σ : Type) :=
  (rule : Rule) → (c : Context) → Shared c.content → σ → (Except Fault Unit × Trace c.content) × σ

/-- Rules that change nothing. -/
def Conduct.plain : Conduct Unit := fun rule c s m => (rule.runOn c s, m)

namespace Runner

/-- Runs one rule on a file. -/
def runRuleBy (k : Conduct σ) (r : Runner) (host : Host) (rule : Rule) (path content : String)
    (shared : Shared content) (m : σ) : (Runner × Except Fault (Shared content)) × σ :=
  let id := rule.info.id
  match (r.enter path content).ask (Resolver.severity id path) with
  | (r, .error e) => ((r, .error e), m)
  | (r, .ok .off) => ((r, .ok shared), m)
  | (r, .ok _) =>
    match (r.noteDeprecated rule.info).ask (Resolver.options id path) with
    | (r, .error e) => ((r, .error e), m)
    | (r, .ok options) =>
      let ((end_, trace), m) := k rule ⟨id, path, content, options, host⟩ shared m
      let r := r.stageReports id path trace.reports
      match end_ with
      | .ok () => ((r, .ok trace.toShared), m)
      | .error e => ((r, .error (.crash id path e)), m)

/-- Runs several rules on a file, until one fails. -/
def runRulesBy (k : Conduct σ) (r : Runner) (host : Host) (path content : String) :
    List Rule → Shared content → σ → (Runner × Except Fault Unit) × σ
  | [], _, m => ((r, .ok ()), m)
  | rule :: rest, shared, m =>
    match r.runRuleBy k host rule path content shared m with
    | ((r, .ok shared), m) => r.runRulesBy k host path content rest shared m
    | ((r, .error e), m) => ((r, .error e), m)

/-- Runs the rules of a category on a file. -/
def runCategoryBy (k : Conduct σ) (r : Runner) (host : Host) (c : Category) (path content : String)
    (m : σ) : (Runner × Except Fault Unit) × σ :=
  (r.enter path content).runRulesBy k host path content (r.registry.ofCategory c) .fresh m

end Runner

namespace Family

/-- The text of a file on which rules run: one that can be read, and is JSON if it has to be. -/
def checked? (f : Family) (h : Host) (path : String) : Option String :=
  match textAt h path with
  | .error _ => none
  | .ok content => if f.isJson && !(Json.read content).isOk then none else some content

/-- What happens to one file of a family. -/
def lintFileBy (k : Conduct σ) (f : Family) (h : Host) (r : Runner) (path : String) (m : σ) :
    (Runner × Except Fault Unit) × σ :=
  match f.checked? h path with
  | some content => r.runCategoryBy k h f.category path content m
  | none => (f.lintFile h r path, m)

/-- All files of a family, until one fails. -/
def lintFilesBy (k : Conduct σ) (f : Family) (h : Host) : Runner → List String → σ → Except Fault (Runner × σ)
  | r, [], m => .ok (r, m)
  | r, path :: rest, m =>
    match f.lintFileBy k h r path m with
    | ((r, .ok ()), m) => lintFilesBy k f h r rest m
    | ((_, .error e), _) => .error e

/-- Checks the files of a family. -/
def lintBy (k : Conduct σ) (f : Family) (h : Host) (registry : Registry) (config : Option Config)
    (files : List String) (m : σ) : Except Fault Outcome := do
  let (r, _) ← f.lintFilesBy k h (freshRunner registry config) files m
  let o ← r.outcome.2
  pure { o with files }

end Family

end AgentLint
