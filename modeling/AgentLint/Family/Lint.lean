import AgentLint.Cache.Basic
import AgentLint.Family.Basic
import AgentLint.Printout
import AgentLint.Runner

/-!
# Checking families

The files of a family are read and checked one after the other.  A file that cannot be read, and a
file of a JSON family that is no JSON, is an error of its own and does not end the run; a rule that
fails does.  With a cache, the stored outcome is taken if its fingerprint still holds and it was made
from the same files.
-/

namespace AgentLint.Family

/-- The text of a file of a family, which is read under the short form of its path.  A run is unfolded up to
here and no further: how a path is shortened and looked up is nothing to it. -/
@[irreducible] def textAt (h : Host) (path : String) : Except Fault String := h.readText (Path.normal path)

/-- What happens to one file of a family: it cannot be read, it is no JSON though it has to be, or the
rules run on it.  So many calls are `around` the reader of its text. -/
def lintFile (f : Family) (h : Host) (r : Runner) (path : String) (around : Nat := Json.inUse) :
    Runner × Except Fault Unit :=
  let unread (message : String) : Runner × Except Fault Unit :=
    (r.stage { message := "Cannot read file: " ++ message, file := some path, grade := some .error },
      .ok ())
  match textAt h path with
  | .error (.file e) => if e.fromSystem then unread e.message else (r, .error (.file e))
  | .error (.decoding d) => unread d.message
  | .error e => (r, .error e)
  | .ok content =>
    match if f.isJson then (Json.readInside around content).map fun _ => () else .ok () with
    | .ok () => r.runCategory h f.category path content
    | .error (.malformed m) =>
      (r.stage {
          message := "Invalid JSON: " ++ m.complaint.text
          file := some path
          line := some m.line
          grade := some .error },
        .ok ())
    | .error e => (r, .error (.json e))

/-- All files of a family, until one fails. -/
def lintFiles (f : Family) (h : Host) : Runner → List String → (around : Nat := Json.inUse) →
    Except Fault Runner
  | r, [], _ => .ok r
  | r, path :: rest, around =>
    match f.lintFile h r path around with
    | (r, .ok ()) => lintFiles f h r rest around
    | (_, .error e) => .error e

/-- A run before its first file. -/
def freshRunner (registry : Registry) (config : Option Config) : Runner where
  registry := registry
  resolver := { config, registry, diagnostics := some [] }
  reportUnused := (config.map Config.reportUnused).getD true

/-- Checks the files of a family. -/
def lint (f : Family) (h : Host) (registry : Registry) (config : Option Config)
    (files : List String) (around : Nat := Json.inUse) : Except Fault Outcome := do
  let r ← f.lintFiles h (freshRunner registry config) files around
  let o ← r.outcome.2
  pure { o with files }

/-- Whether two lists hold the same files. -/
def sameFiles (a b : List String) : Bool := a.all (b.contains ·) && b.all (a.contains ·)

/-- Checks the files of a family, or takes the stored outcome if it is still good for them. -/
def lintCached (f : Family) (registry : Registry) (config : Option Config) (files : List String)
    (around : Nat := Json.inUse) : Cache.Op Outcome := do
  let stored ← Cache.fetch f.name config
  match stored.filter fun o => sameFiles o.files files with
  | some o => pure o
  | none =>
    let o ← Cache.lift (f.lint (← get).host registry config files around)
    ExceptT.lift (Cache.store f.name o config)
    pure o

/-- The families with their files among some files. -/
def jobs (families : List Family) (config : Option Config) (files : List String) :
    Except Fault (List (Family × List String)) :=
  let ignore := (config.map Config.ignorePatterns).getD []
  (families.mapM fun (f : Family) => (f.select ignore files).map fun fs => (f, fs)).mapError .pattern

/-- Checks several families among some files. -/
def lintAll (families : List Family) (h : Host) (registry : Registry) (config : Option Config)
    (files : List String) : Except Fault Printout.Outcomes := do
  (← jobs families config files).foldlM (fun acc (f, fs) => do
    let o ← f.lint h registry config fs
    pure (Assoc.put f.name o acc)) []

/-- The same with a cache. -/
def lintAllCached (families : List Family) (registry : Registry) (config : Option Config)
    (files : List String) : Cache.Op Printout.Outcomes := do
  (← Cache.lift (jobs families config files)).foldlM (fun acc (f, fs) => do
    let o ← f.lintCached registry config fs
    pure (Assoc.put f.name o acc)) []

end AgentLint.Family
