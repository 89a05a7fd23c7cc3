import AgentLint.Assoc
import AgentLint.Decimal.Reader
import AgentLint.Value.Shape

/-!
# The index of a cache

For each validator, an entry: the fingerprint of its last run, when that was, the file that holds the
outcome, and the files that were looked at.  The index is stored as JSON; an entry that does not read
is left out, without harm to the others.
-/

namespace AgentLint

/-- What is remembered about the last run of a validator. -/
structure CacheEntry where
  /-- The fingerprint of the run. -/
  fingerprint : String
  /-- When it was stored, in seconds. -/
  timestamp : Binary64
  /-- The file with the outcome. -/
  resultFile : String
  /-- The files that the run looked at. -/
  files : List String
  deriving DecidableEq, Repr

/-- Entries by validator. -/
abbrev CacheIndex := Assoc String CacheEntry

/-- Whether a double is an infinity. -/
def Binary64.isInfinite (x : Binary64) : Bool :=
  match x.shape with
  | .inf _ => true
  | _ => false

/-- A number of seconds. -/
def Value.seconds : Value → Except ShapeFault Binary64
  | .int n =>
    let x := Binary64.ofInt n
    if x.isInfinite then .error .tooLarge else .ok x
  | .bool b => .ok (.ofInt (if b then 1 else 0))
  | .float x => .ok x
  | .text s => match Decimal.read? s.toList with
    | some x => .ok x
    | none => .error (.badNumber s)
  | v => .error (.notNumber v.kind)

namespace CacheEntry

/-- The stored form of an entry. -/
def toValue (e : CacheEntry) : Value :=
  Entries.ofFields
    [("hash", .text e.fingerprint), ("timestamp", .float e.timestamp),
     ("result_file", .text e.resultFile), ("files", .list (e.files.map .text))]

/-- Reads the stored form. -/
def ofValue (v : Value) : Except ShapeFault CacheEntry := do
  let fingerprint ← v.require "hash"
  let timestamp ← match ← v.ask "timestamp" with
    | none => pure (.zero false)
    | some t => t.seconds
  let resultFile ← v.require "result_file"
  let files ← match ← v.ask "files" with
    | none => pure []
    | some fs => fs.items
  pure ⟨fingerprint.display, timestamp, resultFile.display, files.map Value.display⟩

end CacheEntry

namespace CacheIndex

/-- The stored form of an index, entries in the order of their names. -/
def toValue (version : String) (i : CacheIndex) : Value :=
  Entries.ofFields
    [("version", .text version),
     ("entries", Entries.ofFields
       ((i.mergeSort fun a b => a.1 ≤ b.1).map fun e => (e.1, e.2.toValue)))]

/-- Reads entries; those of the wrong shape are left out, but a time too large to hold ends the
reading. -/
def ofEntries : CacheIndex → Entries → Except ShapeFault CacheIndex
  | acc, [] => .ok acc
  | acc, (k, v) :: es =>
    match CacheEntry.ofValue v with
    | .ok e => ofEntries (Assoc.put k.display e acc) es
    | .error .tooLarge => .error .tooLarge
    | .error _ => ofEntries acc es

end CacheIndex

end AgentLint
