import AgentLint.Cache.Index
import AgentLint.Config.Basic
import AgentLint.Diagnostic
import AgentLint.FileTree.Change
import AgentLint.FileTree.Text
import AgentLint.Finding
import AgentLint.Sha256

/-!
# The cache

A cache keeps the last outcome of each validator in a directory: an index, and one file per outcome
under `files/`.  An outcome may be used again as long as its fingerprint stays the same: the version
of the cache, the name of the validator, the configuration, and for each file of the run when it was
changed, or that it is not there.

Trouble with the cache is reported as a diagnostic and otherwise counts as not having an outcome.
-/

namespace AgentLint

/-! ## 1. The type -/

/-- A cache. -/
structure Cache where
  /-- The directory. -/
  location : Path
  /-- Outcomes of other versions are not used. -/
  version : String
  /-- A cache that is not enabled neither gives nor takes outcomes. -/
  enabled : Bool := true
  /-- Where trouble is reported, if anywhere. -/
  diagnostics : Option Diagnostics := none
  /-- How fingerprints are condensed. -/
  digest : String → String := Sha256.hex

namespace Cache

/-- The directory of a cache if nothing else is said. -/
def standardLocation : String := ".lintloom-cache"

/-- The name under which the cache reports. -/
def source : String := "ValidationCache"

/-- The kind of its reports. -/
def trouble : String := "CACHE_ERROR"

/-- The index of a cache. -/
def indexPath (c : Cache) : Path := c.location.child "index.json"

/-- The directory of its outcomes. -/
def payloadDir (c : Cache) : Path := c.location.child "files"

/-- The file of an outcome. -/
def payloadPath (c : Cache) (resultFile : String) : Path :=
  c.payloadDir.join (Path.ofString resultFile)

/-! ## 2. Fingerprints -/

/-- A file and when it was changed; null if it is not there. -/
def trackedValue (h : Host) (path : String) : Except Fault Value := do
  let changed ← (h.mtime? path).mapError .file
  pure (.list [.text path, .ofInt? changed])

/-- What a fingerprint condenses. -/
def material (c : Cache) (h : Host) (name : String) (config : Option Config)
    (files : List String) : Except Fault String := do
  let tracked ← (Order.sortedDistinct files).mapM (trackedValue h)
  (Json.writeSorted (Entries.ofFields
    [("version", .text c.version), ("validator", .text name),
     ("config", match config with
       | none => .null
       | some cfg => cfg.toValue),
     ("files", .list tracked)])).mapError .unwritable

/-- The fingerprint of a run. -/
def fingerprint (c : Cache) (h : Host) (name : String) (config : Option Config)
    (files : List String) : Except Fault String :=
  (c.material h name config files).map c.digest

/-! ## 3. Operations -/

/-- A cache on a host. -/
structure Site where
  /-- The cache. -/
  cache : Cache
  /-- The host. -/
  host : Host

/-- Something done with a cache that may fail; what was done until then stays done. -/
abbrev Op (α : Type) := ExceptT Fault (StateM Site) α

/-- Reports trouble. -/
def warn (message : String) : StateM Site Unit :=
  modify fun s => { s with cache := { s.cache with
    diagnostics := s.cache.diagnostics.map fun ds => ds.warn message source trouble } }

/-- Changes files. -/
def onFiles {α : Type} (op : FileOp α) : Op α := do
  let s ← get
  let (end_, host) := (ExceptT.run op).run s.host
  set { s with host }
  match end_ with
  | .ok a => pure a
  | .error e => throw (.file e)

/-- Lifts an outcome. -/
def lift {α : Type} : Except Fault α → Op α
  | .ok a => pure a
  | .error f => throw f

/-- Removes all outcomes; trouble with that is passed over. -/
def discardPayloads : Op Unit := do
  let _ ← onFiles (FileOp.attempt (FileOp.removeTree (← get).cache.payloadDir))

/-- The entries of an index that was read; outcomes of another version are removed. -/
def entriesOf (stored : Value) : Op CacheIndex := do
  let c := (← get).cache
  let fields := stored.map?.getD []
  match Entries.get "version" fields with
  | .text v =>
    if v = c.version then
      match (Entries.get? "entries" fields).getD (.map []) with
      | .map es => lift ((CacheIndex.ofEntries [] es).mapError .shape)
      | _ =>
        warn ("Ignoring malformed cache index " ++ c.indexPath.text ++
          ": entries is not a mapping")
        pure []
    else
      discardPayloads
      pure []
  | _ =>
    discardPayloads
    pure []

/-- Whether a fault of a stored text counts as its absence; only one that is nested too deeply does not. -/
def isPassedOver : Fault → Bool
  | .json (.tooDeep _) => false
  | _ => true

/-- Reads the index; an index that is absent or does not read is empty. -/
def loadIndex : Op CacheIndex := do
  let s ← get
  let path := s.cache.indexPath.text
  if !(← lift ((s.host.isFile path).mapError .file)) then pure []
  else
    match s.host.readJson path with
    | .ok v => entriesOf v
    | .error f =>
      if !isPassedOver f then throw f
      warn ("Ignoring unreadable cache index " ++ path ++ ": " ++ f.message)
      pure []

/-- Writes a value as JSON, by way of a file beside the one to be written. -/
def writeJson (path : Path) (v : Value) : Op Unit := do
  onFiles (FileOp.makeDirs path.parent)
  let text ← lift ((Json.writePretty v).mapError .unwritable)
  let beside := (path.parent.child (path.name ++ ".tmp")).text
  onFiles (FileOp.writeBytes beside (Utf8.encode text))
  onFiles (FileOp.move beside path.text)

/-- Writes the index. -/
def saveIndex (i : CacheIndex) : Op Unit := do
  let c := (← get).cache
  writeJson c.indexPath (i.toValue c.version)

/-- The entry of a validator if its fingerprint is still the same and it tracks any file. -/
def freshEntry (name : String) (config : Option Config) : Op (Option CacheEntry) := do
  match Assoc.get? name (← loadIndex) with
  | none => pure none
  | some e =>
    if e.files.isEmpty then pure none
    else
      let s ← get
      let now ← lift (s.cache.fingerprint s.host name config e.files)
      pure (if now = e.fingerprint then some e else none)

/-- The outcome that an entry refers to. -/
def payload (s : Site) (e : CacheEntry) : Except Fault Outcome := do
  let v ← s.host.readJson (s.cache.payloadPath e.resultFile).text
  let o ← (Outcome.ofValue v).mapError .shape
  pure { o with files := e.files }

/-- The stored outcome of a validator, if it can still be used. -/
def fetch (name : String) (config : Option Config) : Op (Option Outcome) := do
  if !(← get).cache.enabled then pure none
  else
    match ← ExceptT.lift (ExceptT.run (freshEntry name config)) with
    | .error f =>
      ExceptT.lift (warn ("Failed to read cache for " ++ name ++ ": " ++ f.message))
      pure none
    | .ok none => pure none
    | .ok (some e) =>
      match payload (← get) e with
      | .ok o => pure (some o)
      | .error f => if isPassedOver f then pure none else throw f

/-- A time in nanoseconds as seconds. -/
def secondsOf (time : Int) : Binary64 := .ofRatio (time < 0) time.natAbs 1000000000

/-- Stores an outcome: first its file, then the index, and last the file of the entry that it
replaces is removed. -/
def storeEntry (name : String) (o : Outcome) (config : Option Config) : Op Unit := do
  let s ← get
  let files := Order.sortedDistinct o.files
  let fingerprint ← lift (s.cache.fingerprint s.host name config files)
  let resultFile := fingerprint ++ ".json"
  let entries ← loadIndex
  writeJson (s.cache.payloadPath resultFile) o.toValue
  saveIndex (Assoc.put name ⟨fingerprint, secondsOf s.host.now, resultFile, files⟩ entries)
  match Assoc.get? name entries with
  | none => pure ()
  | some old =>
    if old.resultFile ≠ resultFile then
      onFiles (FileOp.unlink (s.cache.payloadPath old.resultFile).text)

/-- Stores the outcome of a validator. -/
def store (name : String) (o : Outcome) (config : Option Config) : StateM Site Unit := do
  if (← get).cache.enabled then
    match ← ExceptT.run (storeEntry name o config) with
    | .ok () => pure ()
    | .error f => warn ("Failed to write cache for " ++ name ++ ": " ++ f.message)

/-- Removes the directory of the cache; it is fine if there is none. -/
def clear : Op Unit := do
  let location := (← get).cache.location
  match ← onFiles (FileOp.attempt (FileOp.removeTree location)) with
  | .ok () => pure ()
  | .error (.trouble .missing _) => pure ()
  | .error e =>
    if e.fromSystem then warn ("Failed to clear cache " ++ location.text ++ ": " ++ e.message)
    else throw (.file e)

/-! ## 4. Size -/

/-- The number of entries of a cache and the bytes of their outcomes. -/
structure Stats where
  /-- The directory. -/
  location : String
  /-- The number of entries. -/
  entries : Nat
  /-- The size of the outcomes. -/
  bytes : Nat
  deriving DecidableEq, Repr

/-- The size that a directory counts for. -/
def directorySize : Nat := 4096

/-- The size of a file, nothing if it is not there. -/
def sizeOf (h : Host) (path : String) : Except FileFault Nat :=
  match h.stat path with
  | .ok (_, .file bs _) => .ok bs.length
  | .ok (_, _) => .ok directorySize
  | .error e => if e.fromSystem then .ok 0 else .error e

/-- The size of a cache. -/
def stats : Op Stats := do
  let entries ← loadIndex
  let s ← get
  let sizes ← lift ((entries.mapM fun e =>
    sizeOf s.host (s.cache.payloadPath e.2.resultFile).text).mapError .file)
  pure ⟨s.cache.location.text, entries.length, sizes.foldl (· + ·) 0⟩

end Cache

end AgentLint
