import AgentLint.Config.Basic
import AgentLint.FileTree.Text

/-!
# Configuration files

A configuration file is JSON if its name ends in `.json` and YAML otherwise.  It may extend other
files, which may extend others; what is extended lies below what extends it.  A file that extends
itself, by way of others or at once, is refused.  Files that are reached along two ways are read
twice.

A file that is extended is loaded inside the call that loads the file which extends it, and calls can be
nested only so deep.  How deep is the matter of a `Stack`.
-/

namespace AgentLint.Config

/-! ## 1. Room for calls -/

/-- Something that is done about a file. -/
inductive Task where
  /-- Its path is resolved. -/
  | resolve (path : Path)
  /-- It is read. -/
  | read (path : Path)
  /-- Its YAML text is read. -/
  | yaml (text : String)
  /-- Its fields are checked. -/
  | parse (fields : Entries)
  /-- An entry of what it extends is looked up. -/
  | entry (e : Value)

/-- The room that there is for calls inside calls, with some files on the way to the one at hand. -/
structure Stack where
  /-- The calls around a JSON text, with so many files on the way. -/
  around : Nat → Nat
  /-- Whether there is room for a task, with so many files on the way. -/
  fits : Nat → Task → Bool

namespace Stack

/-- As much room with any number of files on the way as with none. -/
def ample : Stack := ⟨fun _ => Json.inUse, fun _ _ => true⟩

/-- Goes on if there is room for a task. -/
def demand (s : Stack) (depth : Nat) (t : Task) : Except Fault Unit :=
  if s.fits depth t then .ok () else .error .recursion

end Stack

/-! ## 2. One file -/

/-- The names under which configuration files are found, in order of preference. -/
def fileNames : List String := [".lintloomrc.json", ".lintloomrc.yml", ".lintloomrc.yaml"]

/-- The document in a text: a blank JSON text and a YAML document that counts as false are the empty
map. -/
def readDocument (path : Path) (text : String) (stack : Stack := .ample) (depth : Nat := 0) :
    Except Fault Value :=
  if path.suffix = ".json" then
    if Text.isBlankText text then .ok (.map [])
    else
      match Json.readInside (stack.around depth) text with
      | .ok v => .ok v
      | .error (.malformed m) => .error (.config (.notJson path.text m))
      | .error r => .error (.json r)
  else if !stack.fits depth (.yaml text) then .error .recursion
  else
    match Yaml.read text with
    | .ok v => .ok (if v.truthy then v else .map [])
    | .error (.malformed _) => .error (.config (.notYaml path.text))
    | .error (.scalar f) => .error (.scalar f)

/-- The fields of a configuration file. -/
def readFields (h : Host) (path : Path) (stack : Stack := .ample) (depth : Nat := 0) :
    Except Fault Entries :=
  match h.readText path.text with
  | .error (.file e) =>
    .error (if e.fromSystem then .config (.unreadable path.text e) else .file e)
  | .error f => .error f
  | .ok text =>
    match readDocument path text stack depth with
    | .error f => .error f
    | .ok (.map es) => .ok es
    | .ok _ => .error (.config (.notMapping path.text))

/-- The single values that a file sets. -/
def ScalarKeys.ofFields (es : Entries) : ScalarKeys :=
  ⟨Entries.has "reportUnusedDisableDirectives" es, Entries.has "maxWarnings" es⟩

/-! ## 3. Files that extend others -/

/-- The files that a configuration extends, as written; `none` if it does not. -/
def extended (source : String) : Value → Except ConfigFault (Option (List Value))
  | .null => .ok none
  | .text s => .ok (some [.text s])
  | .list (v :: vs) => .ok (some (v :: vs))
  | _ => .error (.badExtends source)

/-- A file that is extended, seen from the directory of the file that extends it. -/
def parentPath (h : Host) (source : String) (dir : Path) (entry : Value) : Except Fault Path :=
  match entry with
  | .text s =>
    if Text.isBlankText s then .error (.config (.badEntry source entry))
    else
      let path := dir.join (Path.ofString s)
      match h.isFile path.text with
      | .error e => .error (.file e)
      | .ok false => .error (.config (.entryMissing source s))
      | .ok true => .ok path
  | v => .error (.ofConfig (if v.isShowable then .badEntry source v else .unshowable))

/-- A configuration with the single values that are set along the way to it. -/
abbrev Loaded := Config × ScalarKeys

/-- Puts what was loaded over what was loaded before it. -/
def Loaded.over (before after : Loaded) : Loaded :=
  (before.1.merge after.1 after.2, before.2.union after.2)

/-- Loads a file and all that it extends.  `chain` holds the files that led here; since it never
repeats, `fuel` need not exceed the number of files. -/
def loadAux (h : Host) (stack : Stack) :
    (fuel : Nat) → Path → (chain : List Path) → Except Fault Loaded
  | 0, path, chain => .error (.config (.cycle ((chain ++ [path]).map Path.text)))
  | fuel + 1, path, chain => do
    let depth := chain.length
    stack.demand depth (.resolve path)
    let resolved ← (h.resolve path).mapError .file
    if resolved ∈ chain then throw (.config (.cycle ((chain ++ [resolved]).map Path.text)))
    stack.demand depth (.read resolved)
    let fields ← readFields h resolved stack depth
    stack.demand depth (.parse fields)
    let own ← (parse path.text (.map fields)).mapError .ofConfig
    let keys := ScalarKeys.ofFields fields
    match ← (extended path.text (Entries.get "extends" fields)).mapError .config with
    | none => pure (own, keys)
    | some entries =>
      let parents ← entries.foldlM (fun (acc : Loaded) entry => do
        stack.demand depth (.entry entry)
        let parent ← parentPath h path.text resolved.parent entry
        let loaded ← loadAux h stack fuel parent (chain ++ [resolved])
        pure (acc.over loaded)) ({}, {})
      pure (parents.over (own, keys))

/-- Loads a configuration file and all that it extends. -/
def load (h : Host) (path : Path) (stack : Stack := .ample) : Except Fault Config :=
  (loadAux h stack (h.tree.length + 2) path []).map Prod.fst

/-! ## 4. Finding a file -/

/-- A path and those above it. -/
def ancestors (p : Path) : List Path :=
  (List.range (p.names.length + 1)).map fun n => { p with names := p.names.take (p.names.length - n) }

/-- The first of some paths that is a file. -/
def firstFile (h : Host) : List Path → Except FileFault (Option Path)
  | [] => .ok none
  | p :: ps =>
    match h.isFile p.text with
    | .error e => .error e
    | .ok true => .ok (some p)
    | .ok false => firstFile h ps

/-- The nearest configuration file, from a directory upwards. -/
def find (h : Host) (start : Path) : Except FileFault (Option Path) :=
  match h.resolve start with
  | .error e => .error e
  | .ok dir => firstFile h ((ancestors dir).flatMap fun d => fileNames.map d.child)

end AgentLint.Config
