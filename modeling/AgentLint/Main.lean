import AgentLint.Cli.Run
import Std.Data.HashMap

/-!
# The program

The outermost layer: it takes a picture of the files that a call can ask about, hands it to
`Cli.run`, carries the changes out that the call made to the picture, and prints what there is to
print.  The picture holds

* the current directory with all below it, except what lies in directories that are never searched;
* the configuration files in the directories above it;
* what the words of the call name, and what imports and extended configurations lead to.

Only files that can hold instructions, records or configurations are read, and those that something
leads to.
-/

namespace AgentLint.Program

/-! ## 1. Pictures -/

/-- Nodes by place. -/
abbrev Picture := Std.HashMap Place Node

/-- A time in nanoseconds. -/
def nanoseconds (t : IO.FS.SystemTime) : Int := t.sec * 1000000000 + t.nsec.toNat

/-- Whether files of this name are read in any case. -/
def isRead (name : String) : Bool :=
  [".md", ".json", ".yml", ".yaml"].contains (Path.ofString name).suffix

/-- Whether the content of a directory of this name belongs to the picture. -/
def isSearched (name : String) : Bool :=
  name == Cache.standardLocation || !Collect.skippedDirs.contains name

/-- The node of a name in a directory, if it can be looked at.  A link is taken to point at once to
where it leads in the end, or to a name that is not there. -/
def nodeAt? (dir : Place) (name : String) (always : Bool) : IO (Option Node) := do
  try
    let path := (← IO.FS.realPath (Place.text dir)) / name
    let info ← path.symlinkMetadata
    let time := nanoseconds info.modified
    match info.type with
    | .dir =>
      try
        discard (path / ".").symlinkMetadata
        return some (.dir time)
      catch
        | .permissionDenied .. => return some (.shut time)
        | _ => return some (.dir time)
    | .symlink =>
      let target ← try pure (← IO.FS.realPath path).toString catch _ => pure (name ++ "~")
      return some (.link target time)
    | _ =>
      let bytes ← if always || isRead name then IO.FS.readBinFile path else pure ByteArray.empty
      return some (.file bytes.toList time)
  catch _ => return none

/-- Adds what lies below a directory, down to some depth. -/
def addBelow : (depth : Nat) → Place → Picture → IO Picture
  | 0, _, picture => return picture
  | depth + 1, dir, picture => do
    let entries ← try (← IO.FS.realPath (Place.text dir)).readDir catch _ => pure #[]
    let mut picture := picture
    for entry in entries do
      let name := entry.fileName
      let place := dir ++ [name]
      if let some node ← nodeAt? dir name false then
        picture := picture.insertIfNew place node
        if (node matches .dir _) && isSearched name then
          picture ← addBelow depth place picture
    return picture

/-- Adds a place and those above it. -/
def addPlace (place : Place) (picture : Picture) : IO Picture := do
  let mut picture := picture
  for n in [0:place.length] do
    let here := place.take (n + 1)
    if let some node ← nodeAt? (place.take n) (here.getLast?.getD "") true then
      picture := picture.insert here node
  return picture

/-- Adds what a path leads to, and the way there. -/
def addPath (path : Path) (picture : Picture) : IO Picture := do
  let picture ← addPlace (path.names.takeWhile (· ≠ "..")) picture
  try
    addPlace (Path.ofString (← IO.FS.realPath path.text).toString).names picture
  catch _ => return picture

/-! ## 2. Where files lead -/

/-- The paths that the content of a file names: its imports, or the configurations it extends. -/
def namedIn (path : Path) (text : String) : List String :=
  if path.suffix = ".md" then (Markdown.imports text).map Markdown.Import.path
  else
    match Config.readDocument path text with
    | .ok (.map es) =>
      match Entries.get "extends" es with
      | .text s => [s]
      | .list vs => vs.filterMap Value.text?
      | _ => []
    | _ => []

/-- The paths that a file names, seen from its directory. -/
def ledTo (h : Host) (place : Place) (bytes : List UInt8) : List Path :=
  let path : Path := ⟨1, place⟩
  match Utf8.decode bytes with
  | .error _ => []
  | .ok text => (namedIn path text).filterMap fun s =>
      match h.expandUser (Path.ofString s) with
      | .ok p => some (path.parent.join p)
      | .error _ => none

/-- How often new files are searched for paths. -/
def mostRounds : Nat := 16

/-- Adds what files lead to, until nothing new turns up. -/
def addLedTo (h : Host) : (rounds : Nat) → (fresh : List (Place × Node)) → Picture → IO Picture
  | 0, _, picture => return picture
  | rounds + 1, fresh, picture => do
    let paths := fresh.flatMap fun (place, node) =>
      match node with
      | .file bytes _ => ledTo h place bytes
      | _ => []
    let mut wider := picture
    for path in paths do
      if !wider.contains path.names then wider ← addPath path wider
    let fresh := wider.toList.filter fun e => !picture.contains e.1
    if fresh.isEmpty then return wider else addLedTo h rounds fresh wider

/-! ## 3. Hosts -/

/-- The home directories of the accounts of the machine. -/
def accounts : IO (Assoc String String) := do
  try
    let text ← IO.FS.readFile "/etc/passwd"
    return (text.splitOn "\n").filterMap fun line =>
      match line.splitOn ":" with
      | [name, _, _, _, _, home, _] => some (name, home)
      | _ => none
  catch _ => return []

/-- The present time: that of a file just made. -/
def now : IO Int := do
  let (_, path) ← IO.FS.createTempFile
  let info ← path.metadata
  IO.FS.removeFile path
  return nanoseconds info.modified

/-- The words of a call that can be paths, the values after equals signs among them. -/
def pathWords (words : List String) : List String :=
  words.flatMap fun w => [w] ++ (Cli.nameAndValue w).2.toList

/-- The host of a call. -/
def host (words : List String) : IO Host := do
  let cwd := (Path.ofString (← IO.currentDir).toString).names
  let empty : Host :=
    { tree := [], cwd, home := (← IO.getEnv "HOME").getD "/", accounts := ← accounts, now := ← now }
  let mut picture ← addPlace cwd {}
  for dir in Config.ancestors ⟨1, cwd⟩ do
    for name in Config.fileNames do
      if let some node ← nodeAt? dir.names name true then
        picture := picture.insert (dir.names ++ [name]) node
  picture ← addBelow longestPath cwd picture
  for word in pathWords words do
    let path := empty.cwdPath.join (Path.ofString word)
    picture ← addPath path picture
    if !cwd.isPrefixOf path.names || path.names.any fun n => !isSearched n then
      let real ← try pure (← IO.FS.realPath path.text).toString catch _ => pure ""
      if !real.isEmpty then picture ← addBelow longestPath (Path.ofString real).names picture
  picture ← addLedTo empty mostRounds picture.toList picture
  return { empty with tree := picture.toList }

/-! ## 4. Changes -/

/-- Removes what is no longer there, the innermost first. -/
def removeOld (before after : Picture) : IO Unit := do
  let gone := before.toList.filter fun e => !after.contains e.1
  for (place, node) in gone.mergeSort fun a b => decide (b.1.length ≤ a.1.length) do
    match node with
    | .dir _ | .shut _ => IO.FS.removeDirAll (Place.text place)
    | _ => IO.FS.removeFile (Place.text place)

/-- Writes what is new or different, the outermost first. -/
def writeNew (before after : Picture) : IO Unit := do
  let new := after.toList.filter fun e => decide (before.get? e.1 ≠ some e.2)
  for (place, node) in new.mergeSort fun a b => decide (a.1.length ≤ b.1.length) do
    match node with
    | .dir _ | .shut _ => IO.FS.createDirAll (Place.text place)
    | .file bytes _ => IO.FS.writeBinFile (Place.text place) bytes.toByteArray
    | .link .. => pure ()

end AgentLint.Program

open AgentLint

/-- Runs the program. -/
def main (words : List String) : IO UInt32 := do
  let before ← Program.host words
  let (done, after) := (Cli.run (Cli.version ++ "+0") words).run before
  let old := Std.HashMap.ofList before.tree
  let new := Std.HashMap.ofList after.tree
  Program.removeOld old new
  Program.writeNew old new
  IO.print done.stdout
  IO.eprint done.stderr
  match done.fault with
  | some f => IO.eprintln f.message
  | none => pure ()
  return done.code.toUInt32
