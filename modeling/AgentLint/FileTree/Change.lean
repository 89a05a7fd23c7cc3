import AgentLint.FileTree.Basic

/-!
# Changes to a file tree

The operations that change the tree of a host: making directories, writing, moving and removing
files, removing whole trees.  A change may fail half-way and what it did until then stays done, so
each operation gives its outcome and the host it leaves.
-/

namespace AgentLint

/-- An operation on a host: an outcome, and the host afterwards in either case. -/
abbrev FileOp (α : Type) := ExceptT FileFault (StateM Host) α

namespace FileOp

/-- A question to the host, which it does not change. -/
def ask {α : Type} (f : Host → Except FileFault α) : FileOp α := do
  match f (← get) with
  | .ok a => pure a
  | .error e => throw e

/-- Runs an operation and hands its outcome on, failures included. -/
def attempt {α : Type} (op : FileOp α) : FileOp (Except FileFault α) :=
  ExceptT.lift (ExceptT.run op)

/-- Puts a node at a place. -/
def putNode (p : Place) (n : Node) : FileOp Unit :=
  modify fun h => { h with tree := Assoc.put p n h.tree }

/-- Removes the node at a place and all below it. -/
def dropNode (p : Place) : FileOp Unit :=
  modify fun h => { h with tree := h.tree.without p }

/-- Makes one directory. -/
def makeDir (path : Path) : FileOp Unit := do
  match ← ask fun h => h.locate false path.text with
  | .at _ _ => throw (.trouble .occupied path.text)
  | .vacant dir name => putNode (dir ++ [name]) (.dir (← get).now)

/-- Settles a failure to make a directory: one that is there already is fine. -/
def orPresent (path : Path) (e : FileFault) : FileOp Unit := do
  if e.fromSystem && (← ask fun h => h.isDir path.text) then pure () else throw e

/-- Makes a directory and, first, those above it that are missing. -/
def makeDirsAux : (fuel : Nat) → Path → FileOp Unit
  | 0, path => throw (.trouble .missing path.text)
  | fuel + 1, path => do
    match ← attempt (makeDir path) with
    | .ok () => pure ()
    | .error (.trouble .missing p) =>
      if path.names.isEmpty then throw (.trouble .missing p)
      makeDirsAux fuel path.parent
      match ← attempt (makeDir path) with
      | .ok () => pure ()
      | .error (.trouble .missing p) => throw (.trouble .missing p)
      | .error e => orPresent path e
    | .error e => orPresent path e

/-- Makes a directory with all those above it; one that is there already is fine. -/
def makeDirs (path : Path) : FileOp Unit := makeDirsAux (path.names.length + 1) path

/-- Writes a file, creating it if need be. -/
def writeBytes (path : String) (bytes : List UInt8) : FileOp Unit := do
  match ← ask fun h => h.locate true path with
  | .at p (.file ..) => putNode p (.file bytes (← get).now)
  | .at _ _ => throw (.trouble .isDirectory path)
  | .vacant dir name => putNode (dir ++ [name]) (.file bytes (← get).now)

/-- Moves a file over another path. -/
def move (source target : String) : FileOp Unit := do
  let fail (e : FileFault) : FileFault := match e with
    | .trouble t _ => .moving t source target
    | e => e
  let look (path : String) : FileOp Spot := do
    match (← get).locate false path with
    | .ok s => pure s
    | .error e => throw (fail e)
  match ← look source with
  | .vacant _ _ => throw (.moving .missing source target)
  | .at p n =>
    match ← look target with
    | .at q n' =>
      if n'.isDirectory then throw (.moving .isDirectory source target)
      else if p ≠ q then
        dropNode p
        putNode q n
    | .vacant dir name =>
      dropNode p
      putNode (dir ++ [name]) n

/-- Removes a file or a link; it is fine if there is none. -/
def unlink (path : String) : FileOp Unit := do
  match (← get).locate false path with
  | .error (.trouble .missing _) => pure ()
  | .error e => throw e
  | .ok (.vacant _ _) => pure ()
  | .ok (.at p n) =>
    if n.isDirectory then throw (.trouble .isDirectory path) else dropNode p

/-- Removes a directory with all below it.  The directory must not be reached through a link at the
end of the path, and the current directory is emptied but cannot itself be removed by its dot. -/
def removeTree (path : Path) : FileOp Unit := do
  match ← ask fun h => h.locate false path.text with
  | .vacant _ _ => throw (.trouble .missing path.text)
  | .at _ (.file ..) => throw (.notATree path.text)
  | .at _ (.link ..) =>
    let _ ← ask fun h => h.stat path.text
    throw .linkedTree
  | .at p n =>
    dropNode p
    if path.names.isEmpty then
      if !p.isEmpty then putNode p n
      throw (.trouble .invalid path.text)

end FileOp

end AgentLint
