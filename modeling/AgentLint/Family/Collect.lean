import AgentLint.FileTree.Basic
import AgentLint.Order

/-!
# Collecting files

The files that paths stand for: a file stands for itself, a directory for all files below it.  Links
to directories are not followed, and some directories are never looked into.
-/

namespace AgentLint.Collect

/-- Directories whose content is never looked at. -/
def skippedDirs : List String := [".git", "node_modules", ".venv", "__pycache__", ".lintloom-cache"]

/-- A path as it is shown: relative to a root if it lies below it, links resolved. -/
def shownPath (h : Host) (root path : Path) : Except FileFault String := do
  let resolved ← h.resolve path
  let base ← h.resolve root
  match base.below? resolved with
  | some rel => pure rel.text
  | none => pure path.text

/-- Whether a node at a place counts as a file: also a link, unless it leads to a directory. -/
def isFileNode (h : Host) (place : Place) : Node → Bool
  | .file .. => true
  | .dir _ | .shut _ => false
  | .link .. => match h.stat place.text with
    | .ok (_, n) => !n.isDirectory
    | .error _ => true

/-- The names below a directory that lead to files, skipped directories aside. -/
def filesBelow (h : Host) (dir : Place) : List (List String) :=
  h.tree.filterMap fun (place, node) =>
    let below := place.drop dir.length
    if dir.isPrefixOf place && !below.isEmpty && !below.dropLast.any skippedDirs.contains
        && isFileNode h place node then some below
    else none

/-- The files that a path stands for: itself, or those below it. -/
def filesAt (h : Host) (root path : Path) : Except FileFault (List String) := do
  if ← h.isFile path.text then return [← shownPath h root path]
  if !(← h.isDir path.text) then return []
  let (dir, _) ← h.stat path.text
  (filesBelow h dir).mapM fun below => shownPath h root (path.join ⟨0, below⟩)

/-- All files that some paths stand for, in order, each once. -/
def files (h : Host) (root : Path) (paths : List Path) : Except FileFault (List String) := do
  let found ← paths.mapM (filesAt h root)
  pure (Order.sortedDistinct found.flatten)

end AgentLint.Collect
