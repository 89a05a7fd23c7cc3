import AgentLint.Assoc
import AgentLint.Path
import AgentLint.Text.Utf8

/-!
# A file tree and the look-up of paths

The files a run works on, as a value: a table from absolute places (lists of names from the root) to
nodes.  A `Host` is such a tree as a process sees it, with a current directory, a home directory and
a clock.  Looking a path up walks its names from the left and follows links, and fails the way a
file system does; nothing here changes the tree (`FileTree.Change` does).

`Host.locate` is the one look-up that everything else uses.
-/

namespace AgentLint

/-! ## 1. Nodes -/

/-- Where a node is: the names from the root. -/
abbrev Place := List String

/-- What can be at a place.  Times of change are in nanoseconds. -/
inductive Node where
  /-- A regular file. -/
  | file (bytes : List UInt8) (mtime : Int)
  /-- A directory. -/
  | dir (mtime : Int)
  /-- A directory in which no name may be looked up; nothing is in it. -/
  | shut (mtime : Int)
  /-- A symbolic link. -/
  | link (target : String) (mtime : Int)
  deriving DecidableEq, Repr

/-- The time of change of a node. -/
def Node.mtime : Node → Int
  | file _ t | dir t | shut t | link _ t => t

/-- Whether a node is a directory. -/
def Node.isDirectory : Node → Bool
  | dir _ | shut _ => true
  | file .. | link .. => false

/-- The nodes of a tree by place; the root itself is always a directory. -/
abbrev FileTree := Assoc Place Node

namespace FileTree

/-- The node at a place. -/
def node? (t : FileTree) (p : Place) : Option Node :=
  if p.isEmpty then some (.dir 0) else Assoc.get? p t

/-- The names directly below a place. -/
def entries (t : FileTree) (p : Place) : List String :=
  t.filterMap fun e =>
    if p.isPrefixOf e.1 then
      match e.1.drop p.length with
      | [n] => some n
      | _ => none
    else none

/-- Everything but what lies at or below a place. -/
def without (t : FileTree) (p : Place) : FileTree := t.filter fun e => !p.isPrefixOf e.1

end FileTree

/-! ## 2. Failures -/

/-- The ways in which a file operation fails. -/
inductive Trouble where
  /-- Nothing is there. -/
  | missing
  /-- A directory on the way must not be entered. -/
  | denied
  /-- Something is there already. -/
  | occupied
  /-- A name of the path is not a directory. -/
  | notDirectory
  /-- A directory is where a file is needed. -/
  | isDirectory
  /-- A name or the path is too long. -/
  | nameTooLong
  /-- The operation makes no sense for the path. -/
  | invalid
  /-- Links lead to links too often. -/
  | links
  deriving DecidableEq, Repr

/-- The number of a failure and its wording. -/
def Trouble.text : Trouble → String
  | missing => "[Errno 2] No such file or directory"
  | denied => "[Errno 13] Permission denied"
  | occupied => "[Errno 17] File exists"
  | notDirectory => "[Errno 20] Not a directory"
  | isDirectory => "[Errno 21] Is a directory"
  | invalid => "[Errno 22] Invalid argument"
  | nameTooLong => "[Errno 36] File name too long"
  | links => "[Errno 40] Too many levels of symbolic links"

/-- A failed file operation. -/
inductive FileFault where
  /-- Trouble with a path. -/
  | trouble (t : Trouble) (path : String)
  /-- Trouble while moving one path to another. -/
  | moving (t : Trouble) (source target : String)
  /-- A tree to be removed turned out to be no directory. -/
  | notATree (path : String)
  /-- A tree to be removed turned out to be a link. -/
  | linkedTree
  /-- Resolving a path led around in a circle. -/
  | circle (path : String)
  /-- The path holds a null character. -/
  | nullByte
  /-- The path holds halves of characters. -/
  | encoding (g : Utf8.Gap)
  /-- The home directory of an unknown account was asked for. -/
  | noHome
  deriving DecidableEq, Repr

/-- The wording of a failure. -/
def FileFault.message : FileFault → String
  | trouble t p => t.text ++ ": " ++ Text.quoted p
  | moving t a b => t.text ++ ": " ++ Text.quoted a ++ " -> " ++ Text.quoted b
  | notATree p => Trouble.notDirectory.text ++ ": PosixPath(" ++ Text.quoted p ++ ")"
  | linkedTree => "Cannot call rmtree on a symbolic link"
  | circle p => "Symlink loop from " ++ Text.quoted p
  | nullByte => "embedded null byte"
  | encoding g => g.message
  | noHome => "Could not determine home directory."

/-- Whether the file system itself reported the failure, rather than a check before it. -/
def FileFault.fromSystem : FileFault → Bool
  | trouble .. | moving .. | notATree _ | linkedTree => true
  | circle _ | nullByte | encoding _ | noHome => false

/-- A character that a path can have: one with bytes, or half of one if it stands for a byte. -/
def isPathChar (c : Char) : Bool := !Text.isSurrogate c || Text.isEscapedByte c

/-- Why a path is refused before the file system is asked, if it is. -/
def refusal? (path : String) : Option FileFault :=
  match Utf8.gap? isPathChar path with
  | some g => some (.encoding g)
  | none => if path.toList.contains (Char.ofNat 0) then some .nullByte else none

/-- The number of bytes of a path. -/
def pathSize (path : String) : Nat :=
  (path.toList.map fun c => if Text.isEscapedByte c then 1 else c.utf8Size).foldr (· + ·) 0

/-! ## 3. Walking -/

/-- The outcome of a walk. -/
inductive Spot where
  /-- A node is there. -/
  | at (place : Place) (node : Node)
  /-- The directory is there, the name in it is not. -/
  | vacant (dir : Place) (name : String)
  deriving DecidableEq, Repr

/-- The names of a path as the file system takes them: dots are kept, and a slash at the end asks
for a directory, as a dot does. -/
def rawNames (s : String) : List String :=
  let parts := Text.splitOn '/' s.toList
  let names := (parts.filter (· ≠ [])).map String.ofList
  if parts.getLast? = some [] && !s.isEmpty then names ++ ["."] else names

/-- The longest name, in bytes. -/
def longestName : Nat := 255

/-- The longest path, in bytes. -/
def longestPath : Nat := 4095

/-- The number of links a look-up follows. -/
def mostLinks : Nat := 40

/-- Walks from a directory along names, where `onLink` takes over at each link that is followed.  A
link at the end is followed only if `follow` holds. -/
def FileTree.walkNames (t : FileTree) (follow : Bool)
    (onLink : Place → List String → Except Trouble Spot) (here : Place) :
    List String → Except Trouble Spot
  | [] =>
    match t.node? here with
    | some n => .ok (.at here n)
    | none => .error .missing
  | n :: rest =>
    if n = "." then t.walkNames follow onLink here rest
    else if n = ".." then t.walkNames follow onLink here.dropLast rest
    else if longestName < pathSize n then .error .nameTooLong
    else
      let place := here ++ [n]
      match t.node? place with
      | none => if rest.isEmpty then .ok (.vacant here n) else .error .missing
      | some (.dir _) => t.walkNames follow onLink place rest
      | some (.shut m) => if rest.isEmpty then .ok (.at place (.shut m)) else .error .denied
      | some (.file b m) =>
        if rest.isEmpty then .ok (.at place (.file b m)) else .error .notDirectory
      | some (.link target m) =>
        if rest.isEmpty && !follow then .ok (.at place (.link target m))
        else onLink (if target.startsWith "/" then [] else here) (rawNames target ++ rest)

/-- Walks from a directory along names, through `links` links at most. -/
def FileTree.walk (t : FileTree) (follow : Bool) : (links : Nat) → Place → List String →
    Except Trouble Spot
  | 0 => t.walkNames follow fun _ _ => .error .links
  | links + 1 => t.walkNames follow (t.walk follow links)

/-! ## 4. Hosts -/

/-- A file tree as a process sees it. -/
structure Host where
  /-- The tree. -/
  tree : FileTree
  /-- The current directory, in which names can be looked up. -/
  cwd : Place
  /-- The home directory. -/
  home : String
  /-- The home directories of other accounts. -/
  accounts : Assoc String String
  /-- The present time, in nanoseconds. -/
  now : Int

/-- The text of an absolute place. -/
def Place.text (p : Place) : String := "/" ++ "/".intercalate p

namespace Host

/-- Looks a path up. -/
def locate (h : Host) (follow : Bool) (path : String) : Except FileFault Spot :=
  match refusal? path with
  | some e => .error e
  | none =>
    let fail (t : Trouble) : FileFault := .trouble t path
    if path.isEmpty then .error (fail .missing)
    else if longestPath < pathSize path then .error (fail .nameTooLong)
    else
      let start := if path.startsWith "/" then [] else h.cwd
      (h.tree.walk follow mostLinks start (rawNames path)).mapError fail

/-- The node a path leads to. -/
def stat (h : Host) (path : String) : Except FileFault (Place × Node) :=
  match h.locate true path with
  | .error e => .error e
  | .ok (.at p n) => .ok (p, n)
  | .ok (.vacant _ _) => .error (.trouble .missing path)

/-- The time of change of what a path leads to; `none` if the file system reports any trouble. -/
def mtime? (h : Host) (path : String) : Except FileFault (Option Int) :=
  match h.stat path with
  | .ok (_, n) => .ok (some n.mtime)
  | .error e => if e.fromSystem then .ok none else .error e

/-- Answers a question about a path, where "not there" (also behind something that is not a
directory, or behind a circle of links) and a path that no file can have count as "no".  There is no
answer for what is too long, or behind a directory that must not be entered. -/
def probe (h : Host) (path : String) (yes : Node → Bool) : Except FileFault Bool :=
  match h.stat path with
  | .ok (_, n) => .ok (yes n)
  | .error (.trouble .nameTooLong p) => .error (.trouble .nameTooLong p)
  | .error (.trouble .denied p) => .error (.trouble .denied p)
  | .error _ => .ok false

/-- Whether something is there. -/
def exists? (h : Host) (path : String) : Except FileFault Bool := h.probe path fun _ => true

/-- Whether a regular file is there. -/
def isFile (h : Host) (path : String) : Except FileFault Bool :=
  h.probe path fun n => match n with
    | .file .. => true
    | _ => false

/-- Whether a directory is there. -/
def isDir (h : Host) (path : String) : Except FileFault Bool := h.probe path Node.isDirectory

/-- The bytes of a file. -/
def readBytes (h : Host) (path : String) : Except FileFault (List UInt8) :=
  match h.stat path with
  | .error e => .error e
  | .ok (_, .file bs _) => .ok bs
  | .ok (_, _) => .error (.trouble .isDirectory path)

/-! ## 5. Resolving -/

/-- The number of steps that resolving can take: every link is opened at most once. -/
def resolveFuel (t : FileTree) (names : List String) : Nat :=
  names.length + 2 + (t.map fun e => match e.2 with
    | .link target _ => (rawNames target).length + 2
    | _ => 0).foldl (· + ·) 0

/-- What is known about a link while resolving: nothing until it is finished. -/
abbrev Opened := Assoc Place (Option Place)

/-- Replaces links by what they point to, wherever they can be read; names that are not there are
kept.  The flag is false if a link led back to itself, and then the rest is left as it is. -/
def resolveAux (t : FileTree) : (fuel : Nat) → Place → List String → Opened →
    Place × Bool × Opened
  | 0, here, rest, seen => (here ++ rest, true, seen)
  | _ + 1, here, [], seen => (here, true, seen)
  | fuel + 1, here, n :: rest, seen =>
    if n = "." then resolveAux t fuel here rest seen
    else if n = ".." then resolveAux t fuel here.dropLast rest seen
    else
      let place := here ++ [n]
      match t.node? place with
      | some (.link target _) =>
        match Assoc.get? place seen with
        | some (some p) => resolveAux t fuel p rest seen
        | some none => (place ++ rest, false, seen)
        | none =>
          let start := if target.startsWith "/" then [] else here
          match resolveAux t fuel start (rawNames target) (Assoc.put place none seen) with
          | (p, false, seen) => (p ++ rest, false, seen)
          | (p, true, seen) => resolveAux t fuel p rest (Assoc.put place (some p) seen)
      | _ => resolveAux t fuel place rest seen

/-- The place that names spell, where two dots take the name before them back. -/
def spelledOut (here : Place) : List String → Place
  | [] => here
  | n :: rest =>
    if n = "." then spelledOut here rest
    else if n = ".." then spelledOut here.dropLast rest
    else spelledOut (here ++ [n]) rest

/-- Replaces links in names by what they point to, as far as that can be done; the flag is false if
it came upon a circle. -/
def opened (h : Host) (path : Path) (names : List String) : Place × Bool :=
  let start := if path.isAbsolute then [] else h.cwd
  let (place, whole, _) := resolveAux h.tree (resolveFuel h.tree names) start names []
  (place, whole)

/-- The names of a path up to the first one that no file can have. -/
def sayable (path : Path) : List String := path.names.takeWhile fun n => (refusal? n).isNone

/-- The absolute path without links that a path stands for.  Names are opened one after the other, up to
a circle; what follows a circle is taken as it is spelled. -/
def resolve (h : Host) (path : Path) : Except FileFault Path :=
  let (place, whole) := h.opened path path.names
  let resolved : Path := ⟨1, if whole then place else spelledOut [] place⟩
  let refused := if (h.opened path (sayable path)).2 then
      refusal? { path with names := path.names.take ((sayable path).length + 1) : Path }.text
    else refusal? resolved.text
  match refused with
  | some e => .error e
  | none =>
    match h.locate true resolved.text with
    | .error (.trouble .links p) => .error (.circle p)
    | _ => .ok resolved

/-- The current directory as a path. -/
def cwdPath (h : Host) : Path := ⟨1, h.cwd⟩

/-- The home directory of an account; that of the process itself for the empty name. -/
def homeOf? (h : Host) (who : String) : Option String :=
  if who.isEmpty then some h.home else Assoc.get? who h.accounts

/-- A path below the home directory of an account. -/
def belowHome (h : Host) (who : String) (names : List String) : Except FileFault Path :=
  match refusal? who with
  | some e => .error e
  | none =>
    match h.homeOf? who with
    | none => .error .noHome
    | some d => .ok ((Path.ofString d).join ⟨0, names⟩)

/-- Replaces a leading tilde and the account behind it by a home directory. -/
def expandUser (h : Host) (p : Path) : Except FileFault Path :=
  match p.slashes, p.names with
  | 0, n :: rest => if n.startsWith "~" then h.belowHome (n.drop 1).toString rest else .ok p
  | _, _ => .ok p

end Host

end AgentLint
