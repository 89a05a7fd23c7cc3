import AgentLint.Yaml.Graph
import AgentLint.Yaml.Scalar

/-!
# From a YAML text to a value

The nodes of a document become a value level by level: the children of a list or map are settled
before any of their own children.  This decides which of several faults is reported.  Keys must be
scalars, the last of several equal keys counts, and the key `<<` merges other maps in front of a
map's own entries.

`Yaml.read` is the reader; a text without a document, or with an empty one, is null.
-/

namespace AgentLint.Yaml

/-- Why a text gives no value. -/
inductive Fault where
  /-- It is not an acceptable YAML document. -/
  | malformed (m : Malformed)
  /-- A scalar does not convert to its kind. -/
  | scalar (f : ScalarFault)
  deriving DecidableEq, Repr

/-- The wording of a fault.  All faults of the document as such are worded alike. -/
def Fault.message : Fault → String
  | malformed _ => "<yaml error>"
  | scalar f => f.message

/-- A fault of the text of a scalar, among the faults of the whole. -/
def Fault.ofLex : LexFault → Fault
  | .malformed m => .malformed m
  | .codePoint n => .scalar (if n < 0x80000000 then .codePoint else .hugeCodePoint)
  | .tooManyDigits n => .scalar (.tooManyDigits n)
  | .tooDeep => .scalar .tooDeep

/-! ## 1. Merging -/

/-- The entries of a map node. -/
def pairsOf (g : Graph) (n : Nat) : Option (List (Nat × Nat)) :=
  match g[n]? with
  | some ⟨_, .map ps⟩ => some ps
  | _ => none

/-- Whether a node has a tag. -/
def hasTag (g : Graph) (t : Tag) (n : Nat) : Bool :=
  match g[n]? with
  | some node => node.tag = t
  | none => false

/-- Replaces the entries of a map node. -/
def setPairs (g : Graph) (n : Nat) (ps : List (Nat × Nat)) : Graph :=
  g.modify n fun node => { node with content := .map ps }

/-- A key that stands for a map's own value is an ordinary text as a key. -/
def plainKeys (g : Graph) (ps : List (Nat × Nat)) : Graph :=
  ps.foldl (fun g p =>
    if hasTag g .value p.1 then g.modify p.1 fun node => { node with tag := .str } else g) g

/-- The entries of each of several maps, after `flat` has carried out their own merges. -/
def gatherMaps (flat : Graph → Nat → Except Fault Graph) :
    Graph → List Nat → Except Fault (Graph × List (List (Nat × Nat)))
  | g, [] => .ok (g, [])
  | g, m :: rest =>
    match g[m]? with
    | some ⟨_, .map _⟩ => do
      let g ← flat g m
      let here := (pairsOf g m).getD []
      let (g, more) ← gatherMaps flat g rest
      .ok (g, here :: more)
    | _ => .error (.malformed .merge)

/-- The entries that merged nodes bring in: those of a map, or those of the maps of a list, the last
of them first. -/
def gather (flat : Graph → Nat → Except Fault Graph) :
    Graph → List Nat → Except Fault (Graph × List (Nat × Nat))
  | g, [] => .ok (g, [])
  | g, m :: rest => do
    let (g, here) ← match g[m]? with
      | some ⟨_, .map _⟩ => gatherMaps flat g [m]
      | some ⟨_, .list items⟩ => gatherMaps flat g items
      | _ => .error (.malformed .merge)
    let (g, more) ← gather flat g rest
    .ok (g, here.reverse.flatten ++ more)

/-- Replaces the merge entries of a map by the entries they bring in.  They are taken out first, so
that a map that merges itself does so once; `fuel` bounds the number of maps that merge one another. -/
def flatten : (fuel : Nat) → Graph → Nat → Except Fault Graph
  | 0, g, _ => .ok g
  | fuel + 1, g, n =>
    match pairsOf g n with
    | none => .ok g
    | some ps => do
      let merges := (ps.filter fun p => hasTag g .merge p.1).map Prod.snd
      let own := ps.filter fun p => !hasTag g .merge p.1
      let g := if merges.isEmpty then g else setPairs g n own
      let (g, brought) ← gather (flatten fuel) (plainKeys g own) merges
      if brought.isEmpty then .ok g
      else .ok (setPairs g n (brought ++ ((pairsOf g n).getD [])))

/-! ## 2. Settling nodes -/

/-- What a settled node is: a scalar value, or a list or map that is still to be filled. -/
inductive Settled where
  /-- A scalar. -/
  | scalar (v : Value)
  /-- A list. -/
  | list
  /-- A list of pairs. -/
  | pairs
  /-- A set. -/
  | set
  /-- A map. -/
  | map

/-- The text of a scalar node; a map may have one under the key for its own value. -/
def scalarText : (fuel : Nat) → Graph → Nat → Except Fault String
  | 0, _, _ => .error (.malformed .kind)
  | fuel + 1, g, n =>
    match g[n]? with
    | some ⟨_, .scalar s⟩ => .ok s
    | some ⟨_, .map ps⟩ =>
      match ps.find? fun p => hasTag g .value p.1 with
      | some (_, v) => scalarText fuel g v
      | none => .error (.malformed .kind)
    | _ => .error (.malformed .kind)

/-- Settles one node by its tag. -/
def settle (g : Graph) (n : Nat) : Except Fault Settled :=
  let text := scalarText (g.size + 1) g n
  let convert {α : Type} (f : String → Except ScalarFault α) : Except Fault α :=
    text.bind fun s => (f s).mapError .scalar
  match g[n]?.map GraphNode.tag with
  | some .null => text.map fun _ => .scalar .null
  | some .bool => (convert toTruth).map fun b => .scalar (.bool b)
  | some .int => (convert toInteger).map fun i => .scalar (.int i)
  | some .float => (convert (toDouble n)).map fun x => .scalar (.float x)
  | some .timestamp =>
    if (pairsOf g n).isSome then (convert fun _ => .error .timestampMap)
    else (convert toTimestamp).map .scalar
  | some .str => text.map fun s => .scalar (.text s)
  | some .binary =>
    text.bind fun s =>
      match toBytes? s with
      | some bs => .ok (.scalar (.bytes bs))
      | none => .error (.malformed .kind)
  | some .seq => .ok .list
  | some .omap | some .pairs => .ok .pairs
  | some .set => .ok .set
  | some .map => .ok .map
  | _ => .error (.malformed .kind)

/-- The work in progress: the graph, the nodes settled so far, the lists and maps that are or will be
filled, first to last, and the children of those that are filled. -/
structure Work where
  /-- The graph, with merges carried out as far as needed. -/
  graph : Graph
  /-- The settled nodes, by number. -/
  settled : Array (Option Settled)
  /-- The nodes to be filled, also those that are filled. -/
  queue : Array Nat
  /-- The children of filled nodes, by number. -/
  filled : Array (Option Content)

/-- A settled node. -/
def Work.settled? (w : Work) (n : Nat) : Option Settled := w.settled[n]?.join

/-- The children of a filled node. -/
def Work.filled? (w : Work) (n : Nat) : Option Content := w.filled[n]?.join

/-- A step of the work. -/
abbrev Working (α : Type) := StateT Work (Except Fault) α

/-- Settles a node unless it is settled already; a list or map joins the queue. -/
def visit (n : Nat) : Working Settled := do
  match (← get).settled? n with
  | some s => pure s
  | none =>
    match settle (← get).graph n with
    | .error e => throw e
    | .ok s =>
      modify fun w => { w with settled := w.settled.setIfInBounds n (some s) }
      match s with
      | .scalar _ => pure ()
      | _ => modify fun w => { w with queue := w.queue.push n }
      pure s

/-- Settles the entries of a map; keys must be scalars. -/
def visitPairs : List (Nat × Nat) → Working Unit
  | [] => pure ()
  | (k, v) :: rest => do
    match ← visit k with
    | .scalar _ => pure ()
    | _ => throw (.malformed .key)
    let _ ← visit v
    visitPairs rest

/-- Settles the entries of a list of pairs, one after the other; `acc` holds those before, the last
first. -/
def visitSingles (acc : List (Nat × Nat)) : List Nat → Working (List (Nat × Nat))
  | [] => pure acc.reverse
  | n :: rest => do
    match pairsOf (← get).graph n with
    | some [(k, v)] =>
      let _ ← visit k
      let _ ← visit v
      visitSingles ((k, v) :: acc) rest
    | _ => throw (.malformed .kind)

/-- Notes the children of a node. -/
def noteFilled (n : Nat) (c : Content) : Working Unit :=
  modify fun w => { w with filled := w.filled.setIfInBounds n (some c) }

/-- Fills a list or map: settles its children and notes them. -/
def fillNode (n : Nat) (s : Settled) : Working Unit := do
  let g := (← get).graph
  match s, g[n]?.map GraphNode.content with
  | .list, some (.list items) =>
    items.forM fun i => do let _ ← visit i
    noteFilled n (.list items)
  | .pairs, some (.list items) =>
    noteFilled n (.map (← visitSingles [] items))
  | .map, some (.map _) | .set, some (.map _) =>
    match flatten (g.size + 2) g n with
    | .error e => throw e
    | .ok g =>
      modify fun w => { w with graph := g }
      let ps := (pairsOf g n).getD []
      visitPairs ps
      noteFilled n (.map ps)
  | _, _ => throw (.malformed .kind)

/-- Fills the nodes of the queue from a place on; every node joins it at most once. -/
def drain : (fuel place : Nat) → Working Unit
  | 0, _ => pure ()
  | fuel + 1, place => do
    match (← get).queue[place]? with
    | none => pure ()
    | some n =>
      match (← get).settled? n with
      | some s => fillNode n s
      | none => pure ()
      drain fuel (place + 1)

/-! ## 3. The value -/

/-- The value of a settled node.  `above` holds the lists and maps that are being written out, so
that one that holds itself is noticed; `fuel` bounds their number. -/
def valueOf (w : Work) : (fuel : Nat) → (above : List Nat) → Nat → Value
  | 0, _, _ => .null
  | fuel + 1, above, n =>
    match w.settled? n, w.filled? n with
    | some (.scalar v), _ => v
    | some s, some c =>
      let isMap := match s with
        | .map => true
        | _ => false
      if above.contains n then .loop isMap
      else
        let here := valueOf w fuel (n :: above)
        let entries (ps : List (Nat × Nat)) : Entries := ps.map fun p => (here p.1, here p.2)
        match s, c with
        | .list, .list items => .list (items.map here)
        | .pairs, .map ps => .list ((entries ps).map fun e => .pair e.1 e.2)
        | .set, .map ps =>
          .set (((entries ps).foldl (fun acc e => Entries.put e.1 .null acc) []).map Prod.fst)
        | .map, .map ps => .map ((entries ps).foldl (fun acc e => Entries.put e.1 e.2 acc) [])
        | _, _ => .null
    | _, _ => .null

/-- The value of a document. -/
def valueOfGraph (g : Graph) (root : Nat) : Except Fault Value := do
  let start : Work := ⟨g, .replicate g.size none, #[], .replicate g.size none⟩
  let ((), w) ← (do
    let _ ← visit root
    drain (g.size + 1) 0 : Working Unit).run start
  pure (valueOf w (g.size + 2) [] root)

/-- Reads a YAML text. -/
def read (s : String) : Except Fault Value :=
  match graph s with
  | .error e => .error (.ofLex e)
  | .ok none => .ok .null
  | .ok (some (g, root)) => valueOfGraph g root

end AgentLint.Yaml
