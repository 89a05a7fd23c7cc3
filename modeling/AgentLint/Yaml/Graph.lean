import AgentLint.Yaml.Tag
import AgentLint.Yaml.Token

/-!
# The node graph of a YAML document

Tokens become nodes, numbered in the order in which they are met.  Lists and maps refer to their
children by number, and an alias is just the number of the node that carries the anchor, so a node
may have several parents, or be its own descendant.
-/

namespace AgentLint.Yaml

/-- What a node holds. -/
inductive Content where
  /-- A text. -/
  | scalar (text : String)
  /-- The numbers of the items. -/
  | list (items : List Nat)
  /-- The numbers of keys and values. -/
  | map (pairs : List (Nat × Nat))
  deriving DecidableEq, Inhabited

/-- A node. -/
structure GraphNode where
  /-- How it becomes a value. -/
  tag : Tag
  /-- What it holds. -/
  content : Content
  deriving DecidableEq

/-- Nodes by number. -/
abbrev Graph := Array GraphNode

/-- The state of the building. -/
structure Builder where
  /-- What is left of the tokens. -/
  rest : List Token
  /-- How many tokens have been taken. -/
  taken : Nat
  /-- The fault after the tokens, and the number of the token that shows it. -/
  fault : Option (Nat × LexFault)
  /-- The nodes so far. -/
  graph : Graph
  /-- The nodes that carry anchors. -/
  anchors : Assoc String Nat
  /-- What the handles of tags stand for. -/
  handles : Assoc String String
  /-- How many lists and maps are open. -/
  depth : Nat := 0

/-- A step of the building. -/
abbrev Building (α : Type) := StateT Builder (Except LexFault) α

namespace Building

/-- Refuses the tokens. -/
def fail {α : Type} (m : Malformed) : Building α := throw (.malformed m)

/-- The next token. -/
def peek : Building (Option Token) := do
  let s ← get
  if let some (n, e) := s.fault then
    if n ≤ s.taken then throw e
  return s.rest.head?

/-- Takes the next token. -/
def drop : Building Unit := modify fun s => { s with rest := s.rest.tail, taken := s.taken + 1 }

/-- Takes the next token if it is `t`. -/
def accept (t : Token) : Building Bool := do
  if (← peek) = some t then
    drop
    pure true
  else pure false

/-- Whether the next token is one of several. -/
def nextIn (ts : List Token) : Building Bool := do
  match ← peek with
  | none => pure false
  | some t => pure (ts.contains t)

/-- Adds a node and gives its number. -/
def addNode (tag : Tag) (content : Content) : Building Nat :=
  modifyGet fun s => (s.graph.size, { s with graph := s.graph.push ⟨tag, content⟩ })

/-- Fills in the children of a node. -/
def fill (n : Nat) (content : Content) : Building Unit :=
  modify fun s => { s with graph := s.graph.modify n fun g => { g with content := content } }

/-- Notes the anchor of a node; it must be new. -/
def noteAnchor (anchor : Option String) (n : Nat) : Building Unit := do
  if let some a := anchor then
    if Assoc.has a (← get).anchors then fail .duplicateAnchor
    modify fun s => { s with anchors := Assoc.put a n s.anchors }

/-- The node of an absent value. -/
def absent : Building Nat := addNode .null (.scalar "")

/-- The full name of a tag. -/
def tagName (handle : Option String) (rest : String) : Building String := do
  match handle with
  | none => pure rest
  | some h =>
    match Assoc.get? h (← get).handles with
    | some base => pure (base ++ rest)
    | none => fail .tag

/-- An anchor and a tag, in either order. -/
def properties : Building (Option String × Option String) := do
  match ← peek with
  | some (.anchor a) =>
    drop
    match ← peek with
    | some (.tag h r) =>
      drop
      pure (some a, some (← tagName h r))
    | _ => pure (some a, none)
  | some (.tag h r) =>
    drop
    match ← peek with
    | some (.anchor a) =>
      drop
      pure (some a, some (← tagName h r))
    | _ => pure (none, some (← tagName h r))
  | _ => pure (none, none)

/-- The tag of a list or map that has no tag of its own is `default`. -/
def collectionTag (tag : Option String) (default : Tag) : Tag :=
  match tag with
  | none => default
  | some "!" => default
  | some t => Tag.ofName t

/-- The tag of a scalar. -/
def scalarTag (tag : Option String) (plain : Bool) (text : String) : Tag :=
  match tag with
  | none => if plain then plainTag text else .str
  | some "!" => plainTag text
  | some t => Tag.ofName t

/-- So many lists and maps may be nested. -/
def deepest : Nat := 490

/-- Reads what is inside of a list or map. -/
def inside {α : Type} (items : Building α) : Building α := do
  if deepest ≤ (← get).depth then throw .tooDeep
  modify fun s => { s with depth := s.depth + 1 }
  let a ← items
  modify fun s => { s with depth := s.depth - 1 }
  pure a

mutual
/-- A node.  `block` admits block lists and maps, `bare` a list at the indentation of its key. -/
def node : (fuel : Nat) → (block bare : Bool) → Building Nat
  | 0, _, _ => fail .arrangement
  | fuel + 1, block, bare => do
    match ← peek with
    | some (.alias a) =>
      drop
      match Assoc.get? a (← get).anchors with
      | some n => pure n
      | none => fail .undefinedAlias
    | _ => do
      let (anchor, tag) ← properties
      let open' (tag : Tag) (content : Content) : Building Nat := do
        let n ← addNode tag content
        noteAnchor anchor n
        pure n
      match ← peek with
      | some .item =>
        if bare then
          let n ← open' (collectionTag tag .seq) (.list [])
          fill n (.list (← inside (bareItems fuel [])))
          pure n
        else if anchor.isSome || tag.isSome then open' (scalarTag tag true "") (.scalar "")
        else fail .arrangement
      | some (.scalar text plain) =>
        drop
        open' (scalarTag tag plain text) (.scalar text)
      | some .listOpen =>
        drop
        let n ← open' (collectionTag tag .seq) (.list [])
        fill n (.list (← inside (flowItems fuel [])))
        pure n
      | some .mapOpen =>
        drop
        let n ← open' (collectionTag tag .map) (.map [])
        fill n (.map (← inside (flowPairs fuel [])))
        pure n
      | t =>
        if block && t = some .blockList then
          drop
          let n ← open' (collectionTag tag .seq) (.list [])
          fill n (.list (← inside (blockItems fuel [])))
          pure n
        else if block && t = some .blockMap then
          drop
          let n ← open' (collectionTag tag .map) (.map [])
          fill n (.map (← inside (blockPairs fuel [])))
          pure n
        else if anchor.isSome || tag.isSome then open' (scalarTag tag true "") (.scalar "")
        else fail .arrangement

/-- The items of a block list up to its end; `acc` holds those before, the last first. -/
def blockItems : (fuel : Nat) → (acc : List Nat) → Building (List Nat)
  | 0, _ => fail .arrangement
  | fuel + 1, acc => do
    if ← accept .item then
      let n ← if ← nextIn [.item, .blockEnd] then absent else node fuel true false
      blockItems fuel (n :: acc)
    else if ← accept .blockEnd then pure acc.reverse
    else fail .arrangement

/-- The items of a list at the indentation of its key. -/
def bareItems : (fuel : Nat) → (acc : List Nat) → Building (List Nat)
  | 0, _ => fail .arrangement
  | fuel + 1, acc => do
    if ← accept .item then
      let n ← if ← nextIn [.item, .key, .value, .blockEnd] then absent else node fuel true false
      bareItems fuel (n :: acc)
    else pure acc.reverse

/-- The entries of a block map up to its end. -/
def blockPairs : (fuel : Nat) → (acc : List (Nat × Nat)) → Building (List (Nat × Nat))
  | 0, _ => fail .arrangement
  | fuel + 1, acc => do
    if ← accept .key then
      let k ← if ← nextIn [.key, .value, .blockEnd] then absent else node fuel true true
      let v ← blockValue fuel
      blockPairs fuel ((k, v) :: acc)
    else if ← accept .blockEnd then pure acc.reverse
    else fail .arrangement

/-- The value of an entry of a block map. -/
def blockValue : (fuel : Nat) → Building Nat
  | 0 => fail .arrangement
  | fuel + 1 => do
    if ← accept .value then
      if ← nextIn [.key, .value, .blockEnd] then absent else node fuel true true
    else absent

/-- The items of a list in brackets. -/
def flowItems : (fuel : Nat) → (acc : List Nat) → Building (List Nat)
  | 0, _ => fail .arrangement
  | fuel + 1, acc => do
    if ← accept .listClose then return acc.reverse
    if !acc.isEmpty then
      if !(← accept .comma) then fail .arrangement
    if ← accept .key then
      let (k, v) ← inside (do
        let k ← if ← nextIn [.value, .comma, .listClose] then absent else node fuel false false
        let v ← if ← accept .value then
            (do if ← nextIn [.comma, .listClose] then absent else node fuel false false)
          else absent
        pure (k, v))
      let n ← addNode .map (.map [(k, v)])
      return ← flowItems fuel (n :: acc)
    if ← accept .listClose then return acc.reverse
    let n ← node fuel false false
    flowItems fuel (n :: acc)

/-- The entries of a map in braces. -/
def flowPairs : (fuel : Nat) → (acc : List (Nat × Nat)) → Building (List (Nat × Nat))
  | 0, _ => fail .arrangement
  | fuel + 1, acc => do
    if ← accept .mapClose then return acc.reverse
    if !acc.isEmpty then
      if !(← accept .comma) then fail .arrangement
    if ← accept .key then
      let k ← if ← nextIn [.value, .comma, .mapClose] then absent else node fuel false false
      let v ← if ← accept .value then
          (do if ← nextIn [.comma, .mapClose] then absent else node fuel false false)
        else absent
      return ← flowPairs fuel ((k, v) :: acc)
    if ← accept .mapClose then return acc.reverse
    let k ← node fuel false false
    let v ← absent
    flowPairs fuel ((k, v) :: acc)
end

/-- The handles that are always known. -/
def defaultHandles : Assoc String String := [("!", "!"), ("!!", tagBase)]

/-- The directives before a document: at most one version, of major number one, and no handle
twice. -/
def directives : (fuel : Nat) → (versioned : Bool) → (own : Assoc String String) →
    Building (Assoc String String)
  | 0, _, own => pure own
  | fuel + 1, versioned, own => do
    match ← peek with
    | some (.directive (.version major)) =>
      drop
      if versioned || major ≠ 1 then fail .directive
      directives fuel true own
    | some (.directive (.handle name expansion)) =>
      drop
      if Assoc.has name own then fail .directive
      directives fuel versioned (Assoc.put name expansion own)
    | some (.directive .other) =>
      drop
      directives fuel versioned own
    | _ => pure own

/-- Past document ends. -/
def skipEnds : (fuel : Nat) → Building Unit
  | 0 => pure ()
  | fuel + 1 => do if ← accept .documentEnd then skipEnds fuel

/-- A document that starts with directives or dashes; `none` at the end of the text. -/
def explicitDocument (fuel : Nat) : Building (Option Nat) := do
  skipEnds fuel
  match ← peek with
  | none => pure none
  | some _ =>
    let own ← directives fuel false []
    modify fun s => { s with handles := Assoc.putAll defaultHandles own }
    if !(← accept .documentStart) then fail .arrangement
    match ← peek with
    | none | some (.directive _) | some .documentStart | some .documentEnd => some <$> absent
    | _ => some <$> node fuel true false

/-- The one document of a text, if there is any. -/
def document (fuel : Nat) : Building (Option Nat) := do
  let first ← match ← peek with
    | none => return none
    | some (.directive _) | some .documentStart => explicitDocument fuel
    | some _ => some <$> node fuel true false
  if first.isNone then return none
  let _ ← accept .documentEnd
  skipEnds fuel
  match ← peek with
  | none => pure first
  | some _ =>
    let _ ← directives fuel false []
    fail .severalDocuments

end Building

/-- The graph of the one document of a text and the number of its root, if there is a document. -/
def graph (s : String) : Except LexFault (Option (Graph × Nat)) := do
  let ts := Tokens.ofText s.toList
  let start : Builder := ⟨ts.tokens, 0, ts.fault, #[], [], Building.defaultHandles, 0⟩
  let (root, b) ← (Building.document (2 * ts.tokens.length + 4)).run start
  pure (root.map fun r => (b.graph, r))

end AgentLint.Yaml
