/-!
# Sorting with a comparison that may fail

Keys of different kinds cannot always be compared, and some, such as a double that is not a number, are in
no order with the others.  `Order.sortM` sorts with a comparison that may refuse or contradict itself; what
comes out then depends on which pairs are compared and when, and the rules here fix that.

A list is cut into runs that ascend already, or descend and are turned round.  A short run is filled up by
inserting what follows it, element by element, by halving.  Neighbouring runs are merged as soon as the next
run shows that they belong together, the rest at the end.  While one of two runs keeps winning, a merge
leaps ahead in it instead of comparing one element at a time.
-/

namespace AgentLint.Order

variable {α ε : Type}

/-! ## 1. Runs -/

/-- The length of the longest prefix, after the element `prev`, in which each element compares
with the one before it as `wanted` says. -/
def runLength (lt : α → α → Except ε Bool) (wanted : Bool) (prev : α) : List α → Except ε Nat
  | [] => .ok 0
  | x :: xs =>
    match lt x prev with
    | .error e => .error e
    | .ok b =>
      if b == wanted then (runLength lt wanted x xs).map (· + 1) else .ok 0

/-- The first run of a list, ascending, and what follows it. -/
def firstRun (lt : α → α → Except ε Bool) : List α → Except ε (List α × List α)
  | [] => .ok ([], [])
  | [x] => .ok ([x], [])
  | x :: y :: rest => do
    let descending ← lt y x
    let n ← runLength lt descending y rest
    let run := x :: y :: rest.take n
    pure (if descending then run.reverse else run, rest.drop n)

/-- The place of `pivot` in the sorted array between `lo` and `hi`: after all that do not exceed
it.  `fuel` bounds the halvings. -/
def place (lt : α → α → Except ε Bool) (pivot : α) (xs : Array α) :
    (fuel lo hi : Nat) → Except ε Nat
  | 0, lo, _ => .ok lo
  | fuel + 1, lo, hi =>
    if hi ≤ lo then .ok lo
    else
      let mid := (lo + hi) / 2
      match xs[mid]? with
      | none => .ok lo
      | some x =>
        match lt pivot x with
        | .error e => .error e
        | .ok true => place lt pivot xs fuel lo mid
        | .ok false => place lt pivot xs fuel (mid + 1) hi

/-- Inserts the elements of a list, one by one, into a sorted array. -/
def insertAll (lt : α → α → Except ε Bool) (sorted : Array α) : List α → Except ε (Array α)
  | [] => .ok sorted
  | x :: xs =>
    match place lt x sorted (sorted.size + 1) 0 sorted.size with
    | .error e => .error e
    | .ok i => insertAll lt ((sorted.toList.take i ++ x :: sorted.toList.drop i).toArray) xs

/-- How long a run has to be, in a list of some length: between 32 and 64, such that the number of runs is a
power of two or a little less.  `odd` tells whether a bit has been lost; `fuel` bounds the halvings. -/
def leastRun : (fuel : Nat) → (odd : Bool) → (length : Nat) → Nat
  | 0, _, n => n
  | fuel + 1, odd, n =>
    if 64 ≤ n then leastRun fuel (odd || n % 2 == 1) (n / 2) else if odd then n + 1 else n

/-! ## 2. Leaps -/

/-- How far to leap from a place, in steps that double: as long as the elements at the offsets are as
`wanted`, up to `most`.  The last offset that was, and the first that was not. -/
def leap (wanted : Nat → Except ε Bool) (most : Nat) : (fuel last ofs : Nat) → Except ε (Nat × Nat)
  | 0, last, ofs => .ok (last, min ofs most)
  | fuel + 1, last, ofs =>
    if ofs < most then
      match wanted ofs with
      | .error e => .error e
      | .ok true => leap wanted most fuel ofs (2 * ofs + 1)
      | .ok false => .ok (last, ofs)
    else .ok (last, most)

/-- The first place between `lo` and `hi` whose element is not below, by halving. -/
def halve (below : Nat → Except ε Bool) : (fuel lo hi : Nat) → Except ε Nat
  | 0, lo, _ => .ok lo
  | fuel + 1, lo, hi =>
    if hi ≤ lo then .ok hi
    else
      let mid := lo + (hi - lo) / 2
      match below mid with
      | .error e => .error e
      | .ok true => halve below fuel (mid + 1) hi
      | .ok false => halve below fuel lo mid

/-- The number of elements at the start of an array that are below something, found by leaps from its first
element, or from its last. -/
def frontier (below : α → Except ε Bool) (fromEnd : Bool) (xs : Array α) : Except ε Nat :=
  let n := xs.size
  let at' (i : Nat) : Except ε Bool :=
    match xs[i]? with
    | some x => below x
    | none => .ok false
  let hint := if fromEnd then n - 1 else 0
  match at' hint with
  | .error e => .error e
  | .ok true => do
    let (last, ofs) ← leap (fun k => at' (hint + k)) (n - hint) (n + 1) 0 1
    halve at' (n + 1) (hint + last + 1) (hint + ofs)
  | .ok false => do
    let (last, ofs) ← leap (fun k => (at' (hint - k)).map (!·)) (hint + 1) (n + 1) 0 1
    halve at' (n + 1) (hint + 1 - ofs) (hint - last)

/-! ## 3. Merging two runs -/

/-- So many wins in a row, or by one leap, make leaping worth while. -/
def leastLeap : Nat := 7

/-- A merge in progress, from the front or from the back. -/
structure Merge (α : Type) where
  /-- Whether it goes from the back. -/
  backward : Bool
  /-- What is left of the first run, the next element first. -/
  first : List α
  /-- What is left of the second run, the next element first. -/
  second : List α
  /-- What has been moved, the last element first. -/
  moved : List α
  /-- How many wins in a row start leaping. -/
  patience : Nat
  /-- How often the first run has won in a row. -/
  firstWins : Nat
  /-- How often the second run has won in a row. -/
  secondWins : Nat
  /-- Whether it leaps. -/
  leaping : Bool

namespace Merge

/-- Whether nothing is left to be compared: the run with the fewer elements is down to its last one, which
comes last, or the other is used up. -/
def isOver (m : Merge α) : Bool :=
  if m.backward then m.second.length ≤ 1 || m.first.isEmpty
  else m.first.length ≤ 1 || m.second.isEmpty

/-- What the merge comes to. -/
def result (m : Merge α) : List α :=
  if m.backward then m.second.reverse ++ m.first.reverse ++ m.moved
  else m.moved.reverse ++ m.second ++ m.first

/-- Moves elements of the first run. -/
def moveFirst (m : Merge α) (n : Nat) : Merge α :=
  { m with first := m.first.drop n, moved := (m.first.take n).reverse ++ m.moved }

/-- Moves elements of the second run. -/
def moveSecond (m : Merge α) (n : Nat) : Merge α :=
  { m with second := m.second.drop n, moved := (m.second.take n).reverse ++ m.moved }

/-- Starts leaping if a run has won often enough. -/
def heed (m : Merge α) : Merge α :=
  if !m.isOver && m.patience ≤ max m.firstWins m.secondWins then
    { m with leaping := true, patience := m.patience + 1 }
  else m

/-- Compares the next two elements and moves one of them. -/
def single (lt : α → α → Except ε Bool) (m : Merge α) : Except ε (Merge α) :=
  match m.first, m.second with
  | a :: _, b :: _ => do
    let less ← lt b a
    if less == m.backward then
      pure (heed { m.moveFirst 1 with firstWins := m.firstWins + 1, secondWins := 0 })
    else pure (heed { m.moveSecond 1 with firstWins := 0, secondWins := m.secondWins + 1 })
  | _, _ => .ok m

/-- How many elements of what is left of a run come next, given which elements are below the other run. -/
def ahead (below : α → Except ε Bool) (m : Merge α) (run : List α) : Except ε Nat :=
  if m.backward then (frontier below true run.reverse.toArray).map (run.length - ·)
  else frontier below false run.toArray

/-- Leaps in the first run, then in the second; it goes on as long as one of the leaps is long. -/
def both (lt : α → α → Except ε Bool) (m : Merge α) : Except ε (Merge α) := do
  let m := { m with patience := max 1 (m.patience - 1) }
  let inFirst ← match m.second with
    | b :: _ => m.ahead (fun x => (lt b x).map (!·)) m.first
    | [] => pure 0
  let m := m.moveFirst inFirst
  if m.isOver then return m
  let m := m.moveSecond 1
  if m.isOver then return m
  let inSecond ← match m.first with
    | a :: _ => m.ahead (fun x => lt x a) m.second
    | [] => pure 0
  let m := m.moveSecond inSecond
  if m.isOver then return m
  let m := m.moveFirst 1
  if m.isOver || leastLeap ≤ max inFirst inSecond then return m
  return { m with leaping := false, patience := m.patience + 1, firstWins := 0, secondWins := 0 }

/-- Moves elements until the merge is over; every round moves one. -/
def carryOut (lt : α → α → Except ε Bool) : (fuel : Nat) → Merge α → Except ε (Merge α)
  | 0, m => .ok m
  | fuel + 1, m =>
    if m.isOver then .ok m
    else (if m.leaping then m.both lt else m.single lt).bind (carryOut lt fuel)

end Merge

/-- Merges two runs, given the patience that earlier merges have left.  Elements that are in place already
are left out; the merge goes from the front if the first run is the shorter one. -/
def mergeRuns (lt : α → α → Except ε Bool) (patience : Nat) (xs ys : List α) :
    Except ε (List α × Nat) := do
  let settled ← match ys with
    | y :: _ => frontier (fun x => (lt y x).map (!·)) false xs.toArray
    | [] => pure xs.length
  let first := xs.drop settled
  match first.getLast? with
  | none => return (xs ++ ys, patience)
  | some x =>
    let contested ← frontier (fun y => lt y x) true ys.toArray
    if contested = 0 then return (xs ++ ys, patience)
    let second := ys.take contested
    let start : Merge α :=
      if first.length ≤ second.length then
        Merge.moveSecond ⟨false, first, second, [], patience, 0, 0, false⟩ 1
      else Merge.moveFirst ⟨true, first.reverse, second.reverse, [], patience, 0, 0, false⟩ 1
    let m ← start.carryOut lt (first.length + second.length + 1)
    return (xs.take settled ++ m.result ++ ys.drop contested, m.patience)

/-! ## 4. Merging all runs -/

/-- A run that waits to be merged. -/
structure Pending (α : Type) where
  /-- Where it starts in the list. -/
  start : Nat
  /-- Its elements. -/
  items : List α
  /-- How deep in the list its border to the next run lies. -/
  depth : Nat

/-- The depth of the border between two runs with midpoints `a` and `b`, both doubled, in a list of length
`n`: how often the list must be halved until a cut falls between the midpoints. -/
def borderDepth (n : Nat) : (fuel a b : Nat) → Nat
  | 0, _, _ => 1
  | fuel + 1, a, b =>
    if n ≤ a then borderDepth n fuel (2 * (a - n)) (2 * (b - n)) + 1
    else if n ≤ b then 1
    else borderDepth n fuel (2 * a) (2 * b) + 1

/-- Merges waiting runs, the last one first, as long as the border before the last lies deeper than
`depth`. -/
def mergeDeeper (lt : α → α → Except ε Bool) (depth : Nat) :
    (patience : Nat) → (last : Pending α) → List (Pending α) → Except ε (List (Pending α) × Nat)
  | patience, last, [] => .ok ([last], patience)
  | patience, last, p :: rest =>
    if depth < p.depth then do
      let (items, patience) ← mergeRuns lt patience p.items last.items
      mergeDeeper lt depth patience { p with items } rest
    else .ok (last :: p :: rest, patience)

/-- Merges all waiting runs, the last one first; of the last three, the shorter of the outer ones goes with
the middle one. -/
def mergeAll (lt : α → α → Except ε Bool) :
    (fuel patience : Nat) → List (Pending α) → Except ε (List α)
  | 0, _, ps => .ok (ps.reverse.flatMap Pending.items)
  | _ + 1, _, [] => .ok []
  | _ + 1, _, [p] => .ok p.items
  | fuel + 1, patience, [z, y] => do
    let (items, patience) ← mergeRuns lt patience y.items z.items
    mergeAll lt fuel patience [{ y with items }]
  | fuel + 1, patience, z :: y :: x :: rest => do
    if x.items.length < z.items.length then
      let (items, patience) ← mergeRuns lt patience x.items y.items
      mergeAll lt fuel patience (z :: { x with items } :: rest)
    else
      let (items, patience) ← mergeRuns lt patience y.items z.items
      mergeAll lt fuel patience ({ y with items } :: x :: rest)

/-- Adds a run to those that wait, the last one first, after merging what belongs together. -/
def addRun (lt : α → α → Except ε Bool) (total patience : Nat) (ps : List (Pending α))
    (start : Nat) (items : List α) : Except ε (List (Pending α) × Nat) :=
  match ps with
  | [] => .ok ([⟨start, items, 0⟩], patience)
  | last :: rest => do
    let a := 2 * last.start + last.items.length
    let depth := borderDepth total (2 * total + 2) a (a + last.items.length + items.length)
    let (ps, patience) ← mergeDeeper lt depth patience last rest
    match ps with
    | last :: rest => pure (⟨start, items, 0⟩ :: { last with depth } :: rest, patience)
    | [] => pure ([⟨start, items, 0⟩], patience)

/-- Cuts what is left of a list into runs and merges them; each round takes a run. -/
def sortRuns (lt : α → α → Except ε Bool) (total least : Nat) :
    (fuel patience : Nat) → List (Pending α) → (start : Nat) → List α → Except ε (List α)
  | 0, patience, ps, _, _ => mergeAll lt (ps.length + 1) patience ps
  | _ + 1, patience, ps, _, [] => mergeAll lt (ps.length + 1) patience ps
  | fuel + 1, patience, ps, start, xs => do
    let (run, rest) ← firstRun lt xs
    let missing := least - run.length
    let items := (← insertAll lt run.toArray (rest.take missing)).toList
    let (ps, patience) ← addRun lt total patience ps start items
    sortRuns lt total least fuel patience ps (start + items.length) (rest.drop missing)

/-- A stable sort; the first comparison that fails ends it. -/
def sortM (lt : α → α → Except ε Bool) (xs : List α) : Except ε (List α) :=
  let n := xs.length
  sortRuns lt n (leastRun n false n) n leastLeap [] 0 xs

/-! ## 5. Texts -/

/-- Texts in order, each once. -/
def sortedDistinct (xs : List String) : List String := xs.eraseDups.mergeSort (· ≤ ·)

end AgentLint.Order
