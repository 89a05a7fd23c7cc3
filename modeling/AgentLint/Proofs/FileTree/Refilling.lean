import AgentLint.FileTree.Text
import Mathlib.Tactic.Common

/-!
# Other bytes in a file

A host with other bytes in one of its files is the same host for every look-up of a path: the path leads to the same
place, or fails in the same way (`stat_refilled`).  Times of change are the same too, and other files hold what they
held.
-/

namespace AgentLint

/-- A node with other bytes, if it is a file. -/
def Node.refilled (bytes : List UInt8) : Node → Node
  | .file _ m => .file bytes m
  | n => n

/-- What is found, if there are other bytes in the file at a place. -/
def Spot.refilled (p : Place) (bytes : List UInt8) : Spot → Spot
  | .at q n => .at q (if q = p then n.refilled bytes else n)
  | s => s

namespace FileTree

/-- A tree with other bytes in the file at a place. -/
def refilled (t : FileTree) (p : Place) (bytes : List UInt8) : FileTree :=
  t.map fun e => (e.1, if e.1 = p then e.2.refilled bytes else e.2)

variable {t : FileTree} {p : Place} {bytes : List UInt8}

theorem node?_refilled (t : FileTree) (p : Place) (bytes : List UInt8) (q : Place) :
    (t.refilled p bytes).node? q = (t.node? q).map fun n => if q = p then n.refilled bytes else n := by
  unfold node?
  split
  · simp only [Option.map_some]
    split <;> rfl
  · induction t with
    | nil => rfl
    | cons e t ih =>
      by_cases heq : e.1 = q
      · simp [refilled, Assoc.get?, heq]
      · simpa [refilled, Assoc.get?, heq] using ih

/-- A walk takes the same way, if it does so at each link. -/
theorem walkNames_refilled {follow : Bool} {onLink onLink' : Place → List String → Except Trouble Spot}
    (hlink : ∀ here names, onLink' here names = (onLink here names).map (Spot.refilled p bytes)) :
    ∀ (names : List String) (here : Place), (t.refilled p bytes).walkNames follow onLink' here names =
      (t.walkNames follow onLink here names).map (Spot.refilled p bytes)
  | [], here => by
    rw [walkNames, walkNames, node?_refilled]
    cases t.node? here <;> rfl
  | n :: rest, here => by
    by_cases hdot : n = "."
    · simp only [walkNames, hdot, if_true]
      exact walkNames_refilled hlink rest here
    by_cases hup : n = ".."
    · simp only [walkNames, hup, if_true]
      exact walkNames_refilled hlink rest here.dropLast
    by_cases hlong : longestName < pathSize n
    · simp only [walkNames, if_neg hdot, if_neg hup, if_pos hlong]
      rfl
    simp only [walkNames, if_neg hdot, if_neg hup, if_neg hlong]
    rw [node?_refilled]
    cases hnode : t.node? (here ++ [n]) with
    | none => cases rest <;> rfl
    | some node =>
      cases node with
      | dir m =>
        simp only [Option.map_some, Node.refilled, ite_self]
        exact walkNames_refilled hlink rest (here ++ [n])
      | shut m =>
        simp only [Option.map_some, Node.refilled, ite_self]
        cases rest <;> simp [Except.map, Spot.refilled, Node.refilled]
      | file b m =>
        by_cases hp : here ++ [n] = p
        · simp only [Option.map_some, Node.refilled, hp, if_true]
          cases rest <;> simp [Except.map, Spot.refilled, Node.refilled]
        · simp only [Option.map_some, hp, if_false]
          cases rest <;> simp [Except.map, Spot.refilled, hp]
      | link target m =>
        simp only [Option.map_some, Node.refilled, ite_self]
        split
        · simp [Except.map, Spot.refilled, Node.refilled]
        · exact hlink _ _

theorem walk_refilled {follow : Bool} : ∀ (k : Nat) (here : Place) (names : List String),
    (t.refilled p bytes).walk follow k here names = (t.walk follow k here names).map (Spot.refilled p bytes)
  | 0, here, names => by
    refine walkNames_refilled (fun _ _ => ?_) names here
    rfl
  | k + 1, here, names => walkNames_refilled (walk_refilled k) names here

end FileTree

namespace Host

/-- A host with other bytes in the file at a place. -/
def refilled (h : Host) (p : Place) (bytes : List UInt8) : Host := { h with tree := h.tree.refilled p bytes }

variable {h : Host} {p : Place} {bytes : List UInt8} {path : String}

theorem locate_refilled (follow : Bool) :
    (h.refilled p bytes).locate follow path = (h.locate follow path).map (Spot.refilled p bytes) := by
  unfold locate
  split
  · rfl
  · simp only [refilled, FileTree.walk_refilled]
    split
    · rfl
    · split
      · rfl
      · cases h.tree.walk follow mostLinks (if path.startsWith "/" then [] else h.cwd) (rawNames path) <;> rfl

/-- **A path leads to the same place.** -/
theorem stat_refilled : (h.refilled p bytes).stat path =
    (h.stat path).map fun s => (s.1, if s.1 = p then s.2.refilled bytes else s.2) := by
  unfold stat
  rw [locate_refilled]
  cases h.locate true path with
  | error e => rfl
  | ok s => cases s <;> rfl

theorem mtime?_refilled : (h.refilled p bytes).mtime? path = h.mtime? path := by
  unfold mtime?
  rw [stat_refilled]
  cases h.stat path with
  | error e => rfl
  | ok s =>
    obtain ⟨q, n⟩ := s
    simp only [Except.map]
    by_cases hq : q = p
    · cases n <;> simp [hq, Node.refilled, Node.mtime]
    · simp [hq]

/-- The bytes that were put in last are there. -/
theorem refilled_refilled (bytes' : List UInt8) : (h.refilled p bytes).refilled p bytes' = h.refilled p bytes' := by
  have hnode : ∀ n : Node, (n.refilled bytes).refilled bytes' = n.refilled bytes' := by
    intro n
    cases n <;> rfl
  simp only [refilled, FileTree.refilled, List.map_map]
  congr 1
  refine List.map_congr_left fun e _ => ?_
  by_cases he : e.1 = p
  · simp [he, hnode]
  · simp [he]

/-- Other files hold what they held. -/
theorem readBytes_refilled (hnot : ∀ b m, h.stat path ≠ .ok (p, .file b m)) :
    (h.refilled p bytes).readBytes path = h.readBytes path := by
  unfold readBytes
  rw [stat_refilled]
  cases hs : h.stat path with
  | error e => rfl
  | ok s =>
    obtain ⟨q, n⟩ := s
    simp only [Except.map]
    by_cases hq : q = p
    · cases n with
      | file b m => exact absurd (hq ▸ hs) (hnot b m)
      | dir m | shut m | link target m => simp [hq, Node.refilled]
    · simp [hq]

/-- The file itself holds the other bytes. -/
theorem readBytes_refilled_self {b : List UInt8} {m : Int} (hs : h.stat path = .ok (p, .file b m)) :
    (h.refilled p bytes).readBytes path = .ok bytes := by
  unfold readBytes
  rw [stat_refilled, hs]
  simp [Except.map, Node.refilled]

end Host

end AgentLint
