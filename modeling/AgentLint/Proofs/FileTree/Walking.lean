import AgentLint.Proofs.FileTree.Effect
import Mathlib.Data.List.Induction
import Mathlib.Logic.Relation

/-!
# A walk, step by step

`FileTree.walk` is a function, and most facts about it follow from what one step of it does.  A `Walker` is a
walk on its way: the links it may still follow, where it stands, and the names that are left.  `Step` says how
it goes on and `Ends` where it stops, and `walk_eq_ok_iff` that a walk succeeds exactly if its steps lead to a
stop.

From this it follows that a directory is found again as long as directories and links stay (`Retains`), that
what a directory holds is found through it (`walk_child`), and that a path cannot be followed beyond a
directory that is not there (`exists_of_walk_append`).  The last one needs a tree in which everything stands in
a directory (`Grounded`).
-/

namespace AgentLint

open Relation (ReflTransGen)

namespace FileTree

variable {t t' : FileTree} {follow : Bool}

/-! ## 1. Steps -/

/-- A walk on its way. -/
structure Walker where
  /-- The number of links that it may still follow. -/
  links : Nat
  /-- Where it stands. -/
  here : Place
  /-- The names that are left. -/
  names : List String

/-- A name that a walk looks up. -/
structure Passable (n : String) : Prop where
  ne_dot : n ≠ "."
  ne_up : n ≠ ".."
  short : pathSize n ≤ longestName

/-- One step of a walk. -/
inductive Step (t : FileTree) (follow : Bool) : Walker → Walker → Prop where
  /-- A dot stays. -/
  | dot {k : Nat} {here : Place} {rest : List String} :
    Step t follow ⟨k, here, "." :: rest⟩ ⟨k, here, rest⟩
  /-- Two dots go up. -/
  | up {k : Nat} {here : Place} {rest : List String} :
    Step t follow ⟨k, here, ".." :: rest⟩ ⟨k, here.dropLast, rest⟩
  /-- A directory is entered. -/
  | enter {k : Nat} {here : Place} {n : String} {rest : List String} {m : Int} (hn : Passable n)
    (hnode : t.node? (here ++ [n]) = some (.dir m)) :
    Step t follow ⟨k, here, n :: rest⟩ ⟨k, here ++ [n], rest⟩
  /-- A link is followed. -/
  | link {k : Nat} {here : Place} {n : String} {rest : List String} {target : String} {m : Int}
    (hn : Passable n) (hnode : t.node? (here ++ [n]) = some (.link target m))
    (hmore : rest ≠ [] ∨ follow = true) :
    Step t follow ⟨k + 1, here, n :: rest⟩
      ⟨k, if target.startsWith "/" then [] else here, rawNames target ++ rest⟩

/-- Where a walk stops. -/
inductive Ends (t : FileTree) (follow : Bool) : Walker → Spot → Prop where
  /-- No name is left. -/
  | here {k : Nat} {here : Place} {node : Node} (hnode : t.node? here = some node) :
    Ends t follow ⟨k, here, []⟩ (.at here node)
  /-- Nothing has the last name. -/
  | vacant {k : Nat} {here : Place} {n : String} (hn : Passable n)
    (hnode : t.node? (here ++ [n]) = none) : Ends t follow ⟨k, here, [n]⟩ (.vacant here n)
  /-- A file has it. -/
  | file {k : Nat} {here : Place} {n : String} {b : List UInt8} {m : Int} (hn : Passable n)
    (hnode : t.node? (here ++ [n]) = some (.file b m)) :
    Ends t follow ⟨k, here, [n]⟩ (.at (here ++ [n]) (.file b m))
  /-- A directory has it that must not be entered. -/
  | shut {k : Nat} {here : Place} {n : String} {m : Int} (hn : Passable n)
    (hnode : t.node? (here ++ [n]) = some (.shut m)) :
    Ends t follow ⟨k, here, [n]⟩ (.at (here ++ [n]) (.shut m))
  /-- A link has it that is not to be followed. -/
  | link {k : Nat} {here : Place} {n : String} {target : String} {m : Int} (hn : Passable n)
    (hnode : t.node? (here ++ [n]) = some (.link target m)) (hfollow : follow = false) :
    Ends t follow ⟨k, here, [n]⟩ (.at (here ++ [n]) (.link target m))

/-- The rest of a walk. -/
def Walker.run (t : FileTree) (follow : Bool) (w : Walker) : Except Trouble Spot :=
  t.walk follow w.links w.here w.names

/-- What takes over at a link. -/
def onLink (t : FileTree) (follow : Bool) : Nat → Place → List String → Except Trouble Spot
  | 0 => fun _ _ => .error .links
  | k + 1 => t.walk follow k

theorem walk_eq (t : FileTree) (follow : Bool) (k : Nat) :
    t.walk follow k = t.walkNames follow (t.onLink follow k) := by
  cases k <;> rfl

/-- A name that is looked up. -/
theorem walkNames_passable {n : String} (hn : Passable n) (onLink : Place → List String → Except Trouble Spot)
    (here : Place) (rest : List String) :
    t.walkNames follow onLink here (n :: rest) =
      match t.node? (here ++ [n]) with
      | none => if rest.isEmpty then .ok (.vacant here n) else .error .missing
      | some (.dir _) => t.walkNames follow onLink (here ++ [n]) rest
      | some (.shut m) => if rest.isEmpty then .ok (.at (here ++ [n]) (.shut m)) else .error .denied
      | some (.file b m) =>
        if rest.isEmpty then .ok (.at (here ++ [n]) (.file b m)) else .error .notDirectory
      | some (.link target m) =>
        if rest.isEmpty && !follow then .ok (.at (here ++ [n]) (.link target m))
        else onLink (if target.startsWith "/" then [] else here) (rawNames target ++ rest) := by
  exact (if_neg hn.ne_dot).trans ((if_neg hn.ne_up).trans (if_neg (Nat.not_lt.mpr hn.short)))

theorem Step.run_eq {w w' : Walker} (h : Step t follow w w') : w.run t follow = w'.run t follow := by
  cases h with
  | dot => simp only [Walker.run, walk_eq, walkNames, if_true]
  | up =>
    have hup : ¬ ".." = "." := by decide
    simp only [Walker.run, walk_eq, walkNames, if_neg hup, if_true]
  | enter hn hnode => simp only [Walker.run, walk_eq, walkNames_passable hn, hnode]
  | @link k here n rest target m hn hnode hmore =>
    have hgo : (rest.isEmpty && !follow) = false := by
      rcases hmore with hmore | hmore
      · simp [hmore]
      · simp [hmore]
    simp only [Walker.run]
    rw [walk_eq, walkNames_passable hn, hnode]
    simp only [hgo, Bool.false_eq_true, if_false]
    rfl

theorem Ends.run_eq {w : Walker} {s : Spot} (h : Ends t follow w s) : w.run t follow = .ok s := by
  cases h with
  | here hnode => simp only [Walker.run, walk_eq, walkNames, hnode]
  | vacant hn hnode => simp only [Walker.run, walk_eq, walkNames_passable hn, hnode, List.isEmpty_nil, if_true]
  | file hn hnode => simp only [Walker.run, walk_eq, walkNames_passable hn, hnode, List.isEmpty_nil, if_true]
  | shut hn hnode => simp only [Walker.run, walk_eq, walkNames_passable hn, hnode, List.isEmpty_nil, if_true]
  | link hn hnode hfollow =>
    simp only [Walker.run, walk_eq, walkNames_passable hn, hnode, List.isEmpty_nil, hfollow, Bool.not_false,
      Bool.and_self, if_true]

theorem run_eq_of_steps {w w' : Walker} (h : ReflTransGen (Step t follow) w w') :
    w.run t follow = w'.run t follow := by
  induction h with
  | refl => rfl
  | tail _ hstep ih => rw [ih, hstep.run_eq]

/-- The names of one walk between two links; the walk behind a link is taken for granted. -/
theorem exists_ends_of_walkNames {k : Nat}
    (hlink : ∀ here names s, t.onLink follow k here names = .ok s →
      ∃ j w, k = j + 1 ∧ ReflTransGen (Step t follow) ⟨j, here, names⟩ w ∧ Ends t follow w s) :
    ∀ (names : List String) (here : Place) (s : Spot),
      t.walkNames follow (t.onLink follow k) here names = .ok s →
        ∃ w, ReflTransGen (Step t follow) ⟨k, here, names⟩ w ∧ Ends t follow w s
  | [], here, s, h => by
    rw [walkNames] at h
    split at h
    · rename_i n hn
      cases h
      exact ⟨_, .refl, .here hn⟩
    · cases h
  | n :: rest, here, s, h => by
    by_cases hdot : n = "."
    · subst hdot
      rw [walkNames, if_pos rfl] at h
      obtain ⟨w, hsteps, hends⟩ := exists_ends_of_walkNames hlink rest here s h
      exact ⟨w, .head .dot hsteps, hends⟩
    by_cases hup : n = ".."
    · subst hup
      rw [walkNames, if_neg hdot, if_pos rfl] at h
      obtain ⟨w, hsteps, hends⟩ := exists_ends_of_walkNames hlink rest here.dropLast s h
      exact ⟨w, .head .up hsteps, hends⟩
    by_cases hlong : longestName < pathSize n
    · rw [walkNames, if_neg hdot, if_neg hup, if_pos hlong] at h
      cases h
    have hn : Passable n := ⟨hdot, hup, Nat.not_lt.mp hlong⟩
    rw [walkNames_passable hn] at h
    cases hnode : t.node? (here ++ [n]) with
    | none =>
      rw [hnode] at h
      cases rest with
      | nil =>
        cases h
        exact ⟨_, .refl, .vacant hn hnode⟩
      | cons m rest => cases h
    | some node =>
      rw [hnode] at h
      cases node with
      | dir m =>
        obtain ⟨w, hsteps, hends⟩ := exists_ends_of_walkNames hlink rest (here ++ [n]) s h
        exact ⟨w, .head (.enter hn hnode) hsteps, hends⟩
      | file b m =>
        cases rest with
        | nil =>
          cases h
          exact ⟨_, .refl, .file hn hnode⟩
        | cons m rest => cases h
      | shut m =>
        cases rest with
        | nil =>
          cases h
          exact ⟨_, .refl, .shut hn hnode⟩
        | cons m rest => cases h
      | link target m =>
        simp only at h
        by_cases hend : (rest.isEmpty && !follow) = true
        · rw [if_pos hend] at h
          cases h
          rw [Bool.and_eq_true, List.isEmpty_iff, Bool.not_eq_true'] at hend
          obtain ⟨rfl, hfollow⟩ := hend
          exact ⟨_, .refl, .link hn hnode hfollow⟩
        · rw [if_neg hend] at h
          obtain ⟨j, w, rfl, hsteps, hends⟩ := hlink _ _ s h
          refine ⟨w, .head (.link hn hnode ?_) hsteps, hends⟩
          by_cases hrest : rest = []
          · right
            simpa [hrest] using hend
          · exact .inl hrest

/-- A walk that succeeds takes steps to where it stops. -/
theorem exists_ends_of_walk : ∀ {k : Nat} {here : Place} {names : List String} {s : Spot},
    t.walk follow k here names = .ok s →
      ∃ w, ReflTransGen (Step t follow) ⟨k, here, names⟩ w ∧ Ends t follow w s
  | 0, here, names, s, h => exists_ends_of_walkNames (fun _ _ _ hs => by cases hs) names here s h
  | k + 1, here, names, s, h => by
    refine exists_ends_of_walkNames (k := k + 1) (fun here' names' s' hs => ?_) names here s h
    obtain ⟨w, hsteps, hends⟩ := exists_ends_of_walk (show t.walk follow k here' names' = .ok s' from hs)
    exact ⟨k, w, rfl, hsteps, hends⟩

/-- **A walk succeeds exactly if its steps lead to a stop.** -/
theorem walk_eq_ok_iff {k : Nat} {here : Place} {names : List String} {s : Spot} :
    t.walk follow k here names = .ok s ↔
      ∃ w, ReflTransGen (Step t follow) ⟨k, here, names⟩ w ∧ Ends t follow w s := by
  refine ⟨exists_ends_of_walk, ?_⟩
  rintro ⟨w, hsteps, hends⟩
  exact (run_eq_of_steps hsteps).trans hends.run_eq

/-! ## 2. Directories that stay -/

/-- Directories and links of one tree are there in another. -/
def Retains (t t' : FileTree) : Prop :=
  ∀ p n, t.node? p = some n → (∀ b m, n ≠ .file b m) → t'.node? p = some n

theorem Retains.refl (t : FileTree) : Retains t t := fun _ _ h _ => h

theorem Retains.trans {t₁ t₂ t₃ : FileTree} (h : Retains t₁ t₂) (h' : Retains t₂ t₃) : Retains t₁ t₃ :=
  fun p n hn hfile => h' p n (h p n hn hfile) hfile

theorem Retains.step (h : Retains t t') {w w' : Walker} (hs : Step t follow w w') : Step t' follow w w' := by
  cases hs with
  | dot => exact .dot
  | up => exact .up
  | enter hn hnode => exact .enter hn (h _ _ hnode nofun)
  | link hn hnode hmore => exact .link hn (h _ _ hnode nofun) hmore

theorem Retains.steps (h : Retains t t') {w w' : Walker} (hs : ReflTransGen (Step t follow) w w') :
    ReflTransGen (Step t' follow) w w' := hs.lift id fun _ _ => h.step

/-- A walk to a directory ends when no name is left. -/
theorem steps_of_walk_dir {k : Nat} {here p : Place} {names : List String} {m : Int}
    (h : t.walk follow k here names = .ok (.at p (.dir m))) :
    ∃ j, ReflTransGen (Step t follow) ⟨k, here, names⟩ ⟨j, p, []⟩ ∧ t.node? p = some (.dir m) := by
  obtain ⟨w, hsteps, hends⟩ := walk_eq_ok_iff.mp h
  cases hends with
  | here hnode => exact ⟨_, hsteps, hnode⟩

/-- **A directory is found again** as long as directories and links stay. -/
theorem Retains.walk_dir (h : Retains t t') {k : Nat} {here p : Place} {names : List String} {m : Int}
    (hw : t.walk follow k here names = .ok (.at p (.dir m))) :
    t'.walk follow k here names = .ok (.at p (.dir m)) := by
  obtain ⟨j, hsteps, hnode⟩ := steps_of_walk_dir hw
  exact walk_eq_ok_iff.mpr ⟨_, h.steps hsteps, .here (h p _ hnode nofun)⟩

/-! ## 3. What a directory holds -/

/-- What is found under a name in a directory. -/
def spotIn (t : FileTree) (dir : Place) (n : String) : Spot :=
  match t.node? (dir ++ [n]) with
  | some node => .at (dir ++ [n]) node
  | none => .vacant dir n

theorem place_spotIn (t : FileTree) (dir : Place) (n : String) : (t.spotIn dir n).place = dir ++ [n] := by
  unfold spotIn
  split <;> rfl

theorem node?_spotIn (t : FileTree) (dir : Place) (n : String) :
    (t.spotIn dir n).node? = t.node? (dir ++ [n]) := by
  unfold spotIn
  split
  · rename_i hnode
    exact hnode.symm
  · rename_i hnode
    exact hnode.symm

/-- More names at the end of a walk do not change its steps. -/
theorem Step.append {w w' : Walker} (h : Step t true w w') {rest : List String} (hne : rest ≠ []) :
    Step t follow ⟨w.links, w.here, w.names ++ rest⟩ ⟨w'.links, w'.here, w'.names ++ rest⟩ := by
  cases h with
  | dot => exact .dot
  | up => exact .up
  | enter hn hnode => exact .enter hn hnode
  | @link k here n names target m hn hnode _ =>
    have hlink : Step t follow ⟨k + 1, here, n :: (names ++ rest)⟩ _ :=
      .link hn hnode (.inl (List.append_ne_nil_of_right_ne_nil names hne))
    rw [← List.append_assoc] at hlink
    exact hlink

theorem steps_append {w w' : Walker} (h : ReflTransGen (Step t true) w w') {rest : List String}
    (hne : rest ≠ []) :
    ReflTransGen (Step t follow) ⟨w.links, w.here, w.names ++ rest⟩ ⟨w'.links, w'.here, w'.names ++ rest⟩ :=
  h.lift (fun w => (⟨w.links, w.here, w.names ++ rest⟩ : Walker)) fun _ _ hstep => hstep.append hne

/-- **What a directory holds is found through it**, links aside. -/
theorem walk_child {k : Nat} {here dir : Place} {names : List String} {m : Int}
    (h : t.walk true k here names = .ok (.at dir (.dir m))) {n : String} (hn : Passable n)
    (hlink : ∀ target m, t.node? (dir ++ [n]) ≠ some (.link target m)) :
    t.walk follow k here (names ++ [n]) = .ok (t.spotIn dir n) := by
  obtain ⟨j, hsteps, -⟩ := steps_of_walk_dir h
  have hdir : ReflTransGen (Step t follow) ⟨k, here, names ++ [n]⟩ ⟨j, dir, [n]⟩ :=
    steps_append hsteps (List.cons_ne_nil n [])
  rw [walk_eq_ok_iff, spotIn]
  cases hnode : t.node? (dir ++ [n]) with
  | none => exact ⟨_, hdir, .vacant hn hnode⟩
  | some node =>
    cases node with
    | file b m => exact ⟨_, hdir, .file hn hnode⟩
    | shut m => exact ⟨_, hdir, .shut hn hnode⟩
    | dir m => exact ⟨_, hdir.tail (.enter hn hnode), .here hnode⟩
    | link target m => exact absurd hnode (hlink target m)

/-- A walk that does not follow a last link finds a directory, or stops at such a link. -/
theorem walk_false_of_true {k : Nat} {here dir : Place} {names : List String} {m : Int}
    (h : t.walk true k here names = .ok (.at dir (.dir m))) :
    t.walk false k here names = .ok (.at dir (.dir m)) ∨
      ∃ p target m', t.walk false k here names = .ok (.at p (.link target m')) := by
  obtain ⟨j, hsteps, hnode⟩ := steps_of_walk_dir h
  show Walker.run t false ⟨k, here, names⟩ = _ ∨ ∃ p target m', Walker.run t false ⟨k, here, names⟩ = _
  generalize (⟨k, here, names⟩ : Walker) = w at hsteps
  induction hsteps using ReflTransGen.head_induction_on with
  | refl => exact .inl (Ends.here hnode).run_eq
  | head hstep _ ih =>
    cases hstep with
    | dot => rwa [Step.dot.run_eq]
    | up => rwa [Step.up.run_eq]
    | enter hn hdir => rwa [(Step.enter hn hdir).run_eq]
    | @link k here n rest target m' hn hlink _ =>
      by_cases hrest : rest = []
      · subst hrest
        exact .inr ⟨_, _, _, (Ends.link hn hlink rfl).run_eq⟩
      · rwa [(Step.link hn hlink (.inl hrest)).run_eq]

/-! ## 4. Grounded trees -/

/-- A directory is at a place. -/
def IsDir (t : FileTree) (p : Place) : Prop := ∃ m, t.node? p = some (.dir m)

/-- Everything stands in a directory. -/
def Grounded (t : FileTree) : Prop := ∀ p n, t.node? (p ++ [n]) ≠ none → t.IsDir p

theorem isDir_nil (t : FileTree) : t.IsDir [] := ⟨0, rfl⟩

/-- What stands in the root stands in a directory. -/
theorem grounded_of_flat {t : FileTree} (hflat : ∀ e ∈ t, e.1.length ≤ 1) : t.Grounded := by
  intro p n hn
  rw [node?_of_ne_nil t (by simp)] at hn
  obtain ⟨node, hnode⟩ := Option.ne_none_iff_exists'.mp hn
  have hlen := hflat _ (Assoc.mem_of_get? hnode)
  have hp : p = [] := by simpa using hlen
  rw [hp]
  exact t.isDir_nil

theorem Grounded.isDir_dropLast (hg : t.Grounded) {p : Place} (hp : t.IsDir p) : t.IsDir p.dropLast := by
  rcases List.eq_nil_or_concat p with rfl | ⟨q, n, rfl⟩
  · exact t.isDir_nil
  · obtain ⟨m, hm⟩ := hp
    rw [List.concat_eq_append] at hm ⊢
    rw [List.dropLast_concat]
    exact hg q n (by simp [hm])

/-- Nothing is below anything but a directory. -/
theorem Grounded.isDir_of_below (hg : t.Grounded) {p : Place} : ∀ {rest : List String}, rest ≠ [] →
    t.node? (p ++ rest) ≠ none → t.IsDir p := by
  intro rest
  induction rest using List.reverseRecOn with
  | nil => exact fun hne => absurd rfl hne
  | append_singleton rest n ih =>
    intro _ hnode
    rw [← List.append_assoc] at hnode
    have hdir := hg _ _ hnode
    by_cases hrest : rest = []
    · rwa [hrest, List.append_nil] at hdir
    · obtain ⟨m, hm⟩ := hdir
      exact ih hrest (by simp [hm])

/-- A walk goes from directory to directory. -/
theorem Grounded.step (hg : t.Grounded) {w w' : Walker} (h : Step t follow w w') (hw : t.IsDir w.here) :
    t.IsDir w'.here := by
  cases h with
  | dot => exact hw
  | up => exact hg.isDir_dropLast hw
  | enter hn hnode => exact ⟨_, hnode⟩
  | @link k here n rest target m hn hnode hmore =>
    show t.IsDir (if target.startsWith "/" then [] else here)
    split
    · exact t.isDir_nil
    · exact hw

theorem Grounded.steps (hg : t.Grounded) {w w' : Walker} (h : ReflTransGen (Step t follow) w w')
    (hw : t.IsDir w.here) : t.IsDir w'.here := by
  induction h with
  | refl => exact hw
  | tail _ hstep ih => exact hg.step hstep ih

/-- A name that is missing is missing in a directory. -/
theorem Grounded.isDir_of_vacant (hg : t.Grounded) {k : Nat} {here dir : Place} {names : List String}
    {n : String} (hhere : t.IsDir here) (h : t.walk follow k here names = .ok (.vacant dir n)) :
    t.IsDir dir := by
  obtain ⟨w, hsteps, hends⟩ := walk_eq_ok_iff.mp h
  have hw := hg.steps hsteps hhere
  cases hends with
  | vacant hn hnode => exact hw

/-- A walk stops with one name left at most. -/
theorem Ends.length_names_le {w : Walker} {s : Spot} (h : Ends t follow w s) : w.names.length ≤ 1 := by
  cases h <;> simp

/-- A step does not touch the last name as long as others are before it. -/
theorem Step.dropLast {k : Nat} {here : Place} {x n : String} {names : List String} {w : Walker}
    (h : Step t follow ⟨k, here, x :: (names ++ [n])⟩ w) :
    ∃ names', w.names = names' ++ [n] ∧ Step t true ⟨k, here, x :: names⟩ ⟨w.links, w.here, names'⟩ := by
  cases h with
  | dot => exact ⟨names, rfl, .dot⟩
  | up => exact ⟨names, rfl, .up⟩
  | enter hn hnode => exact ⟨names, rfl, .enter hn hnode⟩
  | @link k here n' rest target m hn hnode hmore =>
    exact ⟨rawNames target ++ names, (List.append_assoc _ _ _).symm, .link hn hnode (.inr rfl)⟩

/-- By the time the last name is looked up, those before it have been walked. -/
theorem exists_steps_of_append {s : Spot} {w end_ : Walker} (h : ReflTransGen (Step t follow) w end_)
    (hends : Ends t follow end_ s) : ∀ {names : List String} {n : String}, w.names = names ++ [n] →
      ∃ j e, ReflTransGen (Step t true) ⟨w.links, w.here, names⟩ ⟨j, e, []⟩ := by
  induction h using ReflTransGen.head_induction_on with
  | refl =>
    intro names n hnames
    have hlen := hends.length_names_le
    rw [hnames, List.length_append, List.length_singleton] at hlen
    obtain rfl : names = [] := List.length_eq_zero_iff.mp (by omega)
    exact ⟨_, _, .refl⟩
  | @head w w' hstep _ ih =>
    intro names n hnames
    obtain ⟨k, here, all⟩ := w
    obtain rfl : all = names ++ [n] := hnames
    cases names with
    | nil => exact ⟨_, _, .refl⟩
    | cons x names =>
      obtain ⟨names', hnames', hstep'⟩ := hstep.dropLast
      obtain ⟨j, e, hrest⟩ := ih hnames'
      exact ⟨j, e, .head hstep' hrest⟩

/-- **A path leads nowhere beyond what is not a directory.** -/
theorem Grounded.exists_of_walk_append (hg : t.Grounded) {k : Nat} {here : Place} {names : List String}
    {n : String} {s : Spot} (hhere : t.IsDir here) (h : t.walk follow k here (names ++ [n]) = .ok s) :
    ∃ e m, t.walk true k here names = .ok (.at e (.dir m)) := by
  obtain ⟨w, hsteps, hends⟩ := walk_eq_ok_iff.mp h
  obtain ⟨j, e, hto⟩ := exists_steps_of_append hsteps hends rfl
  obtain ⟨m, hm⟩ := hg.steps hto hhere
  exact ⟨e, m, walk_eq_ok_iff.mpr ⟨_, hto, .here hm⟩⟩

/-- **Nothing is looked up beyond a directory that must not be entered.** -/
theorem Grounded.walk_beyond_shut (hg : t.Grounded) {k : Nat} {here p : Place} {names : List String} {m : Int}
    (hhere : t.IsDir here) (h : t.walk true k here names = .ok (.at p (.shut m))) (n : String) :
    t.walk follow k here (names ++ [n]) = .error .denied := by
  obtain ⟨w, hsteps, hends⟩ := walk_eq_ok_iff.mp h
  have hdir := hg.steps hsteps hhere
  cases hends with
  | here hnode =>
    obtain ⟨m', hm'⟩ := hdir
    cases hnode.symm.trans hm'
  | @shut j dir x _ hx hnode =>
    have hto : ReflTransGen (Step t follow) ⟨k, here, names ++ [n]⟩ ⟨j, dir, [x] ++ [n]⟩ :=
      steps_append hsteps (List.cons_ne_nil n [])
    have hrun := run_eq_of_steps hto
    unfold Walker.run at hrun
    rw [hrun, walk_eq, List.singleton_append, walkNames_passable hx, hnode]
    rfl

/-! ## 5. Changes to a grounded tree -/

/-- What is put in a directory stands in one; a directory is not replaced by anything else. -/
theorem Grounded.put (hg : t.Grounded) {dir : Place} {n : String} (hdir : t.IsDir dir) {node : Node}
    (hnode : t.IsDir (dir ++ [n]) → ∃ m, node = .dir m) :
    Grounded (Assoc.put (dir ++ [n]) node t) := by
  have hput : ∀ q, node? (Assoc.put (dir ++ [n]) node t) q =
      if dir ++ [n] = q then some node else t.node? q := node?_put t (by simp) node
  intro p x hx
  have hdirs : t.IsDir p → IsDir (Assoc.put (dir ++ [n]) node t) p := by
    rintro ⟨m, hm⟩
    by_cases hp : dir ++ [n] = p
    · obtain ⟨m', rfl⟩ := hnode ⟨m, hp ▸ hm⟩
      exact ⟨m', by rw [hput, if_pos hp]⟩
    · exact ⟨m, by rw [hput, if_neg hp, hm]⟩
  rw [hput] at hx
  split at hx
  · rename_i heq
    obtain ⟨rfl, -⟩ := List.append_inj' heq rfl
    exact hdirs hdir
  · exact hdirs (hg p x hx)

theorem Grounded.without (hg : t.Grounded) (p : Place) : (t.without p).Grounded := by
  intro q x hx
  have hbelow : ¬ p <+: q ++ [x] := by
    intro hp
    exact hx (by rw [node?_without _ _ _ (by simp), if_pos hp])
  rw [node?_without_of_not hbelow] at hx
  obtain ⟨m, hm⟩ := hg q x hx
  exact ⟨m, by rw [node?_without_of_not fun hp => hbelow (hp.trans (List.prefix_append q [x])), hm]⟩

theorem Step.of_false {w w' : Walker} (h : Step t false w w') : Step t true w w' := by
  cases h with
  | dot => exact .dot
  | up => exact .up
  | enter hn hnode => exact .enter hn hnode
  | link hn hnode _ => exact .link hn hnode (.inr rfl)

/-- A directory that is made where a walk finds nothing is found there. -/
theorem walk_put_dir {k : Nat} {here dir : Place} {names : List String} {n : String}
    (h : t.walk false k here names = .ok (.vacant dir n)) (m : Int) :
    walk (Assoc.put (dir ++ [n]) (.dir m) t) true k here names = .ok (.at (dir ++ [n]) (.dir m)) := by
  obtain ⟨w, hsteps, hends⟩ := walk_eq_ok_iff.mp h
  have hput := node?_put t (p := dir ++ [n]) (by simp) (.dir m)
  cases hends with
  | @vacant j _ _ hn hnode =>
    have hkept : Retains t (Assoc.put (dir ++ [n]) (.dir m) t) := by
      intro p node hp _
      rw [hput, if_neg, hp]
      rintro rfl
      rw [hnode] at hp
      cases hp
    have hfound : node? (Assoc.put (dir ++ [n]) (.dir m) t) (dir ++ [n]) = some (.dir m) := by
      rw [hput, if_pos rfl]
    have hto : ReflTransGen (Step (Assoc.put (dir ++ [n]) (.dir m) t) true) ⟨k, here, names⟩
        ⟨j, dir, [n]⟩ := hsteps.lift id fun _ _ hstep => hkept.step hstep.of_false
    exact walk_eq_ok_iff.mpr ⟨_, hto.tail (.enter hn hfound), .here hfound⟩

end FileTree

end AgentLint
