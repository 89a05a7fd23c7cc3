import AgentLint.Proofs.Cache.Directory

/-!
# Files that a cache leaves alone

A cache makes directories on the way to its own, and what it makes may be what a path leads to: a file that a
run has missed is a directory then.  `Host.looked` lists the places that decide where a path leads.  A file
is `Clear` of a cache if these are neither in its directory nor missing on the way to it, and then it keeps its
time of change whatever the cache does (`Clear.mtime?_eq`), and a run over such files keeps the material of its
fingerprint (`material_congr`).
-/

namespace AgentLint

/-! ## 1. What is looked at -/

namespace FileTree

variable {t t' : FileTree}

/-- The places that are looked at along names, with links followed; `onLink` takes over at each. -/
def lookedNames (t : FileTree) (onLink : Place → List String → List Place) (here : Place) :
    List String → List Place
  | [] => [here]
  | n :: rest =>
    if n = "." then t.lookedNames onLink here rest
    else if n = ".." then t.lookedNames onLink here.dropLast rest
    else if longestName < pathSize n then []
    else
      (here ++ [n]) ::
        match t.node? (here ++ [n]) with
        | some (.dir _) => t.lookedNames onLink (here ++ [n]) rest
        | some (.link target _) =>
          onLink (if target.startsWith "/" then [] else here) (rawNames target ++ rest)
        | _ => []

/-- The places that a walk looks at, through `links` links at most. -/
def looked (t : FileTree) : (links : Nat) → Place → List String → List Place
  | 0 => t.lookedNames fun _ _ => []
  | links + 1 => t.lookedNames (t.looked links)

/-- The names of one walk between two links. -/
theorem walkNames_congr {onWalk onWalk' : Place → List String → Except Trouble Spot}
    {onLook onLook' : Place → List String → List Place}
    (hlink : ∀ here names, (∀ q ∈ onLook here names, t'.node? q = t.node? q) →
      onWalk' here names = onWalk here names ∧ onLook' here names = onLook here names) :
    ∀ (names : List String) (here : Place),
      (∀ q ∈ t.lookedNames onLook here names, t'.node? q = t.node? q) →
        t'.walkNames true onWalk' here names = t.walkNames true onWalk here names ∧
          t'.lookedNames onLook' here names = t.lookedNames onLook here names
  | [], here, h => by
    rw [walkNames, walkNames, h here List.mem_cons_self]
    exact ⟨rfl, rfl⟩
  | n :: rest, here, h => by
    by_cases hdot : n = "."
    · simp only [walkNames, lookedNames, hdot, if_true] at h ⊢
      exact walkNames_congr hlink rest here h
    by_cases hup : n = ".."
    · simp only [walkNames, lookedNames, hup, if_true] at h ⊢
      exact walkNames_congr hlink rest here.dropLast h
    by_cases hlong : longestName < pathSize n
    · simp only [walkNames, lookedNames, if_neg hdot, if_neg hup, if_pos hlong, and_self]
    simp only [walkNames, lookedNames, if_neg hdot, if_neg hup, if_neg hlong] at h ⊢
    rw [h _ List.mem_cons_self]
    have hrest := fun q hq => h q (List.mem_cons_of_mem _ hq)
    cases hnode : t.node? (here ++ [n]) with
    | none => exact ⟨rfl, rfl⟩
    | some node =>
      rw [hnode] at hrest
      cases node with
      | file b m | shut m => exact ⟨rfl, rfl⟩
      | dir m =>
        obtain ⟨hwalk, hlook⟩ := walkNames_congr hlink rest (here ++ [n]) hrest
        exact ⟨hwalk, congrArg _ hlook⟩
      | link target m =>
        obtain ⟨hwalk, hlook⟩ := hlink _ _ hrest
        simp only [Bool.not_true, Bool.and_false, Bool.false_eq_true, if_false]
        exact ⟨hwalk, congrArg _ hlook⟩

/-- **A walk depends on nothing but what it looks at.** -/
theorem walk_congr : ∀ {k : Nat} {here : Place} {names : List String},
    (∀ q ∈ t.looked k here names, t'.node? q = t.node? q) →
      t'.walk true k here names = t.walk true k here names ∧ t'.looked k here names = t.looked k here names
  | 0, here, names, h => walkNames_congr (fun _ _ _ => ⟨rfl, rfl⟩) names here h
  | _ + 1, here, names, h => walkNames_congr (fun _ _ hlink => walk_congr hlink) names here h

end FileTree

namespace Host

variable {h h' : Host} {path : String}

/-- The places that are looked at to find what a path leads to. -/
def looked (h : Host) (path : String) : List Place :=
  h.tree.looked mostLinks (if path.startsWith "/" then [] else h.cwd) (rawNames path)

theorem looked_congr (hcwd : h'.cwd = h.cwd)
    (hsame : ∀ q ∈ h.looked path, h'.tree.node? q = h.tree.node? q) : h'.looked path = h.looked path := by
  unfold looked at hsame ⊢
  rw [hcwd]
  exact (FileTree.walk_congr hsame).2

/-- Where a path leads depends on nothing but what is looked at. -/
theorem locate_congr (hcwd : h'.cwd = h.cwd)
    (hsame : ∀ q ∈ h.looked path, h'.tree.node? q = h.tree.node? q) : h'.locate true path = h.locate true path := by
  simp only [locate, hcwd, (FileTree.walk_congr hsame).1]

theorem stat_congr (hcwd : h'.cwd = h.cwd)
    (hsame : ∀ q ∈ h.looked path, h'.tree.node? q = h.tree.node? q) : h'.stat path = h.stat path := by
  rw [stat, stat, locate_congr hcwd hsame]

end Host

/-! ## 2. Files that are clear of a cache -/

namespace Cache

variable {c : Cache} {d : Place} {h h' : Host} {path : String}

/-- A file, or nothing, that is found without a place in the directory of a cache or one that is missing on the way
to it.  Directories are left out: their times change with what they hold, which a tree does not keep. -/
structure Clear (c : Cache) (d : Place) (h : Host) (path : String) : Prop where
  outside : ∀ q ∈ h.looked path, ¬ d <+: q
  onWay : ∀ q ∈ h.looked path, OnWay h c.location q → h.tree.node? q ≠ none
  file : ∀ q m, h.stat path ≠ .ok (q, .dir m)

namespace Clear

variable (hc : Clear c d h path) (hf : Furnished c d h h')

include hc hf

theorem node?_eq : ∀ q ∈ h.looked path, h'.tree.node? q = h.tree.node? q := by
  intro q hq
  rcases hf.outside q (hc.outside q hq) with hsame | ⟨hway, hnone, -⟩
  · exact hsame
  · exact absurd hnone (hc.onWay q hq hway)

theorem stat_eq : h'.stat path = h.stat path := Host.stat_congr hf.cwd_eq (hc.node?_eq hf)

/-- **A file that is clear of a cache keeps its time of change.** -/
theorem mtime?_eq : h'.mtime? path = h.mtime? path := by
  rw [Host.mtime?, Host.mtime?, hc.stat_eq hf]

/-- It stays clear. -/
theorem furnished : Clear c d h' path := by
  have hlooked : h'.looked path = h.looked path := Host.looked_congr hf.cwd_eq (hc.node?_eq hf)
  refine ⟨fun q hq => ?_, fun q hq hway => ?_, fun q m => ?_⟩
  · rw [hlooked] at hq
    exact hc.outside q hq
  · rw [hlooked] at hq
    rw [hc.node?_eq hf q hq]
    exact hc.onWay q hq (hf.onWay_iff.mp hway)
  · rw [hc.stat_eq hf]
    exact hc.file q m

end Clear

/-! ## 3. Material -/

/-- Material depends on the files by their times of change alone. -/
theorem material_congr {files : List String} (name : String) (config : Option Config)
    (hsame : ∀ p ∈ Order.sortedDistinct files, h'.mtime? p = h.mtime? p) :
    c.material h' name config files = c.material h name config files := by
  have htracked : (Order.sortedDistinct files).mapM (trackedValue h') =
      (Order.sortedDistinct files).mapM (trackedValue h) := by
    refine mapM_congr fun p hp => ?_
    simp only [trackedValue, hsame p hp]
  simp only [material, htracked]

end Cache

end AgentLint
