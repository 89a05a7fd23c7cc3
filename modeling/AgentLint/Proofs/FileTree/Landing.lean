import AgentLint.FileTree.Basic
import AgentLint.Proofs.Assoc
import AgentLint.Proofs.Path

/-!
# Where a path lands

A walk depends on every node it passes.  Where it ends, if it ends anywhere, depends on the links alone:
`FileTree.land` computes that place without looking whether the directories on the way are there.  As
long as the links of a tree stay as they are, a path cannot come to mean another place, whatever is
created, changed and deleted meanwhile; and a path below another one lands below it, as long as no link
stands there.
-/

namespace AgentLint

namespace FileTree

/-! ## 1. Nodes after a change -/

theorem node?_nil (t : FileTree) : t.node? [] = some (.dir 0) := rfl

theorem node?_of_ne_nil (t : FileTree) {p : Place} (hp : p ≠ []) : t.node? p = Assoc.get? p t := by
  rw [node?, if_neg (by simpa using hp)]

theorem node?_put (t : FileTree) {p : Place} (hp : p ≠ []) (n : Node) (q : Place) :
    node? (Assoc.put p n t) q = if p = q then some n else t.node? q := by
  by_cases hq : q = []
  · subst hq
    rw [if_neg hp, node?_nil, node?_nil]
  · rw [node?_of_ne_nil _ hq, node?_of_ne_nil _ hq, Assoc.get?_put]

theorem node?_without (t : FileTree) (p q : Place) (hq : q ≠ []) :
    (t.without p).node? q = if p <+: q then none else t.node? q := by
  rw [node?_of_ne_nil _ hq, node?_of_ne_nil _ hq, without]
  induction t with
  | nil => simp
  | cons e t ih =>
    obtain ⟨r, n⟩ := e
    by_cases hp : p <+: r
    · rw [List.filter_cons_of_neg (by simpa using hp), ih, Assoc.get?_cons]
      by_cases hr : r = q
      · rw [← hr, if_pos hp, if_pos hp]
      · rw [if_neg hr]
    · have hpos : p.isPrefixOf r = false := by
        rw [← Bool.not_eq_true, List.isPrefixOf_iff_prefix]
        exact hp
      rw [List.filter_cons_of_pos (by simp [hpos]), Assoc.get?_cons, Assoc.get?_cons, ih]
      by_cases hr : r = q
      · rw [if_pos hr, if_pos hr, ← hr, if_neg hp]
      · rw [if_neg hr, if_neg hr]

theorem node?_without_of_not {t : FileTree} {p q : Place} (hpq : ¬ p <+: q) :
    (t.without p).node? q = t.node? q := by
  by_cases hq : q = []
  · rw [hq, node?_nil, node?_nil]
  · rw [node?_without t p q hq, if_neg hpq]

theorem node?_of_without {t : FileTree} {p q : Place} {n : Node}
    (hn : (t.without p).node? q = some n) : t.node? q = some n := by
  by_cases hq : q = []
  · rw [hq, node?_nil] at hn
    rw [hq, node?_nil, hn]
  · rw [node?_without t p q hq] at hn
    split at hn
    · cases hn
    · exact hn

/-! ## 2. Landing -/

/-- Follows names from a place; only links are looked at, and `onLink` takes over at each that is
followed. -/
def landNames (t : FileTree) (follow : Bool) (onLink : Place → List String → Option Place)
    (here : Place) : List String → Option Place
  | [] => some here
  | n :: rest =>
    if n = "." then t.landNames follow onLink here rest
    else if n = ".." then t.landNames follow onLink here.dropLast rest
    else
      match t.node? (here ++ [n]) with
      | some (.link target _) =>
        if rest.isEmpty && !follow then some (here ++ [n])
        else onLink (if target.startsWith "/" then [] else here) (rawNames target ++ rest)
      | _ => t.landNames follow onLink (here ++ [n]) rest

/-- The place at which names end, through `links` links at most. -/
def land (t : FileTree) (follow : Bool) : (links : Nat) → Place → List String → Option Place
  | 0 => t.landNames follow fun _ _ => none
  | links + 1 => t.landNames follow (t.land follow links)

end FileTree

/-- The place of a spot. -/
def Spot.place : Spot → Place
  | .at p _ => p
  | .vacant d n => d ++ [n]

/-- The node of a spot. -/
def Spot.node? : Spot → Option Node
  | .at _ n => some n
  | .vacant _ _ => none

namespace FileTree

theorem landNames_of_walkNames {t : FileTree} {follow : Bool}
    {onWalk : Place → List String → Except Trouble Spot} {onLand : Place → List String → Option Place}
    (hlink : ∀ here names s, onWalk here names = .ok s →
      onLand here names = some s.place ∧ t.node? s.place = s.node?) :
    ∀ (names : List String) (here : Place) (s : Spot), t.walkNames follow onWalk here names = .ok s →
      t.landNames follow onLand here names = some s.place ∧ t.node? s.place = s.node?
  | [], here, s, h => by
    rw [walkNames] at h
    split at h
    · rename_i n hn
      cases h
      exact ⟨rfl, hn⟩
    · cases h
  | n :: rest, here, s, h => by
    rw [walkNames] at h
    rw [landNames]
    by_cases hdot : n = "."
    · rw [if_pos hdot] at h ⊢
      exact landNames_of_walkNames hlink rest here s h
    rw [if_neg hdot] at h ⊢
    by_cases hup : n = ".."
    · rw [if_pos hup] at h ⊢
      exact landNames_of_walkNames hlink rest here.dropLast s h
    rw [if_neg hup] at h ⊢
    by_cases hlong : longestName < pathSize n
    · rw [if_pos hlong] at h
      cases h
    rw [if_neg hlong] at h
    simp only at h
    cases hnode : t.node? (here ++ [n]) with
    | none =>
      rw [hnode] at h
      cases rest with
      | nil =>
        cases h
        exact ⟨rfl, hnode⟩
      | cons m rest => cases h
    | some node =>
      rw [hnode] at h
      cases node with
      | dir m => exact landNames_of_walkNames hlink rest (here ++ [n]) s h
      | shut m | file b m =>
        cases rest with
        | nil =>
          cases h
          exact ⟨rfl, hnode⟩
        | cons m rest => cases h
      | link target m =>
        simp only at h ⊢
        by_cases hend : (rest.isEmpty && !follow) = true
        · rw [if_pos hend] at h ⊢
          cases h
          exact ⟨rfl, hnode⟩
        · rw [if_neg hend] at h ⊢
          exact hlink _ _ s h

/-- **A walk ends where its names land**, and finds what is there. -/
theorem land_of_walk {t : FileTree} {follow : Bool} :
    ∀ {links : Nat} {here : Place} {names : List String} {s : Spot},
      t.walk follow links here names = .ok s →
        t.land follow links here names = some s.place ∧ t.node? s.place = s.node?
  | 0, here, names, s, h => landNames_of_walkNames (fun _ _ _ hs => by cases hs) names here s h
  | links + 1, here, names, s, h =>
    landNames_of_walkNames (fun _ _ _ hs => land_of_walk hs) names here s h

/-! ## 3. The same links -/

/-- Two trees with the same links. -/
def SameLinks (t t' : FileTree) : Prop :=
  ∀ p target m, t'.node? p = some (.link target m) ↔ t.node? p = some (.link target m)

theorem SameLinks.refl (t : FileTree) : SameLinks t t := fun _ _ _ => Iff.rfl

theorem SameLinks.trans {t₁ t₂ t₃ : FileTree} (h : SameLinks t₁ t₂) (h' : SameLinks t₂ t₃) :
    SameLinks t₁ t₃ := fun p target m => (h' p target m).trans (h p target m)

theorem SameLinks.landNames_eq {t t' : FileTree} (h : SameLinks t t') (follow : Bool)
    (onLink : Place → List String → Option Place) :
    ∀ (names : List String) (here : Place),
      t'.landNames follow onLink here names = t.landNames follow onLink here names
  | [], _ => rfl
  | n :: rest, here => by
    rw [landNames, landNames, h.landNames_eq follow onLink rest here,
      h.landNames_eq follow onLink rest here.dropLast,
      h.landNames_eq follow onLink rest (here ++ [n])]
    have hp := h (here ++ [n])
    split
    · rfl
    · split
      · rfl
      · split
        · rename_i target m hlink
          rw [(hp target m).mp hlink]
        · rename_i hno
          split
          · rename_i target m hlink
            exact absurd ((hp target m).mpr hlink) (hno target m)
          · rfl

/-- **Where a path lands depends on the links alone.** -/
theorem SameLinks.land_eq {t t' : FileTree} (h : SameLinks t t') (follow : Bool) :
    ∀ links : Nat, t'.land follow links = t.land follow links
  | 0 => by
    funext here names
    exact h.landNames_eq follow _ names here
  | links + 1 => by
    funext here names
    rw [land, land, h.land_eq follow links]
    exact h.landNames_eq follow _ names here

/-! ## 4. Below a path -/

/-- No link stands below a place. -/
def NoLinkBelow (t : FileTree) (p : Place) : Prop :=
  ∀ q target m, p <+: q → t.node? q ≠ some (.link target m)

/-- Removing what holds no links keeps all links. -/
theorem SameLinks.without {t : FileTree} {p : Place} (h : t.NoLinkBelow p) :
    SameLinks t (t.without p) := by
  intro q target m
  refine ⟨node?_of_without, fun hl => ?_⟩
  by_cases hpq : p <+: q
  · exact absurd hl (h q target m hpq)
  · rw [node?_without_of_not hpq, hl]

/-- Names that are taken as they are. -/
def Plain (names : List String) : Prop := ∀ n ∈ names, n ≠ "." ∧ n ≠ ".."

theorem landNames_of_plain {t : FileTree} {p : Place} (h : t.NoLinkBelow p) (follow : Bool)
    (onLink : Place → List String → Option Place) :
    ∀ (rest : List String) (here : Place), Plain rest → p <+: here →
      t.landNames follow onLink here rest = some (here ++ rest)
  | [], here, _, _ => by rw [landNames, List.append_nil]
  | n :: rest, here, hplain, hp => by
    have hn := hplain n List.mem_cons_self
    have hbelow : p <+: here ++ [n] := hp.trans (List.prefix_append here [n])
    have hrest := landNames_of_plain h follow onLink rest (here ++ [n])
      (fun m hm => hplain m (List.mem_cons_of_mem n hm)) hbelow
    rw [landNames, if_neg hn.1, if_neg hn.2, hrest, List.append_assoc, List.singleton_append]
    split
    · rename_i target m hlink
      exact absurd hlink (h _ target m hbelow)
    · rfl

/-- What landing has to say about a path and one below it. -/
def LandsBelow (t : FileTree) (rest : List String) (onPath onBelow : Place → List String → Option Place) :
    Prop :=
  ∀ (names : List String) (here p : Place), (∀ d, onPath here names = some d → t.NoLinkBelow d) →
    onBelow here (names ++ rest) = some p → ∃ d, onPath here names = some d ∧ p = d ++ rest

theorem landNames_append {t : FileTree} {rest : List String} (hplain : Plain rest) (hne : rest ≠ [])
    (follow : Bool) {onPath onBelow : Place → List String → Option Place}
    (hlink : t.LandsBelow rest onPath onBelow) :
    t.LandsBelow rest (t.landNames true onPath) (t.landNames follow onBelow) := by
  intro names
  induction names with
  | nil =>
    intro here p hno hland
    rw [List.nil_append, landNames_of_plain (hno here rfl) follow onBelow rest here hplain
      (List.prefix_refl here)] at hland
    exact ⟨here, rfl, (Option.some.inj hland).symm⟩
  | cons n names ih =>
    intro here p hno hland
    rw [landNames] at hno ⊢
    rw [List.cons_append, landNames] at hland
    by_cases hdot : n = "."
    · rw [if_pos hdot] at hno hland ⊢
      exact ih here p hno hland
    rw [if_neg hdot] at hno hland ⊢
    by_cases hup : n = ".."
    · rw [if_pos hup] at hno hland ⊢
      exact ih here.dropLast p hno hland
    rw [if_neg hup] at hno hland ⊢
    cases hnode : t.node? (here ++ [n]) with
    | none =>
      rw [hnode] at hno hland
      exact ih (here ++ [n]) p hno hland
    | some node =>
      rw [hnode] at hno hland
      cases node with
      | dir m | shut m | file b m => exact ih (here ++ [n]) p hno hland
      | link target m =>
        -- More names follow, so the link is followed in both cases.
        have hmore : (names ++ rest).isEmpty = false := by simp [hne]
        simp only [Bool.not_true, Bool.and_false, Bool.false_eq_true, if_false, hmore,
          Bool.false_and] at hno hland ⊢
        rw [← List.append_assoc] at hland
        exact hlink _ _ p hno hland

/-- **A path below another lands below it**, if no link stands there. -/
theorem land_append {t : FileTree} {rest : List String} (hplain : Plain rest) (hne : rest ≠ [])
    (follow : Bool) : ∀ links : Nat, t.LandsBelow rest (t.land true links) (t.land follow links)
  | 0 => landNames_append hplain hne follow fun _ _ _ _ h => by cases h
  | links + 1 => landNames_append hplain hne follow (land_append hplain hne follow links)

/-- What landing has to say about a path and one that is a name longer, whose last link is not followed. -/
def LandsAt (t : FileTree) (n : String) (onPath onChild : Place → List String → Option Place) : Prop :=
  ∀ (names : List String) (here p : Place), (∀ target m, t.node? p ≠ some (.link target m)) →
    onChild here (names ++ [n]) = some p → ∃ d, onPath here names = some d ∧ p = d ++ [n]

theorem landNames_concat {t : FileTree} {n : String} (hplain : Plain [n])
    {onPath onChild : Place → List String → Option Place} (hlink : t.LandsAt n onPath onChild) :
    t.LandsAt n (t.landNames true onPath) (t.landNames false onChild) := by
  obtain ⟨hdot, hup⟩ := hplain n List.mem_cons_self
  intro names
  induction names with
  | nil =>
    intro here p hp hland
    rw [List.nil_append, landNames, if_neg hdot, if_neg hup] at hland
    refine ⟨here, rfl, ?_⟩
    split at hland
    · rename_i target m hnode
      cases hland
      exact absurd hnode (hp target m)
    · exact (Option.some.inj hland).symm
  | cons a names ih =>
    intro here p hp hland
    rw [landNames]
    rw [List.cons_append, landNames] at hland
    by_cases hadot : a = "."
    · rw [if_pos hadot] at hland ⊢
      exact ih here p hp hland
    rw [if_neg hadot] at hland ⊢
    by_cases haup : a = ".."
    · rw [if_pos haup] at hland ⊢
      exact ih here.dropLast p hp hland
    rw [if_neg haup] at hland ⊢
    split at hland
    · -- More names follow, so the link is followed in both cases.
      rw [if_neg (by simp), ← List.append_assoc] at hland
      simp only [Bool.not_true, Bool.and_false, Bool.false_eq_true, if_false]
      exact hlink _ _ p hp hland
    · exact ih (here ++ [a]) p hp hland

/-- **A path one name longer lands one name further**, unless a link stands there that is followed. -/
theorem land_concat {t : FileTree} {n : String} (hplain : Plain [n]) :
    ∀ links : Nat, t.LandsAt n (t.land true links) (t.land false links)
  | 0 => landNames_concat hplain fun _ _ _ _ h => by cases h
  | links + 1 => landNames_concat hplain (land_concat hplain links)

/-- Whether a last link is followed is all the same where none stands. -/
def LandsAlike (t : FileTree) (onTrue onFalse : Place → List String → Option Place) : Prop :=
  ∀ (names : List String) (here p : Place), (∀ target m, t.node? p ≠ some (.link target m)) →
    onFalse here names = some p → onTrue here names = some p

theorem landNames_alike {t : FileTree} {onTrue onFalse : Place → List String → Option Place}
    (hlink : t.LandsAlike onTrue onFalse) : t.LandsAlike (t.landNames true onTrue) (t.landNames false onFalse) := by
  intro names
  induction names with
  | nil => exact fun _ _ _ hland => hland
  | cons a names ih =>
    intro here p hp hland
    rw [landNames] at hland ⊢
    by_cases hadot : a = "."
    · rw [if_pos hadot] at hland ⊢
      exact ih here p hp hland
    rw [if_neg hadot] at hland ⊢
    by_cases haup : a = ".."
    · rw [if_pos haup] at hland ⊢
      exact ih here.dropLast p hp hland
    rw [if_neg haup] at hland ⊢
    split at hland
    · rename_i target m hnode
      simp only [Bool.not_true, Bool.and_false, Bool.false_eq_true, if_false]
      split at hland
      · cases hland
        exact absurd hnode (hp target m)
      · exact hlink _ _ p hp hland
    · exact ih (here ++ [a]) p hp hland

theorem land_alike {t : FileTree} : ∀ links : Nat, t.LandsAlike (t.land true links) (t.land false links)
  | 0 => landNames_alike fun _ _ _ _ h => by cases h
  | links + 1 => landNames_alike (land_alike links)

end FileTree

/-! ## 5. Paths on a host -/

/-- The names of a proper path as the file system takes them; a path without names stays where it is. -/
theorem rawNames_text {p : Path} (h : p.Proper) :
    rawNames p.text = if p.names = [] then ["."] else p.names := by
  obtain ⟨k, ns⟩ := p
  have hk : k ≤ 2 := h.slashes_le
  by_cases hns : ns = []
  · subst hns
    have hcases : k = 0 ∨ k = 1 ∨ k = 2 := by omega
    rcases hcases with rfl | rfl | rfl <;> decide
  · have htext := Path.toList_text (p := ⟨k, ns⟩) fun hbare => hns hbare.2
    have hnames : ∀ n ∈ ns, Path.IsName n := h.isName
    have hsplit : Text.splitOn '/' (Path.text ⟨k, ns⟩).toList =
        List.replicate k [] ++ ns.map String.toList := by
      rw [htext, Text.splitOn_replicate_append, Path.splitOn_names hnames hns]
    have hne : ∀ cs ∈ ns.map String.toList, cs ≠ [] := by
      intro cs hcs
      obtain ⟨n, hn, rfl⟩ := List.mem_map.mp hcs
      exact fun e => (hnames n hn).ne_empty (String.toList_eq_nil_iff.mp e)
    have hfilter : (List.replicate k [] ++ ns.map String.toList).filter (· ≠ []) =
        ns.map String.toList := by
      have hself : (ns.map String.toList).filter (· ≠ []) = ns.map String.toList :=
        List.filter_eq_self.mpr fun cs hcs => by simpa using hne cs hcs
      rw [List.filter_append, hself]
      simp
    have hlast : (List.replicate k [] ++ ns.map String.toList).getLast? ≠ some [] := by
      rw [List.getLast?_append_of_ne_nil _ (by simpa using hns)]
      intro e
      exact hne [] (List.mem_of_getLast? e) rfl
    rw [if_neg hns, rawNames, hsplit]
    simp only [hfilter, hlast]
    simp

theorem startsWith_slash_text {p : Path} (h : p.Proper) :
    p.text.startsWith "/" = p.isAbsolute := by
  obtain ⟨k, ns⟩ := p
  have hk : k ≤ 2 := h.slashes_le
  have hslash : "/".toList = ['/'] := rfl
  rw [Bool.eq_iff_iff, String.startsWith_string_iff, hslash]
  have hcases : k = 0 ∨ k = 1 ∨ k = 2 := by omega
  by_cases hbare : k = 0 ∧ ns = []
  · obtain ⟨rfl, rfl⟩ := hbare
    decide
  · rw [Path.toList_text hbare]
    rcases hcases with rfl | rfl | rfl
    · -- A name comes first, and it does not start with a slash.
      have hfirst := Path.takeWhile_slash_intercalate h.isName
      simp only [List.replicate_zero, List.nil_append, Path.isAbsolute]
      constructor
      · rintro ⟨rest, hrest⟩
        rw [← hrest] at hfirst
        simp at hfirst
      · simp
    · simp [Path.isAbsolute]
    · simp [Path.isAbsolute, List.replicate_succ]

namespace Host

/-- The place at which a path lands. -/
def land (h : Host) (follow : Bool) (path : Path) : Option Place :=
  h.tree.land follow mostLinks (if path.isAbsolute then [] else h.cwd) path.names

theorem walk_of_locate {h : Host} {follow : Bool} {path : String} {s : Spot}
    (hs : h.locate follow path = .ok s) :
    h.tree.walk follow mostLinks (if path.startsWith "/" then [] else h.cwd) (rawNames path) =
      .ok s := by
  unfold locate at hs
  simp only at hs
  generalize (if path.startsWith "/" then [] else h.cwd) = start at hs ⊢
  split at hs
  · cases hs
  split_ifs at hs
  cases hw : h.tree.walk follow mostLinks start (rawNames path) with
  | error e =>
    rw [hw] at hs
    cases hs
  | ok s' =>
    rw [hw] at hs
    cases hs
    rfl

theorem land_of_locate {h : Host} {follow : Bool} {path : Path} (hp : path.Proper) {s : Spot}
    (hs : h.locate follow path.text = .ok s) :
    h.land follow path = some s.place ∧ h.tree.node? s.place = s.node? := by
  have hw := walk_of_locate hs
  rw [startsWith_slash_text hp, rawNames_text hp] at hw
  obtain ⟨hland, hnode⟩ := FileTree.land_of_walk hw
  refine ⟨?_, hnode⟩
  rw [← hland, land]
  by_cases hns : path.names = []
  · rw [if_pos hns, hns]
    rfl
  · rw [if_neg hns]

/-- A path below another one lands below it, if no link stands there. -/
theorem land_below {h : Host} {follow : Bool} {path : Path} {rest : List String}
    (hplain : FileTree.Plain rest) (hne : rest ≠ [])
    (hno : ∀ d, h.land true path = some d → h.tree.NoLinkBelow d) {p : Place}
    (hp : h.land follow { path with names := path.names ++ rest } = some p) :
    ∃ d, h.land true path = some d ∧ p = d ++ rest :=
  FileTree.land_append hplain hne follow mostLinks path.names _ p hno hp

/-- A path one name longer leads one name further, to anything but a link. -/
theorem land_child {h : Host} {path : Path} {n : String} (hplain : FileTree.Plain [n]) {p : Place}
    (hp : h.land false (path.child n) = some p) (hno : ∀ target m, h.tree.node? p ≠ some (.link target m)) :
    ∃ d, h.land true path = some d ∧ p = d ++ [n] :=
  FileTree.land_concat hplain mostLinks path.names _ p hno hp

/-- What a path leads to, a last link not followed, it leads to anyhow if it is no link. -/
theorem land_true_of_false {h : Host} {path : Path} {p : Place} (hp : h.land false path = some p)
    (hno : ∀ target m, h.tree.node? p ≠ some (.link target m)) : h.land true path = some p :=
  FileTree.land_alike mostLinks path.names _ p hno hp

theorem land_eq {h h' : Host} (hcwd : h'.cwd = h.cwd) (hlinks : FileTree.SameLinks h.tree h'.tree)
    (follow : Bool) (path : Path) : h'.land follow path = h.land follow path := by
  rw [land, land, hcwd, hlinks.land_eq]

theorem locate_of_stat {h : Host} {path : String} {p : Place} {n : Node}
    (hs : h.stat path = .ok (p, n)) : h.locate true path = .ok (.at p n) := by
  unfold stat at hs
  split at hs
  · cases hs
  · rename_i hl
    cases hs
    exact hl
  · cases hs

/-- The place at which a path lands as it is written, with links followed. -/
def landing (h : Host) (path : String) : Option Place :=
  h.tree.land true mostLinks (if path.startsWith "/" then [] else h.cwd) (rawNames path)

/-- What a path leads to is where it lands. -/
theorem landing_of_stat {h : Host} {path : String} {p : Place} {n : Node}
    (hs : h.stat path = .ok (p, n)) : h.landing path = some p ∧ h.tree.node? p = some n :=
  FileTree.land_of_walk (walk_of_locate (locate_of_stat hs))

/-- **A path lands at one place**, as long as the links stay as they are. -/
theorem landing_eq {h h' : Host} (hcwd : h'.cwd = h.cwd) (hlinks : FileTree.SameLinks h.tree h'.tree)
    (path : String) : h'.landing path = h.landing path := by
  rw [landing, landing, hcwd, hlinks.land_eq]

end Host

end AgentLint
