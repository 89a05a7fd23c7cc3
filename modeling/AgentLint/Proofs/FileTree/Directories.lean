import AgentLint.Proofs.FileTree.Walking
import Mathlib.Algebra.Order.BigOperators.Group.List
import Mathlib.Algebra.Order.Ring.Nat
import Mathlib.Data.List.TakeWhile

/-!
# Directories on a host

What `FileTree.walk` finds, a path finds if its text fits (`locate_eq_ok_iff`).  `Opens` says that a path leads
to a directory.  What the directory holds is then found by the paths one name longer (`Opens.locate_child`), and
conversely a path that leads anywhere has a directory before its last name (`exists_opens_parent`).

`dirsMade_makeDirs` says all about making directories: which places are filled, that the path leads to a
directory if nothing fails, be it one that must not be entered (`Bars`), and that a grounded host stays grounded.
-/

namespace AgentLint

/-! ## 1. Texts that fit -/

/-- A text is refused for one of its characters. -/
theorem refusal?_eq_none_iff {s : String} :
    refusal? s = none ↔ ∀ c ∈ s.toList, isPathChar c = true ∧ c ≠ Char.ofNat 0 := by
  have hgap : Utf8.gap? isPathChar s = none ↔ ∀ c ∈ s.toList, isPathChar c = true := by
    unfold Utf8.gap?
    rw [← List.dropWhile_eq_nil_iff]
    dsimp only
    split <;> simp_all
  unfold refusal?
  cases hg : Utf8.gap? isPathChar s with
  | some g =>
    refine ⟨nofun, fun h => ?_⟩
    rw [hgap.mpr fun c hc => (h c hc).1] at hg
    cases hg
  | none =>
    rw [hgap] at hg
    simp only [List.contains_iff_mem, ite_eq_right_iff, reduceCtorEq, imp_false]
    exact ⟨fun hnull c hc => ⟨hg c hc, fun h => hnull (h ▸ hc)⟩, fun h hnull => (h _ hnull).2 rfl⟩

/-- A text with characters of others is not refused if these are not. -/
theorem refusal?_of_subset {s t : String} (hs : refusal? s = none) (h : t.toList ⊆ s.toList) : refusal? t = none :=
  refusal?_eq_none_iff.mpr fun c hc => refusal?_eq_none_iff.mp hs c (h hc)

theorem refusal?_append {s t : String} (hs : refusal? s = none) (ht : refusal? t = none) :
    refusal? (s ++ t) = none := by
  rw [refusal?_eq_none_iff] at hs ht ⊢
  intro c hc
  rw [String.toList_append, List.mem_append] at hc
  exact hc.elim (hs c) (ht c)

/-- The file system has not been asked yet. -/
theorem fromSystem_of_refusal? {s : String} {e : FileFault} (h : refusal? s = some e) : e.fromSystem = false := by
  unfold refusal? at h
  split at h
  · cases h
    rfl
  · split at h <;> cases h
    rfl

@[simp] theorem pathSize_append (s t : String) : pathSize (s ++ t) = pathSize s + pathSize t := by
  rw [pathSize, String.toList_append, List.map_append]
  exact List.sum_append_nat

/-- Leaving characters out makes a text shorter. -/
theorem pathSize_le_of_sublist {s t : String} (h : s.toList.Sublist t.toList) : pathSize s ≤ pathSize t :=
  (h.map _).sum_le_sum fun _ _ => Nat.zero_le _

/-- A text that the file system looks up. -/
structure Fits (text : String) : Prop where
  sayable : refusal? text = none
  ne_empty : text ≠ ""
  short : pathSize text ≤ longestPath

/-- What is not longer and is not refused fits as well. -/
theorem Fits.of_le {s t : String} (h : Fits s) (hsay : refusal? t = none) (hne : t ≠ "")
    (hle : pathSize t ≤ pathSize s) : Fits t := ⟨hsay, hne, Nat.le_trans hle h.short⟩

namespace Path

/-- What stands before the last name of a path one name longer. -/
def front (p : Path) : String :=
  if p.names.isEmpty then String.ofList (List.replicate p.slashes '/') else p.text ++ "/"

theorem text_child (p : Path) (n : String) : (p.child n).text = p.front ++ n := by
  obtain ⟨k, ns⟩ := p
  unfold front
  cases ns with
  | nil => simp [text, child, String.intercalate_singleton]
  | cons m ns =>
    have hcat : "/".intercalate (m :: ns ++ [n]) = "/".intercalate (m :: ns) ++ "/" ++ n := by
      rw [String.intercalate_append_of_ne_nil (List.cons_ne_nil m ns) (List.cons_ne_nil n []),
        String.intercalate_singleton]
    simp only [child, text, hcat]
    simp [String.append_assoc]

theorem text_ne_empty {p : Path} (hp : p.Proper) : p.text ≠ "" := by
  intro h
  have hread := ofString_text hp
  rw [h] at hread
  rw [← hread] at h
  exact absurd h (by decide)

/-- If a path fits, so does what it leads through. -/
theorem fits_of_child {p : Path} (hp : p.Proper) {n : String} (h : Fits (p.child n).text) :
    Fits p.text := by
  rw [text_child] at h
  unfold front at h
  obtain ⟨k, ns⟩ := p
  cases ns with
  | nil =>
    have hk : k ≤ 2 := hp.slashes_le
    have hcases : k = 0 ∨ k = 1 ∨ k = 2 := by omega
    rcases hcases with rfl | rfl | rfl <;> exact ⟨by decide, by decide, by decide⟩
  | cons m ns =>
    rw [if_neg (by simp)] at h
    refine h.of_le (refusal?_of_subset h.sayable fun c hc => ?_) (text_ne_empty hp) ?_
    · rw [String.toList_append, String.toList_append]
      exact List.mem_append_left _ (List.mem_append_left _ hc)
    · rw [pathSize_append, pathSize_append]
      omega

/-- A sibling with a name that is not longer fits as well. -/
theorem fits_sibling {p : Path} {n n' : String} (h : Fits (p.child n).text)
    (hsay : refusal? n' = none) (hne : n' ≠ "") (hle : pathSize n' ≤ pathSize n) :
    Fits (p.child n').text := by
  rw [text_child] at h ⊢
  refine h.of_le (refusal?_append (refusal?_of_subset h.sayable fun c hc => ?_) hsay) ?_ ?_
  · rw [String.toList_append]
    exact List.mem_append_left _ hc
  · intro he
    rw [String.append_eq_empty_iff] at he
    exact hne he.2
  · rw [pathSize_append, pathSize_append]
    omega

theorem front_child (p : Path) (n : String) : (p.child n).front = p.front ++ n ++ "/" := by
  rw [front, if_neg (by simp [child]), text_child]

/-- A path fits if what stands before its last name and that name are not too long together. -/
theorem fits_child {p : Path} {n : String} (hfront : refusal? p.front = none) (hsay : refusal? n = none)
    (hne : n ≠ "") (hle : pathSize p.front + pathSize n ≤ longestPath) : Fits (p.child n).text := by
  rw [text_child]
  refine ⟨refusal?_append hfront hsay, fun he => ?_, by rwa [pathSize_append]⟩
  rw [String.append_eq_empty_iff] at he
  exact hne he.2

/-- A path beside the directory above fits as well, if its name is not longer than the two names are. -/
theorem fits_uncle {p : Path} {a b n' : String} (h : Fits ((p.child a).child b).text)
    (hsay : refusal? n' = none) (hne : n' ≠ "")
    (hle : pathSize n' ≤ pathSize a + pathSize b + 1) : Fits (p.child n').text := by
  rw [text_child, front_child] at h
  rw [text_child]
  refine h.of_le (refusal?_append (refusal?_of_subset h.sayable fun c hc => ?_) hsay) ?_ ?_
  · simp only [String.toList_append, List.append_assoc]
    exact List.mem_append_left _ hc
  · intro he
    rw [String.append_eq_empty_iff] at he
    exact hne he.2
  · have hslash : pathSize "/" = 1 := by decide
    simp only [pathSize_append, hslash]
    omega

end Path

namespace Host

variable {h h' : Host} {path : Path} {follow : Bool}

/-! ## 2. Looking up -/

/-- Where the walk of a path starts. -/
def base (h : Host) (path : Path) : Place := if path.isAbsolute then [] else h.cwd

/-- What is looked up fits. -/
theorem fits_of_locate {text : String} {s : Spot} (hs : h.locate follow text = .ok s) : Fits text := by
  unfold locate at hs
  split at hs
  · cases hs
  · rename_i hsay
    simp only at hs
    split at hs
    · cases hs
    · rename_i hempty
      split at hs
      · cases hs
      · rename_i hlong
        exact ⟨hsay, by simpa using hempty, Nat.not_lt.mp hlong⟩

/-- **A path is looked up by walking its names**, if its text fits. -/
theorem locate_eq_ok_iff (hp : path.Proper) {s : Spot} :
    h.locate follow path.text = .ok s ↔
      Fits path.text ∧ h.tree.walk follow mostLinks (h.base path) path.names = .ok s := by
  have hnames : h.tree.walk follow mostLinks (h.base path) (rawNames path.text) =
      h.tree.walk follow mostLinks (h.base path) path.names := by
    rw [rawNames_text hp]
    split
    · rename_i hnil
      rw [hnil]
      have hdot : FileTree.Step h.tree follow ⟨mostLinks, h.base path, ["."]⟩ ⟨mostLinks, h.base path, []⟩ :=
        .dot
      exact hdot.run_eq
    · rfl
  constructor
  · intro hs
    have hw := walk_of_locate hs
    rw [startsWith_slash_text hp] at hw
    exact ⟨fits_of_locate hs, hnames ▸ hw⟩
  · rintro ⟨hfits, hw⟩
    unfold locate
    simp only [hfits.sayable]
    rw [if_neg (by simpa using hfits.ne_empty), if_neg (Nat.not_lt.mpr hfits.short), startsWith_slash_text hp]
    have hbase : (if path.isAbsolute = true then [] else h.cwd) = h.base path := rfl
    rw [hbase, hnames, hw]
    rfl

/-- A path leads to a directory at a place. -/
def Opens (h : Host) (path : Path) (dir : Place) : Prop :=
  ∃ m, h.locate true path.text = .ok (.at dir (.dir m))

theorem Opens.walk (hp : path.Proper) {dir : Place} (ho : h.Opens path dir) :
    ∃ m, h.tree.walk true mostLinks (h.base path) path.names = .ok (.at dir (.dir m)) := by
  obtain ⟨m, hm⟩ := ho
  exact ⟨m, ((locate_eq_ok_iff hp).mp hm).2⟩

theorem Opens.fits (hp : path.Proper) {dir : Place} (ho : h.Opens path dir) : Fits path.text := by
  obtain ⟨m, hm⟩ := ho
  exact ((locate_eq_ok_iff hp).mp hm).1

/-- It leads to where it lands. -/
theorem Opens.land_eq (hp : path.Proper) {dir : Place} (ho : h.Opens path dir) :
    h.land true path = some dir ∧ h.tree.IsDir dir := by
  obtain ⟨m, hm⟩ := ho
  obtain ⟨hland, hnode⟩ := land_of_locate hp hm
  exact ⟨hland, m, hnode⟩

/-- A directory is found again as long as directories and links stay. -/
theorem Opens.retained (hp : path.Proper) {dir : Place} (ho : h.Opens path dir) (hcwd : h'.cwd = h.cwd)
    (hr : FileTree.Retains h.tree h'.tree) : h'.Opens path dir := by
  obtain ⟨m, hm⟩ := ho.walk hp
  have hbase : h'.base path = h.base path := by rw [base, base, hcwd]
  exact ⟨m, (locate_eq_ok_iff hp).mpr ⟨ho.fits hp, hbase ▸ hr.walk_dir hm⟩⟩

/-- **What a directory holds is found through it**, links aside. -/
theorem Opens.locate_child (hp : path.Proper) {dir : Place} (ho : h.Opens path dir) {n : String}
    (hname : Path.IsName n) (hn : FileTree.Passable n) (hfits : Fits (path.child n).text)
    (hlink : ∀ target m, h.tree.node? (dir ++ [n]) ≠ some (.link target m)) (follow : Bool) :
    h.locate follow (path.child n).text = .ok (h.tree.spotIn dir n) := by
  obtain ⟨m, hm⟩ := ho.walk hp
  exact (locate_eq_ok_iff (hp.child hname)).mpr ⟨hfits, FileTree.walk_child hm hn hlink⟩

/-- Everything stands in a directory, and the current directory is one. -/
structure Grounded (h : Host) : Prop where
  tree : h.tree.Grounded
  cwd : h.tree.IsDir h.cwd

theorem Grounded.isDir_base (hg : h.Grounded) (path : Path) : h.tree.IsDir (h.base path) := by
  unfold base
  split
  · exact h.tree.isDir_nil
  · exact hg.cwd

/-- **What a path leads through is a directory.** -/
theorem exists_opens_parent (hg : h.Grounded) (hp : path.Proper) {n : String} (hname : Path.IsName n)
    {s : Spot} (hs : h.locate follow (path.child n).text = .ok s) : ∃ dir, h.Opens path dir := by
  obtain ⟨hfits, hw⟩ := (locate_eq_ok_iff (hp.child hname)).mp hs
  obtain ⟨dir, m, hm⟩ := hg.tree.exists_of_walk_append (hg.isDir_base path) hw
  exact ⟨dir, m, (locate_eq_ok_iff hp).mpr ⟨Path.fits_of_child hp hfits, hm⟩⟩

/-- A path to a directory leads there or to a link, if a last link is not followed. -/
theorem Opens.locate_false (hp : path.Proper) {dir : Place} (ho : h.Opens path dir) :
    (∃ m, h.locate false path.text = .ok (.at dir (.dir m))) ∨
      ∃ p target m, h.locate false path.text = .ok (.at p (.link target m)) := by
  obtain ⟨m, hm⟩ := ho.walk hp
  have hfits := ho.fits hp
  rcases FileTree.walk_false_of_true hm with hw | ⟨p, target, m', hw⟩
  · exact .inl ⟨m, (locate_eq_ok_iff hp).mpr ⟨hfits, hw⟩⟩
  · exact .inr ⟨p, target, m', (locate_eq_ok_iff hp).mpr ⟨hfits, hw⟩⟩

/-- A path leads to a directory that must not be entered. -/
def Bars (h : Host) (path : Path) : Prop := ∃ p m, h.locate true path.text = .ok (.at p (.shut m))

/-- **Nothing is found through such a directory.** -/
theorem Bars.locate_child (hp : path.Proper) (hg : h.Grounded) (hb : h.Bars path) {n : String}
    (hname : Path.IsName n) (s : Spot) : h.locate follow (path.child n).text ≠ .ok s := by
  intro hs
  obtain ⟨p, m, hm⟩ := hb
  obtain ⟨-, hw⟩ := (locate_eq_ok_iff (hp.child hname)).mp hs
  obtain ⟨-, hw'⟩ := (locate_eq_ok_iff hp).mp hm
  cases hw.symm.trans (hg.tree.walk_beyond_shut (hg.isDir_base path) hw' n)

/-- A path cannot lead to both kinds of directories. -/
theorem Opens.not_bars {dir : Place} (ho : h.Opens path dir) : ¬ h.Bars path := by
  rintro ⟨p, m, hm⟩
  obtain ⟨m', hm'⟩ := ho
  cases hm.symm.trans hm'

theorem opens_of_isDir (hd : h.isDir path.text = .ok true) : (∃ dir, h.Opens path dir) ∨ h.Bars path := by
  unfold isDir probe at hd
  split at hd
  · rename_i p n hs
    cases n with
    | dir m => exact .inl ⟨p, m, locate_of_stat hs⟩
    | shut m => exact .inr ⟨p, m, locate_of_stat hs⟩
    | file b m | link target m => cases hd
  · cases hd
  · cases hd
  · cases hd

theorem Opens.isDir {dir : Place} (ho : h.Opens path dir) : h.isDir path.text = .ok true := by
  obtain ⟨m, hm⟩ := ho
  simp only [Host.isDir, probe, stat, hm, Node.isDirectory]

end Host

/-! ## 3. Making directories -/

/-- From one host to another, directories came at some places where nothing was. -/
structure Made (ways : Place → Prop) (h h' : Host) : Prop where
  only_tree : h' = { h with tree := h'.tree }
  node : ∀ q, h'.tree.node? q = h.tree.node? q ∨
    (ways q ∧ h.tree.node? q = none ∧ ∃ m, h'.tree.node? q = some (.dir m))

namespace Made

variable {ways ways' : Place → Prop} {h h' h'' : Host}

theorem refl (ways : Place → Prop) (h : Host) : Made ways h h := ⟨rfl, fun _ => .inl rfl⟩

theorem trans (h₁ : Made ways h h') (h₂ : Made ways h' h'') : Made ways h h'' := by
  refine ⟨by rw [h₂.only_tree, h₁.only_tree], fun q => ?_⟩
  rcases h₁.node q with he | ⟨hway, hnone, m, hm⟩
  · rw [← he]
    exact h₂.node q
  · rcases h₂.node q with he' | ⟨-, hnone', -⟩
    · exact .inr ⟨hway, hnone, m, he'.trans hm⟩
    · rw [hm] at hnone'
      cases hnone'

theorem mono (h₁ : Made ways h h') (hw : ∀ q, ways q → ways' q) : Made ways' h h' := by
  refine ⟨h₁.only_tree, fun q => ?_⟩
  rcases h₁.node q with he | ⟨hway, hrest⟩
  · exact .inl he
  · exact .inr ⟨hw q hway, hrest⟩

theorem cwd_eq (h₁ : Made ways h h') : h'.cwd = h.cwd := by rw [h₁.only_tree]

theorem sameLinks (h₁ : Made ways h h') : FileTree.SameLinks h.tree h'.tree := by
  intro q target m
  rcases h₁.node q with he | ⟨-, hnone, m', hm'⟩
  · rw [he]
  · rw [hnone, hm']
    simp

theorem retains (h₁ : Made ways h h') : FileTree.Retains h.tree h'.tree := by
  intro q n hn _
  rcases h₁.node q with he | ⟨-, hnone, -⟩
  · rw [he, hn]
  · rw [hnone] at hn
    cases hn

theorem land_eq (h₁ : Made ways h h') (follow : Bool) (path : Path) :
    h'.land follow path = h.land follow path :=
  Host.land_eq h₁.cwd_eq h₁.sameLinks follow path

end Made

/-- The places of a path and of what it leads through. -/
def OnWay (h : Host) (path : Path) (q : Place) : Prop :=
  ∃ k, h.land false { path with names := path.names.take k } = some q

/-- A path that leads by its own names leads through what they begin with. -/
theorem OnWay.isPrefix {h : Host} {path : Path} {q : Place} (hq : OnWay h path q)
    (hland : ∀ k ≤ path.names.length,
      h.land false { path with names := path.names.take k } = some (path.names.take k)) : q <+: path.names := by
  obtain ⟨k, hk⟩ := hq
  rw [List.take_eq_take_min, hland _ (Nat.min_le_right _ _)] at hk
  cases hk
  exact List.take_prefix _ _

theorem OnWay.parent {h : Host} {path : Path} {q : Place} (hq : OnWay h path.parent q) :
    OnWay h path q := by
  obtain ⟨k, hk⟩ := hq
  refine ⟨min k (path.names.length - 1), ?_⟩
  rw [← List.take_take, ← List.dropLast_eq_take]
  exact hk

theorem onWay_congr {ways : Place → Prop} {h h' : Host} (hm : Made ways h h') {path : Path} {q : Place} :
    OnWay h' path q ↔ OnWay h path q := by
  simp only [OnWay, hm.land_eq]

/-- What making directories comes to. -/
structure DirsMade (path : Path) (h : Host) (r : Except FileFault Unit) (h' : Host) : Prop where
  made : Made (OnWay h path) h h'
  grounded : h.Grounded → h'.Grounded
  opens : r = .ok () → (∃ dir, h'.Opens path dir) ∨ h'.Bars path

namespace FileOp

theorem exec_makeDir (path : Path) (h : Host) :
    (∃ e, exec (makeDir path) h = (.error e, h) ∧
      ∀ s, h.locate false path.text = .ok s → e = .trouble .occupied path.text) ∨
    ∃ dir n, h.locate false path.text = .ok (.vacant dir n) ∧
      exec (makeDir path) h = (.ok (), { h with tree := Assoc.put (dir ++ [n]) (.dir h.now) h.tree }) := by
  unfold makeDir
  rw [exec_bind, exec_ask]
  cases hs : h.locate false path.text with
  | error e => exact .inl ⟨e, rfl, nofun⟩
  | ok s =>
    cases s with
    | «at» p n => exact .inl ⟨_, rfl, fun _ _ => rfl⟩
    | vacant dir n => exact .inr ⟨dir, n, rfl, rfl⟩

theorem dirsMade_makeDir {path : Path} (hp : path.Proper) (h : Host) :
    DirsMade path h (exec (makeDir path) h).1 (exec (makeDir path) h).2 := by
  rcases exec_makeDir path h with ⟨e, he, -⟩ | ⟨dir, n, hs, he⟩
  · rw [he]
    exact ⟨Made.refl _ h, id, nofun⟩
  · rw [he]
    obtain ⟨hfits, hw⟩ := (Host.locate_eq_ok_iff hp).mp hs
    obtain ⟨hland, hnode⟩ := Host.land_of_locate hp hs
    have hput := FileTree.node?_put h.tree (p := dir ++ [n]) (by simp) (.dir h.now)
    refine ⟨⟨rfl, fun q => ?_⟩, fun hg => ?_, fun _ => ?_⟩
    · by_cases hq : dir ++ [n] = q
      · subst hq
        refine .inr ⟨⟨path.names.length, ?_⟩, hnode, h.now, ?_⟩
        · rw [List.take_length]
          exact hland
        · show FileTree.node? (Assoc.put (dir ++ [n]) _ h.tree) _ = _
          rw [hput, if_pos rfl]
      · left
        show FileTree.node? (Assoc.put (dir ++ [n]) _ h.tree) _ = _
        rw [hput, if_neg hq]
    · have hdir := hg.tree.isDir_of_vacant (hg.isDir_base path) hw
      refine ⟨hg.tree.put hdir fun _ => ⟨h.now, rfl⟩, ?_⟩
      obtain ⟨m, hm⟩ := hg.cwd
      by_cases hc : dir ++ [n] = h.cwd
      · rw [← hc] at hm
        cases hnode.symm.trans hm
      · refine ⟨m, ?_⟩
        show FileTree.node? (Assoc.put (dir ++ [n]) _ h.tree) h.cwd = _
        rw [hput, if_neg hc, hm]
    · exact .inl ⟨dir ++ [n], h.now, (Host.locate_eq_ok_iff hp).mpr ⟨hfits, FileTree.walk_put_dir hw h.now⟩⟩

theorem exec_orPresent (path : Path) (e : FileFault) (h : Host) :
    ∃ r, exec (orPresent path e) h = (r, h) ∧ (r = .ok () → (∃ dir, h.Opens path dir) ∨ h.Bars path) ∧
      (e.fromSystem = true → h.isDir path.text = .ok true → r = .ok ()) := by
  unfold orPresent
  rw [exec_bind, exec_ask]
  cases hd : h.isDir path.text with
  | error e' => exact ⟨.error e', rfl, nofun, nofun⟩
  | ok there =>
    cases there with
    | false =>
      refine ⟨.error e, ?_, nofun, nofun⟩
      simp only [Bool.and_false, Bool.false_eq_true, if_false]
      rfl
    | true =>
      cases hsys : e.fromSystem with
      | false => exact ⟨.error e, rfl, nofun, nofun⟩
      | true => exact ⟨.ok (), rfl, fun _ => Host.opens_of_isDir hd, fun _ _ => rfl⟩

theorem DirsMade.orPresent {path : Path} {h h₁ : Host} (hm : Made (OnWay h path) h h₁)
    (hg : h.Grounded → h₁.Grounded) (e : FileFault) :
    DirsMade path h (exec (FileOp.orPresent path e) h₁).1 (exec (FileOp.orPresent path e) h₁).2 := by
  obtain ⟨r, hr, hopens, -⟩ := exec_orPresent path e h₁
  rw [hr]
  exact ⟨hm, hg, hopens⟩

/-- **Making a directory with those above it**, by induction on how many there may be. -/
theorem dirsMade_makeDirsAux : ∀ (fuel : Nat) {path : Path}, path.Proper → ∀ h : Host,
    DirsMade path h (exec (makeDirsAux fuel path) h).1 (exec (makeDirsAux fuel path) h).2
  | 0, path, _, h => ⟨Made.refl _ h, id, nofun⟩
  | fuel + 1, path, hp, h => by
    unfold makeDirsAux
    rw [exec_bind, exec_attempt]
    have hfirst := dirsMade_makeDir hp h
    generalize exec (makeDir path) h = first at hfirst
    obtain ⟨r, h₁⟩ := first
    simp only
    split
    · exact ⟨hfirst.made, hfirst.grounded, fun _ => hfirst.opens rfl⟩
    · split
      · exact ⟨hfirst.made, hfirst.grounded, nofun⟩
      · -- The directory above is made first, and then this one.
        have habove := dirsMade_makeDirsAux fuel hp.parent h₁
        rw [exec_bind]
        generalize exec (makeDirsAux fuel path.parent) h₁ = above at habove
        obtain ⟨r₂, h₂⟩ := above
        have hmade₂ : Made (OnWay h path) h h₂ := hfirst.made.trans (habove.made.mono fun q hq =>
          (onWay_congr hfirst.made).mp hq.parent)
        have hground₂ : h.Grounded → h₂.Grounded := fun hg => habove.grounded (hfirst.grounded hg)
        cases r₂ with
        | error e => exact ⟨hmade₂, hground₂, nofun⟩
        | ok _ =>
          simp only
          rw [exec_bind, exec_attempt]
          have hlast := dirsMade_makeDir hp h₂
          generalize exec (makeDir path) h₂ = last at hlast
          obtain ⟨r₃, h₃⟩ := last
          have hmade₃ : Made (OnWay h path) h h₃ := hmade₂.trans (hlast.made.mono fun q hq =>
            (onWay_congr hmade₂).mp hq)
          have hground₃ : h.Grounded → h₃.Grounded := fun hg => hlast.grounded (hground₂ hg)
          simp only
          split
          · exact ⟨hmade₃, hground₃, fun _ => hlast.opens rfl⟩
          · exact ⟨hmade₃, hground₃, nofun⟩
          · exact DirsMade.orPresent hmade₃ hground₃ _
    · exact DirsMade.orPresent hfirst.made hfirst.grounded _

theorem dirsMade_makeDirs {path : Path} (hp : path.Proper) (h : Host) :
    DirsMade path h (exec (makeDirs path) h).1 (exec (makeDirs path) h).2 :=
  dirsMade_makeDirsAux _ hp h

/-- Nothing is made where a directory is. -/
theorem exec_makeDirs_of_opens {path : Path} (hp : path.Proper) {h : Host} {dir : Place}
    (ho : h.Opens path dir) : exec (makeDirs path) h = (.ok (), h) := by
  have hat : ∃ p n, h.locate false path.text = .ok (.at p n) := by
    rcases ho.locate_false hp with ⟨m, hm⟩ | ⟨p, target, m, hm⟩
    · exact ⟨_, _, hm⟩
    · exact ⟨_, _, hm⟩
  obtain ⟨p, n, hat⟩ := hat
  obtain ⟨r, hr, -, hok⟩ := exec_orPresent path (.trouble .occupied path.text) h
  rcases exec_makeDir path h with ⟨e, he, hocc⟩ | ⟨dir', n', hs, -⟩
  · have he' := hocc _ hat
    subst he'
    unfold makeDirs makeDirsAux
    rw [exec_bind, exec_attempt, he]
    simp only [hr, hok rfl ho.isDir]
  · rw [hat] at hs
    cases hs

end FileOp

end AgentLint
