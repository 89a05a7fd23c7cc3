import AgentLint.Proofs.Cache.Consistency
import AgentLint.Proofs.FileTree.Directories

/-!
# The directory of a cache

`Effect` bounds what the operations of a cache do.  Here is what they do exactly, as far as files go, in a
directory that nobody else writes to (`Shelf`): a value is written as a whole or not at all (`exec_writeJson`),
and it is written if the directory for it is there and its path fits; a file that is found is removed
(`exec_unlink_file`), and so are all of them (`exec_removeTree_below`, `exec_removeTree_location`).

Whatever happens, nothing changes outside the directory, save that directories on the way to it are made
(`Furnished`), and the directory stays what it is (`Tended`).
-/

namespace AgentLint

/-! ## 1. Operations on a path that is looked up -/

namespace FileOp

variable {h : Host} {path : String}

/-- Writing, by what the path leads to. -/
theorem exec_writeBytes_at {s : Spot} (hs : h.locate true path = .ok s)
    (hdir : ∀ n, s.node? = some n → n.isDirectory = false)
    (hlink : ∀ target m, s.node? ≠ some (.link target m)) (bytes : List UInt8) :
    exec (writeBytes path bytes) h =
      (.ok (), { h with tree := Assoc.put s.place (.file bytes h.now) h.tree }) := by
  unfold writeBytes
  rw [exec_bind, exec_ask, hs]
  cases s with
  | vacant dir n => rfl
  | «at» p n =>
    cases n with
    | file b m => rfl
    | dir m | shut m => cases hdir _ rfl
    | link target m => exact absurd rfl (hlink target m)

theorem exec_writeBytes_error {e : FileFault} (hs : h.locate true path = .error e) (bytes : List UInt8) :
    exec (writeBytes path bytes) h = (.error e, h) := by
  unfold writeBytes
  rw [exec_bind, exec_ask, hs]

/-- Moving one thing over another. -/
theorem exec_move_at {target : String} {p : Place} {n : Node} {s : Spot}
    (hp : h.locate false path = .ok (.at p n)) (hs : h.locate false target = .ok s)
    (hdir : ∀ n, s.node? = some n → n.isDirectory = false) (hne : p ≠ s.place) :
    exec (move path target) h =
      (.ok (), { h with tree := Assoc.put s.place n (h.tree.without p) }) := by
  unfold move
  simp only [exec_bind, exec_get, hp, hs, exec_pure]
  cases s with
  | vacant dir n' => rfl
  | «at» q n' =>
    have hpq : p ≠ q := hne
    simp only [hdir n' rfl, Bool.false_eq_true, if_false, hpq, ne_eq, not_false_eq_true, if_true]
    rfl

/-- Removing a file or a link that the path leads to. -/
theorem exec_unlink_at {p : Place} {n : Node} (hs : h.locate false path = .ok (.at p n))
    (hdir : n.isDirectory = false) :
    exec (unlink path) h = (.ok (), { h with tree := h.tree.without p }) := by
  unfold unlink
  rw [exec_bind, exec_get]
  simp only [hs, hdir, Bool.false_eq_true, if_false]
  rfl

theorem exec_unlink_vacant {dir : Place} {n : String} (hs : h.locate false path = .ok (.vacant dir n)) :
    exec (unlink path) h = (.ok (), h) := by
  unfold unlink
  rw [exec_bind, exec_get]
  simp only [hs]
  rfl

/-- Removing a tree: it is removed exactly if the path itself leads to a directory. -/
theorem exec_removeTree {path : Path} (hne : path.names ≠ []) (h : Host) :
    (∃ e, exec (removeTree path) h = (.error e, h) ∧
      ∀ p n, h.locate false path.text = .ok (.at p n) → n.isDirectory = false) ∨
    ∃ p n, h.locate false path.text = .ok (.at p n) ∧ n.isDirectory = true ∧
      exec (removeTree path) h = (.ok (), { h with tree := h.tree.without p }) := by
  unfold removeTree
  rw [exec_bind, exec_ask]
  cases hs : h.locate false path.text with
  | error e => exact .inl ⟨e, rfl, nofun⟩
  | ok s =>
    cases s with
    | vacant dir n => exact .inl ⟨_, rfl, nofun⟩
    | «at» p n =>
      cases n with
      | file b m => exact .inl ⟨_, rfl, fun _ _ he => by cases he; rfl⟩
      | link target m =>
        left
        simp only
        rw [exec_bind, exec_ask]
        cases h.stat path.text with
        | error e => exact ⟨e, rfl, fun _ _ he => by cases he; rfl⟩
        | ok q => exact ⟨_, rfl, fun _ _ he => by cases he; rfl⟩
      | dir m | shut m =>
        right
        refine ⟨p, _, rfl, rfl, ?_⟩
        have hnames : path.names.isEmpty = false := by simpa using hne
        simp only [hnames]
        rfl

end FileOp

/-- The same file, or none, is at a place of two hosts. -/
def SameFile (h h' : Host) (q : Place) : Prop :=
  ∀ bytes m, h'.tree.node? q = some (.file bytes m) ↔ h.tree.node? q = some (.file bytes m)

theorem SameFile.refl (h : Host) (q : Place) : SameFile h h q := fun _ _ => Iff.rfl

theorem SameFile.trans {h h' h'' : Host} {q : Place} (h₁ : SameFile h h' q) (h₂ : SameFile h' h'' q) :
    SameFile h h'' q := fun bytes m => (h₂ bytes m).trans (h₁ bytes m)

/-- No file appears at a place. -/
def NoNewFile (h h' : Host) (q : Place) : Prop :=
  ∀ bytes m, h'.tree.node? q = some (.file bytes m) → h.tree.node? q = some (.file bytes m)

theorem SameFile.noNewFile {h h' : Host} {q : Place} (hs : SameFile h h' q) : NoNewFile h h' q :=
  fun bytes m => (hs bytes m).mp

theorem noNewFile_of_none {h h' : Host} {q : Place} (hq : h'.tree.node? q = none) : NoNewFile h h' q := by
  intro bytes m hm
  rw [hq] at hm
  cases hm

theorem Made.sameFile {ways : Place → Prop} {h h' : Host} (hm : Made ways h h') (q : Place) :
    SameFile h h' q := by
  intro bytes m
  rcases hm.node q with he | ⟨-, hnone, m', hm'⟩
  · rw [he]
  · rw [hnone, hm']
    simp

/-! ## 2. Names of files -/

/-- A name that a file of the cache has. -/
structure FileName (n : String) : Prop where
  isName : Path.IsName n
  passable : FileTree.Passable n
  sayable : refusal? n = none

/-- A word that such a name starts with. -/
structure Word (w : String) : Prop where
  noSlash : '/' ∉ w.toList
  sayable : refusal? w = none
  size : pathSize w ≤ 64

theorem Word.fileName {w ending : String} (hw : Word w) (hslash : '/' ∉ ending.toList)
    (hsay : refusal? ending = none) (hlen : 2 < ending.toList.length)
    (hsize : pathSize ending ≤ 9) : FileName (w ++ ending) := by
  obtain ⟨hname, hup⟩ := Path.isName_append hw.noSlash hslash hlen
  refine ⟨hname, ⟨hname.ne_dot, hup, ?_⟩, refusal?_append hw.sayable hsay⟩
  have hw := hw.size
  rw [pathSize_append, longestName]
  omega

theorem Word.json {w : String} (hw : Word w) : FileName (w ++ ".json") :=
  hw.fileName (by decide) (by decide) (by decide) (by decide)

theorem Word.beside {w : String} (hw : Word w) : FileName (w ++ ".json" ++ ".tmp") := by
  rw [String.append_assoc]
  exact hw.fileName (by decide) (by decide) (by decide) (by decide)

theorem word_index : Word "index" := ⟨by decide, by decide, by decide⟩

/-- A text of ASCII characters has as many bytes as characters. -/
theorem pathSize_of_safe {s : String} (h : ∀ c ∈ s.toList, Json.IsSafe c) : pathSize s = s.toList.length := by
  have hone : ∀ c ∈ s.toList, (if Text.isEscapedByte c then 1 else c.utf8Size) = 1 := by
    intro c hc
    have hsize : c.utf8Size = 1 := Char.utf8Size_eq_one_iff.mpr (by
      rw [UInt32.le_iff_toNat_le]
      exact Nat.le_of_lt_succ (h c hc).1)
    rw [hsize, ite_self]
  rw [pathSize, List.map_congr_left hone, List.map_const']
  exact List.sum_replicate_nat.trans (Nat.mul_one _)

theorem Sha256.pathSize_hex (s : String) : pathSize (hex s) = 64 := by
  have hword : ∀ w : UInt32, (wordText w).length = 8 := fun w =>
    Text.length_hex (by omega) (by simpa using w.toNat_lt)
  rw [pathSize_of_safe (safeText_hex s), hex, String.toList_ofList]
  simp [hword]

theorem Sha256.word_hex (s : String) : Word (hex s) := by
  refine ⟨fun hc => ?_, refusal?_eq_none_iff.mpr fun c hc => ?_, Nat.le_of_eq (pathSize_hex s)⟩
  · have hhex := isHexDigit_of_mem_hex hc
    unfold Text.IsHexDigit at hhex
    exact absurd hhex (by decide)
  · have hall : "0123456789abcdef".toList.all (fun c => isPathChar c && c != Char.ofNat 0) = true := by decide
    simpa using List.all_eq_true.mp hall c (isHexDigit_of_mem_hex hc)

namespace Cache

variable {c : Cache} {d : Place} {h h' h'' : Host} {ds : Option Diagnostics}

theorem below_nil (c : Cache) : c.below [] = c.location := by
  simp [below]

theorem below_concat (c : Cache) (front : List String) (n : String) :
    c.below (front ++ [n]) = (c.below front).child n := by
  simp [below, Path.child]

/-- The names below the directory at which the directories of a cache are. -/
def IsFront (front : List String) : Prop := front = [] ∨ front = ["files"]

theorem isFront_nil : IsFront [] := .inl rfl

theorem isFront_files : IsFront ["files"] := .inr rfl

theorem IsFront.ordinary {front : List String} (hf : IsFront front) : Ordinary front := by
  intro n hn
  rcases hf with rfl | rfl
  · cases hn
  · rw [List.mem_singleton.mp hn]
    exact ⟨⟨by decide, by decide, by decide⟩, by decide⟩

theorem fileName_files : FileName "files" :=
  ⟨⟨by decide, by decide, by decide⟩, ⟨by decide, by decide, by decide⟩, by decide⟩

/-! ## 3. The directory -/

/-- Where the directory of a cache is or can be: its path leads there, not through it, and is no link, and the
current directory is elsewhere. -/
structure Seat (c : Cache) (d : Place) (h : Host) : Prop where
  place : c.place? h = some d
  unlinked : h.land false c.location = some d
  straight : ∀ q, OnWay h c.location q → d <+: q → q = d
  grounded : h.Grounded
  away : ¬ d <+: h.cwd

/-- A directory whose path leads there by its own names. -/
theorem Seat.of_land (hplace : c.place? h = some c.location.names)
    (hland : ∀ k ≤ c.location.names.length,
      h.land false { c.location with names := c.location.names.take k } = some (c.location.names.take k))
    (hgrounded : h.Grounded) (haway : ¬ c.location.names <+: h.cwd) : Seat c c.location.names h := by
  refine ⟨hplace, ?_, fun q hq hd => ?_, hgrounded, haway⟩
  · have hall := hland _ (Nat.le_refl _)
    rwa [List.take_length] at hall
  · exact (hq.isPrefix hland).eq_of_length_le hd.length_le

/-- A directory that only the cache writes to. -/
structure Shelf (c : Cache) (d : Place) (h : Host) : Prop extends Seat c d h where
  noLinks : h.tree.NoLinkBelow d
  dirs : ∀ names n, h.tree.node? (d ++ names) = some n → n.isDirectory = true → IsFront names

/-- Nothing is at a place or below it. -/
def Vacant (h : Host) (d : Place) : Prop := ∀ q, d <+: q → h.tree.node? q = none

/-- A directory that is not there is of this kind. -/
theorem Seat.shelf (hs : Seat c d h) (hv : Vacant h d) : Shelf c d h := by
  refine ⟨hs, fun q target m hq hl => ?_, fun names n hn _ => ?_⟩
  · rw [hv q hq] at hl
    cases hl
  · rw [hv _ (List.prefix_append d names)] at hn
    cases hn

namespace Shelf

variable (hs : Shelf c d h)

include hs

theorem ne_nil : d ≠ [] := fun he => hs.away (he ▸ List.nil_prefix)

/-- The path of the directory has names. -/
theorem names_ne_nil : c.location.names ≠ [] := by
  intro hnil
  have hplace : h.land true c.location = some d := hs.place
  unfold Host.land FileTree.land at hplace
  rw [hnil] at hplace
  have hd : (if c.location.isAbsolute then [] else h.cwd) = d := Option.some.inj hplace
  split at hd
  · exact hs.ne_nil hd.symm
  · exact hs.away (hd ▸ List.prefix_refl _)

theorem noLinks_holds : c.NoLinks h := by
  rintro q target m ⟨d', hd', hq⟩
  cases hs.place.symm.trans hd'
  exact hs.noLinks q target m hq

/-- A path below the directory lands below its place. -/
theorem eq_of_land {names : List String} (hn : Ordinary names) {follow : Bool} {p : Place}
    (hp : h.land follow (c.below names) = some p) : p = d ++ names := by
  by_cases hnil : names = []
  · rw [hnil, below_nil] at hp
    rw [hnil, List.append_nil]
    cases follow with
    | true => exact Option.some.inj (hp.symm.trans hs.place)
    | false => exact Option.some.inj (hp.symm.trans hs.unlinked)
  · obtain ⟨d', hd', rfl⟩ := place_of_land hs.noLinks_holds hn hnil hp
    cases hs.place.symm.trans hd'
    rfl

/-- The places on the way to a directory of the cache. -/
theorem onWay_below {front : List String} (hf : IsFront front) {q : Place}
    (hq : OnWay h (c.below front) q) : OnWay h c.location q ∨ q = d ++ front := by
  obtain ⟨k, hk⟩ := hq
  by_cases hle : k ≤ c.location.names.length
  · left
    refine ⟨k, ?_⟩
    rw [← hk]
    show h.land false _ = h.land false { c.location with names := (c.location.names ++ front).take k }
    rw [List.take_append_of_le_length hle]
  · right
    have hall : (c.location.names ++ front).take k = c.location.names ++ front := by
      refine List.take_of_length_le ?_
      rcases hf with rfl | rfl
      · simp only [List.append_nil]
        omega
      · simp only [List.length_append, List.length_singleton]
        omega
    have hwhole : h.land false (c.below front) = some q := by
      rw [← hk]
      show h.land false { c.location with names := c.location.names ++ front } =
        h.land false { c.location with names := (c.location.names ++ front).take k }
      rw [hall]
    exact hs.eq_of_land hf.ordinary hwhole

/-- A path to a directory of the cache leads to its place. -/
theorem opens_of_opens (hc : c.location.Proper) {front : List String} (hf : IsFront front) {p : Place}
    (ho : h.Opens (c.below front) p) : h.Opens (c.below front) (d ++ front) := by
  have hland := (ho.land_eq (proper_below hc hf.ordinary)).1
  rwa [hs.eq_of_land hf.ordinary hland] at ho

/-- **A file of the cache is found** if the directory is found that holds it. -/
theorem locate_file (hc : c.location.Proper) {front : List String} (hf : IsFront front)
    (ho : h.Opens (c.below front) (d ++ front)) {n : String} (hn : FileName n)
    (hfits : Fits (c.below (front ++ [n])).text) (follow : Bool) :
    h.locate follow (c.below (front ++ [n])).text = .ok (h.tree.spotIn (d ++ front) n) := by
  rw [below_concat] at hfits ⊢
  refine ho.locate_child (proper_below hc hf.ordinary) hn.isName hn.passable hfits (fun target m => ?_) follow
  rw [List.append_assoc]
  exact hs.noLinks _ target m (List.prefix_append d _)

theorem isDirectory_eq_false {names : List String} (hnot : ¬ IsFront names) {n : Node}
    (hn : h.tree.node? (d ++ names) = some n) : n.isDirectory = false := by
  cases hdir : n.isDirectory with
  | false => rfl
  | true => exact absurd (hs.dirs names n hn hdir) hnot

theorem not_isDir {names : List String} (hnot : ¬ IsFront names) : ¬ h.tree.IsDir (d ++ names) := by
  rintro ⟨m, hm⟩
  cases hs.isDirectory_eq_false hnot hm

end Shelf

/-! ## 4. What the cache does to the host -/

/-- Nothing but the directory of the cache changes, save that directories on the way to it may be made. -/
structure Furnished (c : Cache) (d : Place) (h h' : Host) : Prop where
  only_tree : h' = { h with tree := h'.tree }
  sameLinks : FileTree.SameLinks h.tree h'.tree
  outside : ∀ q, ¬ d <+: q → h'.tree.node? q = h.tree.node? q ∨
    (OnWay h c.location q ∧ h.tree.node? q = none ∧ h'.tree.IsDir q)

namespace Furnished

theorem refl (h : Host) : Furnished c d h h :=
  ⟨rfl, FileTree.SameLinks.refl _, fun _ _ => .inl rfl⟩

theorem cwd_eq (hf : Furnished c d h h') : h'.cwd = h.cwd := by rw [hf.only_tree]

theorem land_eq (hf : Furnished c d h h') (follow : Bool) (path : Path) :
    h'.land follow path = h.land follow path :=
  Host.land_eq hf.cwd_eq hf.sameLinks follow path

theorem onWay_iff (hf : Furnished c d h h') {path : Path} {q : Place} :
    OnWay h' path q ↔ OnWay h path q := by
  simp only [OnWay, hf.land_eq]

theorem trans (h₁ : Furnished c d h h') (h₂ : Furnished c d h' h'') : Furnished c d h h'' := by
  refine ⟨by rw [h₂.only_tree, h₁.only_tree], h₁.sameLinks.trans h₂.sameLinks, fun q hq => ?_⟩
  rcases h₁.outside q hq with he | ⟨hway, hnone, m, hm⟩
  · rcases h₂.outside q hq with he' | ⟨hway, hnone, hdir⟩
    · exact .inl (he'.trans he)
    · exact .inr ⟨h₁.onWay_iff.mp hway, he ▸ hnone, hdir⟩
  · rcases h₂.outside q hq with he' | ⟨-, hnone', -⟩
    · exact .inr ⟨hway, hnone, m, he'.trans hm⟩
    · rw [hm] at hnone'
      cases hnone'

end Furnished

/-- Nothing else changes, and the directory is still the cache's. -/
structure Tended (c : Cache) (d : Place) (h h' : Host) : Prop where
  furnished : Furnished c d h h'
  shelf : Shelf c d h'

theorem Tended.trans (h₁ : Tended c d h h') (h₂ : Tended c d h' h'') : Tended c d h h'' :=
  ⟨h₁.furnished.trans h₂.furnished, h₂.shelf⟩

theorem Shelf.tended_refl (hs : Shelf c d h) : Tended c d h h := ⟨Furnished.refl h, hs⟩

theorem Shelf.tended (hs : Shelf c d h) (hf : Furnished c d h h') (hg : h'.Grounded)
    (hdirs : ∀ names n, h'.tree.node? (d ++ names) = some n → n.isDirectory = true → IsFront names) :
    Tended c d h h' := by
  refine ⟨hf, ⟨⟨?_, ?_, fun q hq hd => ?_, hg, ?_⟩, fun q target m hq hl => ?_, hdirs⟩⟩
  · exact (hf.land_eq true c.location).trans hs.place
  · exact (hf.land_eq false c.location).trans hs.unlinked
  · exact hs.straight q (hf.onWay_iff.mp hq) hd
  · rw [hf.cwd_eq]
    exact hs.away
  · exact hs.noLinks q target m hq ((hf.sameLinks q target m).mp hl)

/-- **Making a directory of the cache.** -/
theorem Shelf.tended_makeDirs (hs : Shelf c d h) (hc : c.location.Proper) {front : List String}
    (hf : IsFront front) {r : Except FileFault Unit}
    (he : exec (FileOp.makeDirs (c.below front)) h = (r, h')) :
    Tended c d h h' ∧ FileTree.Retains h.tree h'.tree ∧ (∀ q, SameFile h h' q) ∧
      (r = .ok () → h'.Opens (c.below front) (d ++ front) ∨ h'.Bars (c.below front)) := by
  have hmade := FileOp.dirsMade_makeDirs (proper_below hc hf.ordinary) h
  rw [he] at hmade
  have htended : Tended c d h h' := by
    refine hs.tended ⟨hmade.made.only_tree, hmade.made.sameLinks, fun q hq => ?_⟩
      (hmade.grounded hs.grounded) fun names n hn hdir => ?_
    · rcases hmade.made.node q with hsame | ⟨hway, hnone, hdir⟩
      · exact .inl hsame
      · rcases hs.onWay_below hf hway with hway | rfl
        · exact .inr ⟨hway, hnone, hdir⟩
        · exact absurd (List.prefix_append d front) hq
    · rcases hmade.made.node (d ++ names) with hsame | ⟨hway, -⟩
      · exact hs.dirs names n (hsame ▸ hn) hdir
      · rcases hs.onWay_below hf hway with hway | heq
        · have hself := hs.straight _ hway (List.prefix_append d names)
          exact .inl (by simpa using hself)
        · rw [List.append_cancel_left heq]
          exact hf
  refine ⟨htended, hmade.made.retains, hmade.made.sameFile, fun hr => ?_⟩
  exact (hmade.opens hr).imp_left fun ⟨p, hp⟩ => htended.shelf.opens_of_opens hc hf hp

/-- A file put into a directory of the cache. -/
theorem Shelf.tended_put (hs : Shelf c d h) {front : List String} {n : String}
    (hdir : h.tree.IsDir (d ++ front)) (hnot : ¬ IsFront (front ++ [n])) (bytes : List UInt8) (m : Int) :
    Tended c d h { h with tree := Assoc.put (d ++ front ++ [n]) (.file bytes m) h.tree } ∧
      FileTree.Retains h.tree (Assoc.put (d ++ front ++ [n]) (.file bytes m) h.tree) := by
  have hput := FileTree.node?_put h.tree (p := d ++ front ++ [n]) (by simp) (.file bytes m)
  have hassoc : d ++ front ++ [n] = d ++ (front ++ [n]) := List.append_assoc ..
  have hno : ¬ h.tree.IsDir (d ++ front ++ [n]) := hassoc ▸ hs.not_isDir hnot
  have hbelow : d <+: d ++ front ++ [n] := hassoc ▸ List.prefix_append d _
  have hretains : FileTree.Retains h.tree (Assoc.put (d ++ front ++ [n]) (.file bytes m) h.tree) := by
    intro q node hq hfile
    rw [hput, if_neg, hq]
    rintro rfl
    cases node with
    | file b m' => exact hfile b m' rfl
    | dir m' | shut m' => cases hs.isDirectory_eq_false hnot (hassoc ▸ hq)
    | link target m' => exact hs.noLinks _ target m' hbelow hq
  refine ⟨hs.tended ⟨rfl, fun q target m' => ?_, fun q hq => ?_⟩ ⟨?_, ?_⟩ fun names node hn hd => ?_, hretains⟩
  · show FileTree.node? (Assoc.put _ _ h.tree) q = _ ↔ _
    rw [hput]
    split
    · rename_i heq
      subst heq
      exact ⟨nofun, fun hl => absurd hl (hs.noLinks _ target m' hbelow)⟩
    · rfl
  · left
    show FileTree.node? (Assoc.put _ _ h.tree) q = _
    rw [hput, if_neg]
    rintro rfl
    exact hq hbelow
  · exact hs.grounded.tree.put hdir fun hd => absurd hd hno
  · obtain ⟨m', hm'⟩ := hs.grounded.cwd
    exact ⟨m', hretains _ _ hm' nofun⟩
  · have hold : FileTree.node? (Assoc.put (d ++ front ++ [n]) (.file bytes m) h.tree) (d ++ names) =
        some node := hn
    rw [hput] at hold
    split at hold
    · cases hold
      cases hd
    · exact hs.dirs names node hold hd

/-- Something of the directory, or all of it, removed. -/
theorem Shelf.tended_without (hs : Shelf c d h) (names : List String) :
    Tended c d h { h with tree := h.tree.without (d ++ names) } := by
  have hno : h.tree.NoLinkBelow (d ++ names) := fun q target m hq =>
    hs.noLinks q target m ((List.prefix_append d names).trans hq)
  have haway : ¬ d ++ names <+: h.cwd := fun hp => hs.away ((List.prefix_append d names).trans hp)
  refine hs.tended ⟨rfl, FileTree.SameLinks.without hno, fun q hq => ?_⟩
    ⟨hs.grounded.tree.without _, ?_⟩ fun names' n hn hd => ?_
  · left
    exact FileTree.node?_without_of_not fun hp => hq ((List.prefix_append d names).trans hp)
  · obtain ⟨m, hm⟩ := hs.grounded.cwd
    exact ⟨m, (FileTree.node?_without_of_not haway).trans hm⟩
  · exact hs.dirs names' n (FileTree.node?_of_without hn) hd

section File

variable (hs : Shelf c d h) {names : List String} (hnot : ¬ IsFront names)

include hs hnot

/-- Nothing is below a file. -/
theorem Shelf.node?_below_file {rest : List String} (hrest : rest ≠ []) :
    h.tree.node? (d ++ names ++ rest) = none := by
  by_contra hne
  exact hs.not_isDir hnot (hs.grounded.tree.isDir_of_below hrest hne)

theorem Shelf.retains_without : FileTree.Retains h.tree (h.tree.without (d ++ names)) := by
  intro q node hq hfile
  rw [FileTree.node?_without_of_not, hq]
  rintro ⟨rest, rfl⟩
  by_cases hrest : rest = []
  · subst hrest
    rw [List.append_nil] at hq
    cases node with
    | file b m => exact hfile b m rfl
    | dir m | shut m => cases hs.isDirectory_eq_false hnot hq
    | link target m => exact hs.noLinks _ target m (List.prefix_append d names) hq
  · rw [hs.node?_below_file hnot hrest] at hq
    cases hq

theorem Shelf.sameFile_without {q : Place} (hq : q ≠ d ++ names) :
    SameFile h { h with tree := h.tree.without (d ++ names) } q := by
  intro bytes m
  show (h.tree.without (d ++ names)).node? q = _ ↔ _
  by_cases hp : d ++ names <+: q
  · obtain ⟨rest, rfl⟩ := hp
    have hrest : rest ≠ [] := by
      rintro rfl
      exact hq (List.append_nil _)
    rw [FileTree.node?_without _ _ _ (by simp [hrest]), if_pos (List.prefix_append _ _),
      hs.node?_below_file hnot hrest]
  · rw [FileTree.node?_without_of_not hp]

end File

theorem sameFile_put {p q : Place} (hne : q ≠ p) (hp : p ≠ []) (node : Node) :
    SameFile h { h with tree := Assoc.put p node h.tree } q := by
  intro bytes m
  show FileTree.node? (Assoc.put p node h.tree) q = _ ↔ _
  rw [FileTree.node?_put _ hp, if_neg fun he => hne he.symm]

/-! ## 5. Writing -/

/-- A text was written to a file of the cache. -/
structure Wrote (c : Cache) (d : Place) (front : List String) (n text : String) (h h' : Host) : Prop where
  tended : Tended c d h h'
  retains : FileTree.Retains h.tree h'.tree
  file : ∃ m, h'.tree.node? (d ++ front ++ [n]) = some (.file (Utf8.encode text) m)
  others : ∀ q, q ≠ d ++ front ++ [n] → q ≠ d ++ front ++ [n ++ ".tmp"] → SameFile h h' q
  gone : h'.tree.node? (d ++ front ++ [n ++ ".tmp"]) = none
  opens : h'.Opens (c.below front) (d ++ front)
  fits : Fits (c.below (front ++ [n ++ ".tmp"])).text

/-- The one file that may be new is the one that was written. -/
theorem Wrote.noNewFile {front : List String} {n text : String} (hw : Wrote c d front n text h h') {q : Place}
    (hq : q ≠ d ++ front ++ [n]) : NoNewFile h h' q := by
  by_cases hbeside : q = d ++ front ++ [n ++ ".tmp"]
  · exact noNewFile_of_none (hbeside ▸ hw.gone)
  · exact (hw.others q hq hbeside).noNewFile

/-- The file beside the one to be written, once it is there, takes its place. -/
theorem Shelf.wrote_move (hs : Shelf c d h) (hc : c.location.Proper) {front : List String}
    (hf : IsFront front) {n : String} (hn : FileName n) (hn' : FileName (n ++ ".tmp"))
    (hnot : ¬ IsFront (front ++ [n])) (hnot' : ¬ IsFront (front ++ [n ++ ".tmp"]))
    (ho : h.Opens (c.below front) (d ++ front)) (hfits : Fits (c.below (front ++ [n ++ ".tmp"])).text)
    {text : String} {m : Int}
    (hnode : h.tree.node? (d ++ front ++ [n ++ ".tmp"]) = some (.file (Utf8.encode text) m)) :
    ∃ h', exec (FileOp.move (c.below (front ++ [n ++ ".tmp"])).text (c.below (front ++ [n])).text) h =
      (.ok (), h') ∧ Wrote c d front n text h h' := by
  have hproper := proper_below hc hf.ordinary
  have hle : pathSize n ≤ pathSize (n ++ ".tmp") := by
    rw [pathSize_append]
    omega
  have hfits' : Fits (c.below (front ++ [n])).text := by
    rw [below_concat] at hfits ⊢
    exact Path.fits_sibling hfits hn.sayable hn.isName.ne_empty hle
  have hsource := hs.locate_file hc hf ho hn' hfits false
  have htarget := hs.locate_file hc hf ho hn hfits' false
  rw [FileTree.spotIn, hnode] at hsource
  have hdir : ∀ m, (h.tree.spotIn (d ++ front) n).node? = some m → m.isDirectory = false := by
    intro m hm
    rw [FileTree.node?_spotIn, List.append_assoc] at hm
    exact hs.isDirectory_eq_false hnot hm
  have hne : n ++ ".tmp" ≠ n := by
    intro he
    have hsize := congrArg pathSize he
    rw [pathSize_append] at hsize
    have htmp : pathSize ".tmp" = 4 := by decide
    omega
  have hplaces : d ++ front ++ [n ++ ".tmp"] ≠ d ++ front ++ [n] := fun he =>
    hne (List.cons.inj (List.append_cancel_left he)).1
  have hmove := FileOp.exec_move_at hsource htarget hdir (by rw [FileTree.place_spotIn]; exact hplaces)
  rw [FileTree.place_spotIn] at hmove
  -- First the file beside goes, then the file is there.
  have hgone := hs.tended_without (front ++ [n ++ ".tmp"])
  have hkept := hs.retains_without hnot'
  have hothers := fun q => hs.sameFile_without hnot' (q := q)
  rw [← List.append_assoc] at hgone hkept hothers
  have hopens := ho.retained hproper hgone.furnished.cwd_eq hkept
  obtain ⟨hput, hretains⟩ := hgone.shelf.tended_put (hopens.land_eq hproper).2 hnot (Utf8.encode text) m
  refine ⟨_, hmove, hgone.trans hput, hkept.trans hretains, ⟨m, ?_⟩, fun q hq hq' => ?_, ?_, ?_, hfits⟩
  · show FileTree.node? (Assoc.put _ _ _) _ = _
    rw [FileTree.node?_put _ (by simp), if_pos rfl]
  · exact (hothers q hq').trans (sameFile_put hq (by simp) _)
  · show FileTree.node? (Assoc.put _ _ _) _ = _
    rw [FileTree.node?_put _ (by simp), if_neg fun he => hplaces he.symm,
      FileTree.node?_without _ _ _ (by simp), if_pos (List.prefix_refl _)]
  · exact hopens.retained hproper hput.furnished.cwd_eq hretains

theorem parent_below (c : Cache) (front : List String) (n : String) :
    (c.below (front ++ [n])).parent = c.below front := by
  simp [below, Path.parent, ← List.append_assoc]

/-- A text is written in two steps, of which the second does not fail; the first does if the path does not
fit. -/
theorem Shelf.exec_replace (hs : Shelf c d h) (hc : c.location.Proper) {front : List String}
    (hf : IsFront front) {n : String} (hn : FileName n) (hn' : FileName (n ++ ".tmp"))
    (hnot : ¬ IsFront (front ++ [n])) (hnot' : ¬ IsFront (front ++ [n ++ ".tmp"]))
    (ho : h.Opens (c.below front) (d ++ front)) (text : String) (ds : Option Diagnostics) :
    ∃ r h', exec (do
        onFiles (FileOp.writeBytes (c.below (front ++ [n ++ ".tmp"])).text (Utf8.encode text))
        onFiles (FileOp.move (c.below (front ++ [n ++ ".tmp"])).text (c.below (front ++ [n])).text))
          (c.on ds h) = (r, c.on ds h') ∧
      ((r = .ok () ∧ Wrote c d front n text h h') ∨
        ((∃ e, r = .error e) ∧ h' = h ∧ ¬ Fits (c.below (front ++ [n ++ ".tmp"])).text)) := by
  have hproper := proper_below hc hf.ordinary
  rw [exec_bind, exec_onFiles]
  by_cases hfits : Fits (c.below (front ++ [n ++ ".tmp"])).text
  · have hspot := hs.locate_file hc hf ho hn' hfits true
    have hdir : ∀ m, (h.tree.spotIn (d ++ front) (n ++ ".tmp")).node? = some m → m.isDirectory = false := by
      intro m hm
      rw [FileTree.node?_spotIn, List.append_assoc] at hm
      exact hs.isDirectory_eq_false hnot' hm
    have hlink : ∀ target m, (h.tree.spotIn (d ++ front) (n ++ ".tmp")).node? ≠ some (.link target m) := by
      intro target m hm
      rw [FileTree.node?_spotIn, List.append_assoc] at hm
      exact hs.noLinks _ target m (List.prefix_append d _) hm
    obtain ⟨hput, hretains⟩ := hs.tended_put (ho.land_eq hproper).2 hnot' (Utf8.encode text) h.now
    have ho' := ho.retained hproper hput.furnished.cwd_eq hretains
    have hthere : FileTree.node? (Assoc.put (d ++ front ++ [n ++ ".tmp"]) (.file (Utf8.encode text) h.now)
        h.tree) (d ++ front ++ [n ++ ".tmp"]) = some (.file (Utf8.encode text) h.now) := by
      rw [FileTree.node?_put _ (by simp), if_pos rfl]
    obtain ⟨h', hmove, hwrote⟩ := hput.shelf.wrote_move hc hf hn hn' hnot hnot' ho' hfits hthere
    rw [FileOp.exec_writeBytes_at hspot hdir hlink, FileTree.place_spotIn]
    simp only [Except.mapError]
    rw [exec_onFiles, hmove]
    refine ⟨_, h', rfl, .inl ⟨rfl, hput.trans hwrote.tended, hretains.trans hwrote.retains, hwrote.file,
      fun q hq hq' => ?_, hwrote.gone, hwrote.opens, hfits⟩⟩
    exact (sameFile_put hq' (by simp) _).trans (hwrote.others q hq hq')
  · cases hlocate : h.locate true (c.below (front ++ [n ++ ".tmp"])).text with
    | ok s =>
      have hbeside : (c.below (front ++ [n ++ ".tmp"])).Proper := by
        rw [below_concat]
        exact hproper.child hn'.isName
      exact absurd ((Host.locate_eq_ok_iff hbeside).mp hlocate).1 hfits
    | error e =>
      rw [FileOp.exec_writeBytes_error hlocate]
      exact ⟨_, h, rfl, .inr ⟨⟨_, rfl⟩, rfl, hfits⟩⟩

/-- Nothing is written in a directory that must not be entered. -/
theorem exec_replace_of_bars (hc : c.location.Proper) {front : List String} (hf : IsFront front) {n : String}
    (hn' : FileName (n ++ ".tmp")) (hg : h.Grounded) (hb : h.Bars (c.below front)) (text : String)
    (ds : Option Diagnostics) :
    ∃ e, exec (do
        onFiles (FileOp.writeBytes (c.below (front ++ [n ++ ".tmp"])).text (Utf8.encode text))
        onFiles (FileOp.move (c.below (front ++ [n ++ ".tmp"])).text (c.below (front ++ [n])).text))
          (c.on ds h) = (.error e, c.on ds h) := by
  cases hlocate : h.locate true (c.below (front ++ [n ++ ".tmp"])).text with
  | ok s =>
    rw [below_concat] at hlocate
    exact absurd hlocate (hb.locate_child (proper_below hc hf.ordinary) hg hn'.isName s)
  | error e =>
    rw [exec_bind, exec_onFiles, FileOp.exec_writeBytes_error hlocate]
    exact ⟨_, rfl⟩

/-- What writing a value comes to: a failure changes no file, and there is none if the directory is there, the
path fits and the value can be written. -/
def Writing (c : Cache) (d : Place) (front : List String) (n : String) (v : Value) (h : Host)
    (r : Except Fault Unit) (h' : Host) : Prop :=
  (r = .ok () ∧ ∃ text, Json.writePretty v = .ok text ∧ Wrote c d front n text h h') ∨
    ((∃ e, r = .error e) ∧ Tended c d h h' ∧ FileTree.Retains h.tree h'.tree ∧ (∀ q, SameFile h h' q) ∧
      ¬ (h.Opens (c.below front) (d ++ front) ∧ Fits (c.below (front ++ [n ++ ".tmp"])).text ∧
        ∃ text, Json.writePretty v = .ok text))

/-- **A value is written as a whole or not at all.** -/
theorem Shelf.exec_writeJson (hs : Shelf c d h) (hc : c.location.Proper) {front : List String}
    (hf : IsFront front) {n : String} (hn : FileName n) (hn' : FileName (n ++ ".tmp"))
    (hnot : ¬ IsFront (front ++ [n])) (hnot' : ¬ IsFront (front ++ [n ++ ".tmp"])) (v : Value)
    (ds : Option Diagnostics) :
    ∃ r h', exec (writeJson (c.below (front ++ [n])) v) (c.on ds h) = (r, c.on ds h') ∧
      Writing c d front n v h r h' := by
  unfold writeJson
  rw [beside_below, parent_below, exec_bind, exec_onFiles]
  cases hdirs : exec (FileOp.makeDirs (c.below front)) h with
  | mk made h₁ =>
    obtain ⟨htended, hretains, hsame, hopens⟩ := hs.tended_makeDirs hc hf hdirs
    cases made with
    | error e =>
      refine ⟨_, h₁, rfl, .inr ⟨⟨_, rfl⟩, htended, hretains, hsame, ?_⟩⟩
      rintro ⟨ho, -⟩
      rw [FileOp.exec_makeDirs_of_opens (proper_below hc hf.ordinary) ho] at hdirs
      cases hdirs
    | ok _ =>
      simp only [Except.mapError]
      rw [exec_bind, exec_lift]
      cases htext : Json.writePretty v with
      | error e =>
        refine ⟨_, h₁, rfl, .inr ⟨⟨_, rfl⟩, htended, hretains, hsame, ?_⟩⟩
        rintro ⟨-, -, text, ht⟩
        cases htext.symm.trans ht
      | ok text =>
        rcases hopens rfl with ho | hbars
        · obtain ⟨r, h', hexec, ⟨rfl, hwrote⟩ | ⟨he, rfl, hfits⟩⟩ :=
            htended.shelf.exec_replace hc hf hn hn' hnot hnot' ho text ds
          · refine ⟨_, h', hexec, .inl ⟨rfl, text, htext, htended.trans hwrote.tended,
              hretains.trans hwrote.retains, hwrote.file, fun q hq hq' => ?_, hwrote.gone, hwrote.opens, hwrote.fits⟩⟩
            exact (hsame q).trans (hwrote.others q hq hq')
          · exact ⟨_, _, hexec, .inr ⟨he, htended, hretains, hsame, fun hall => hfits hall.2.1⟩⟩
        · obtain ⟨e, hexec⟩ := exec_replace_of_bars hc hf hn' htended.shelf.grounded hbars text ds
          refine ⟨_, _, hexec, .inr ⟨⟨_, rfl⟩, htended, hretains, hsame, fun hall => ?_⟩⟩
          exact (hall.1.retained (proper_below hc hf.ordinary) htended.furnished.cwd_eq hretains).not_bars hbars

/-! ## 6. Removing -/

/-- **A file of the cache is removed** if its directory is found. -/
theorem Shelf.exec_unlink_file (hs : Shelf c d h) (hc : c.location.Proper) {front : List String}
    (hf : IsFront front) {n : String} (hn : FileName n) (hnot : ¬ IsFront (front ++ [n]))
    (ho : h.Opens (c.below front) (d ++ front)) (hfits : Fits (c.below (front ++ [n])).text) :
    ∃ h', exec (FileOp.unlink (c.below (front ++ [n])).text) h = (.ok (), h') ∧ Tended c d h h' ∧
      FileTree.Retains h.tree h'.tree ∧ h'.tree.node? (d ++ front ++ [n]) = none ∧
      ∀ q, q ≠ d ++ front ++ [n] → SameFile h h' q := by
  have hspot := hs.locate_file hc hf ho hn hfits false
  have hgone := hs.tended_without (front ++ [n])
  have hkept := hs.retains_without hnot
  have hothers := fun q => hs.sameFile_without hnot (q := q)
  rw [← List.append_assoc] at hgone hkept hothers
  unfold FileTree.spotIn at hspot
  cases hnode : h.tree.node? (d ++ front ++ [n]) with
  | none =>
    rw [hnode] at hspot
    exact ⟨h, FileOp.exec_unlink_vacant hspot, hs.tended_refl, FileTree.Retains.refl _, hnode,
      fun q _ => SameFile.refl h q⟩
  | some node =>
    rw [hnode] at hspot
    have hdir := hs.isDirectory_eq_false hnot ((List.append_assoc d front [n]) ▸ hnode)
    refine ⟨_, FileOp.exec_unlink_at hspot hdir, hgone, hkept, ?_, hothers⟩
    show (h.tree.without (d ++ front ++ [n])).node? (d ++ front ++ [n]) = none
    rw [FileTree.node?_without _ _ _ (by simp), if_pos (List.prefix_refl _)]

/-- Removing the directory of the outcomes: it is gone, or it was not found. -/
theorem Shelf.exec_removeTree_below (hs : Shelf c d h) (hc : c.location.Proper) :
    ∃ r h', exec (FileOp.removeTree (c.below ["files"])) h = (r, h') ∧
      ((Tended c d h h' ∧ Vacant h' (d ++ ["files"]) ∧
          ∀ q, ¬ d ++ ["files"] <+: q → h'.tree.node? q = h.tree.node? q) ∨
        (h' = h ∧ ∀ p n, h.locate false (c.below ["files"]).text = .ok (.at p n) → n.isDirectory = false)) := by
  have hne : (c.below ["files"]).names ≠ [] := by simp [below]
  rcases FileOp.exec_removeTree hne h with ⟨e, he, hnot⟩ | ⟨p, n, hp, -, he⟩
  · exact ⟨_, _, he, .inr ⟨rfl, hnot⟩⟩
  · have hland := (Host.land_of_locate (proper_below hc isFront_files.ordinary) hp).1
    obtain rfl := hs.eq_of_land isFront_files.ordinary hland
    refine ⟨_, _, he, .inl ⟨hs.tended_without ["files"], fun q hq => ?_, fun q hq => ?_⟩⟩
    · have hq' : q ≠ [] := by
        rintro rfl
        simpa using List.prefix_nil.mp hq
      show (h.tree.without _).node? q = none
      rw [FileTree.node?_without _ _ _ hq', if_pos hq]
    · exact FileTree.node?_without_of_not hq

/-- Removing the directory itself: it is gone, or it was not found. -/
theorem Shelf.exec_removeTree_location (hs : Shelf c d h) (hc : c.location.Proper) :
    ∃ r h', exec (FileOp.removeTree c.location) h = (r, h') ∧
      ((Tended c d h h' ∧ Vacant h' d) ∨
        (h' = h ∧ ∀ p n, h.locate false c.location.text = .ok (.at p n) → n.isDirectory = false)) := by
  rcases FileOp.exec_removeTree hs.names_ne_nil h with ⟨e, he, hnot⟩ | ⟨p, n, hp, -, he⟩
  · exact ⟨_, _, he, .inr ⟨rfl, hnot⟩⟩
  · obtain rfl : p = d := Option.some.inj ((Host.land_of_locate hc hp).1.symm.trans hs.unlinked)
    have hgone := hs.tended_without []
    rw [List.append_nil] at hgone
    refine ⟨_, _, he, .inl ⟨hgone, fun q hq => ?_⟩⟩
    have hq' : q ≠ [] := by
      rintro rfl
      exact hs.ne_nil (List.prefix_nil.mp hq)
    show (h.tree.without _).node? q = none
    rw [FileTree.node?_without _ _ _ hq', if_pos hq]

/-- A directory that is found is found without following a last link. -/
theorem Shelf.locate_location (hs : Shelf c d h) (hc : c.location.Proper) (ho : h.Opens c.location d) :
    ∃ m, h.locate false c.location.text = .ok (.at d (.dir m)) := by
  rcases ho.locate_false hc with hm | ⟨p, target, m, hp⟩
  · exact hm
  · obtain ⟨hland, hnode⟩ := Host.land_of_locate hc hp
    obtain rfl : p = d := Option.some.inj (hland.symm.trans hs.unlinked)
    exact absurd hnode (hs.noLinks _ target m (List.prefix_refl _))

/-! ## 7. Room for paths -/

/-- The paths of the cache fit. -/
def Roomy (c : Cache) : Prop := ∃ s, Fits (c.below ["files", Sha256.hex s ++ ".json" ++ ".tmp"]).text

theorem below_files (c : Cache) (n : String) : c.below ["files", n] = (c.location.child "files").child n := by
  simp [below, Path.child]

theorem below_singleton (c : Cache) (n : String) : c.below [n] = c.location.child n := rfl

/-- There is room in a directory whose path is not too long. -/
theorem roomy_of_front (hsay : refusal? c.location.front = none)
    (hle : pathSize c.location.front + 80 ≤ longestPath) : Roomy c := by
  have hw := (Sha256.word_hex "").beside
  have hfront : (c.location.child "files").front = c.location.front ++ ("files" ++ "/") := by
    rw [Path.front_child, String.append_assoc]
  refine ⟨"", ?_⟩
  rw [below_files]
  refine Path.fits_child ?_ hw.sayable hw.isName.ne_empty ?_
  · rw [hfront]
    exact refusal?_append hsay (by decide)
  · have hsizes : pathSize ("files" ++ "/") = 6 ∧ pathSize ".json" = 5 ∧ pathSize ".tmp" = 4 := by decide
    rw [hfront]
    simp only [pathSize_append, Sha256.pathSize_hex] at hsizes ⊢
    omega

section Roomy

variable (hr : Roomy c)

include hr

theorem Roomy.beside (s : String) : Fits (c.below ["files", Sha256.hex s ++ ".json" ++ ".tmp"]).text := by
  obtain ⟨t, ht⟩ := hr
  rw [below_files] at ht ⊢
  have hn := (Sha256.word_hex s).beside
  refine Path.fits_sibling ht hn.sayable hn.isName.ne_empty ?_
  simp only [pathSize_append, Sha256.pathSize_hex]
  exact Nat.le_refl _

theorem Roomy.payload (s : String) : Fits (c.below ["files", Sha256.hex s ++ ".json"]).text := by
  have hs := hr.beside s
  rw [below_files] at hs ⊢
  have hn := (Sha256.word_hex s).json
  refine Path.fits_sibling hs hn.sayable hn.isName.ne_empty ?_
  simp only [pathSize_append]
  omega

theorem Roomy.indexBeside : Fits (c.below ["index.json" ++ ".tmp"]).text := by
  obtain ⟨t, ht⟩ := hr
  rw [below_files] at ht
  rw [below_singleton]
  have hn := word_index.beside
  refine Path.fits_uncle ht hn.sayable hn.isName.ne_empty ?_
  simp only [pathSize_append, Sha256.pathSize_hex]
  decide

theorem Roomy.index : Fits (c.below ["index.json"]).text := by
  have hs := hr.indexBeside
  rw [below_singleton] at hs ⊢
  have hn := word_index.json
  refine Path.fits_sibling hs hn.sayable hn.isName.ne_empty ?_
  rw [pathSize_append]
  omega

theorem Roomy.files (hc : c.location.Proper) : Fits (c.below ["files"]).text := by
  obtain ⟨t, ht⟩ := hr
  rw [below_files] at ht
  rw [below_singleton]
  exact Path.fits_of_child (hc.child fileName_files.isName) ht

end Roomy

end Cache

end AgentLint
