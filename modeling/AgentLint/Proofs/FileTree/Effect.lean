import AgentLint.FileTree.Change
import AgentLint.Proofs.FileTree.Landing
import AgentLint.Proofs.Sequencing

/-!
# What file operations leave alone

An operation may fail half-way, so its effect is stated for every outcome.  `Effect` bounds it node by
node: inside a region nodes may go, and files may come that hold what was to be written; outside of it
only directories may come, where nothing was.  Links stay as they are everywhere, so every path goes on
landing where it landed.

Each operation gets one such lemma, and `Effect.trans` joins them.
-/

namespace AgentLint

/-! ## 1. Effects -/

/-- What may become of a node: nothing; a directory where nothing was; inside the region also that it
goes, or is a directory or a file with the right bytes, unless it was a link. -/
def NodeEffect (inside : Prop) (written : List UInt8 → Prop) (old new : Option Node) : Prop :=
  new = old ∨ (old = none ∧ ∃ m, new = some (.dir m)) ∨
    (inside ∧ (∀ target m, old ≠ some (.link target m)) ∧
      (new = none ∨ (∃ n, new = some n ∧ n.isDirectory = true) ∨ ∃ bs m, new = some (.file bs m) ∧ written bs))

/-- A bound on what has happened to a host: inside the region, files `written` may have come. -/
structure Effect (inside : Place → Prop) (written : Place → List UInt8 → Prop) (h h' : Host) :
    Prop where
  only_tree : h' = { h with tree := h'.tree }
  node : ∀ q, NodeEffect (inside q) (written q) (h.tree.node? q) (h'.tree.node? q)

namespace Effect

variable {inside : Place → Prop} {written written' : Place → List UInt8 → Prop} {h h' h'' : Host}

theorem refl (h : Host) : Effect inside written h h := ⟨rfl, fun _ => .inl rfl⟩

theorem trans (h₁ : Effect inside written h h') (h₂ : Effect inside written h' h'') :
    Effect inside written h h'' := by
  refine ⟨?_, fun q => ?_⟩
  · rw [h₂.only_tree, h₁.only_tree]
  · rcases h₁.node q with he | ⟨hnone, m, hm⟩ | ⟨hin, hlink, -⟩
    · rw [← he]
      exact h₂.node q
    · rcases h₂.node q with he | ⟨hnone', -⟩ | ⟨hin, -, hnew⟩
      · exact .inr (.inl ⟨hnone, m, he.trans hm⟩)
      · rw [hm] at hnone'
        cases hnone'
      · exact .inr (.inr ⟨hin, by simp [hnone], hnew⟩)
    · rcases h₂.node q with he | ⟨-, hdir⟩ | ⟨-, -, hnew⟩
      · rw [he]
        exact h₁.node q
      · obtain ⟨m, hm⟩ := hdir
        exact .inr (.inr ⟨hin, hlink, .inr (.inl ⟨.dir m, hm, rfl⟩)⟩)
      · exact .inr (.inr ⟨hin, hlink, hnew⟩)

theorem cwd_eq (h₁ : Effect inside written h h') : h'.cwd = h.cwd := by rw [h₁.only_tree]

/-- Links stay as they are. -/
theorem sameLinks (h₁ : Effect inside written h h') : FileTree.SameLinks h.tree h'.tree := by
  intro q target m
  rcases h₁.node q with he | ⟨hnone, m', hdir⟩ | ⟨-, hlink, hnew⟩
  · rw [he]
  · rw [hnone, hdir]
    simp
  · refine ⟨fun hl => ?_, fun hl => absurd hl (hlink target m)⟩
    rcases hnew with hnone | ⟨n, hnode, hdir⟩ | ⟨bs, m', hfile, -⟩
    · rw [hnone] at hl
      cases hl
    · rw [hnode] at hl
      cases hl
      cases hdir
    · rw [hfile] at hl
      cases hl

theorem land_eq (h₁ : Effect inside written h h') (follow : Bool) (path : Path) :
    h'.land follow path = h.land follow path :=
  Host.land_eq h₁.cwd_eq h₁.sameLinks follow path

theorem landing_eq (h₁ : Effect inside written h h') (path : String) :
    h'.landing path = h.landing path :=
  Host.landing_eq h₁.cwd_eq h₁.sameLinks path

/-- A file outside the region stays as it is, and none comes there. -/
theorem file_iff (h₁ : Effect inside written h h') {q : Place} (hq : ¬ inside q) (bs : List UInt8)
    (m : Int) : h'.tree.node? q = some (.file bs m) ↔ h.tree.node? q = some (.file bs m) := by
  rcases h₁.node q with he | ⟨hnone, m', hdir⟩ | ⟨hin, -⟩
  · rw [he]
  · rw [hnone, hdir]
    simp
  · exact absurd hin hq

/-- One node put where it may be. -/
theorem put {p : Place} (hp : p ≠ []) {n : Node}
    (hn : NodeEffect (inside p) (written p) (h.tree.node? p) (some n)) :
    Effect inside written h { h with tree := Assoc.put p n h.tree } := by
  refine ⟨rfl, fun q => ?_⟩
  show NodeEffect _ _ _ (FileTree.node? (Assoc.put p n h.tree) q)
  rw [FileTree.node?_put _ hp]
  split
  · rename_i hq
    rw [← hq]
    exact hn
  · exact .inl rfl

end Effect

/-! ## 2. Regions -/

/-- A region holds with a place all below it, and no link stands in it. -/
structure Region (inside : Place → Prop) (h : Host) : Prop where
  below : ∀ p q, inside p → p <+: q → inside q
  noLink : ∀ p target m, inside p → h.tree.node? p ≠ some (.link target m)

namespace Region

variable {inside : Place → Prop} {written : Place → List UInt8 → Prop} {h h' : Host}

theorem effect (hr : Region inside h) (he : Effect inside written h h') : Region inside h' :=
  ⟨hr.below, fun p target m hp hl => hr.noLink p target m hp ((he.sameLinks p target m).mp hl)⟩

/-- All at and below a place of the region removed. -/
theorem without (hr : Region inside h) {p : Place} (hp : inside p) :
    Effect inside written h { h with tree := h.tree.without p } := by
  refine ⟨rfl, fun q => ?_⟩
  by_cases hq : q = []
  · rw [hq]
    exact .inl rfl
  · show NodeEffect _ _ _ ((h.tree.without p).node? q)
    rw [FileTree.node?_without _ _ _ hq]
    split
    · rename_i hpq
      have hin := hr.below p q hp hpq
      exact .inr (.inr ⟨hin, fun target m => hr.noLink q target m hin, .inl rfl⟩)
    · exact .inl rfl

end Region

/-! ## 3. Running operations -/

namespace FileOp

variable {α β : Type}

theorem exec_attempt (op : FileOp α) (h : Host) :
    exec (attempt op) h = (.ok (exec op h).1, (exec op h).2) := rfl

theorem exec_ask (f : Host → Except FileFault α) (h : Host) : exec (ask f) h = (f h, h) := by
  unfold ask
  rw [exec_bind, exec_get]
  simp only
  cases f h <;> rfl

variable {inside : Place → Prop} {written : Place → List UInt8 → Prop}

theorem effect_bind {op : FileOp α} {k : α → FileOp β} {h : Host}
    (h₁ : Effect inside written h (exec op h).2)
    (h₂ : ∀ a h', exec op h = (.ok a, h') → Effect inside written h' (exec (k a) h').2) :
    Effect inside written h (exec (op >>= k) h).2 := by
  rw [exec_bind]
  cases hop : exec op h with
  | mk r h' =>
    rw [hop] at h₁
    cases r with
    | ok a => exact h₁.trans (h₂ a h' hop)
    | error e => exact h₁

theorem effect_ask {f : Host → Except FileFault α} {k : α → FileOp β} {h : Host}
    (hk : ∀ a, f h = .ok a → Effect inside written h (exec (k a) h).2) :
    Effect inside written h (exec (ask f >>= k) h).2 := by
  refine effect_bind ?_ fun a h' hexec => ?_
  · rw [exec_ask]
    exact Effect.refl h
  · rw [exec_ask] at hexec
    obtain ⟨hf, rfl⟩ := Prod.mk.inj hexec
    exact hk a hf

/-! ## 4. Directories -/

theorem effect_makeDir (path : Path) (h : Host) :
    Effect inside written h (exec (makeDir path) h).2 := by
  refine effect_ask fun s hs => ?_
  obtain ⟨-, hnode⟩ := FileTree.land_of_walk (Host.walk_of_locate hs)
  cases s with
  | «at» p n => exact Effect.refl h
  | vacant dir name => exact Effect.put (by simp) (.inr (.inl ⟨hnode, h.now, rfl⟩))

theorem effect_orPresent (path : Path) (e : FileFault) (h : Host) :
    Effect inside written h (exec (orPresent path e) h).2 := by
  refine effect_ask fun present _ => ?_
  split <;> exact Effect.refl h

/-- Making directories adds directories where nothing was. -/
theorem effect_makeDirsAux : ∀ (fuel : Nat) (path : Path) (h : Host),
    Effect inside written h (exec (makeDirsAux fuel path) h).2
  | 0, path, h => Effect.refl h
  | fuel + 1, path, h => by
    have hattempt : ∀ h', Effect inside written h' (exec (attempt (makeDir path)) h').2 :=
      fun h' => effect_makeDir path h'
    refine effect_bind (hattempt h) fun r h₁ _ => ?_
    split
    · exact Effect.refl h₁
    · split
      · exact Effect.refl h₁
      · refine effect_bind (effect_makeDirsAux fuel path.parent h₁) fun _ h₂ _ => ?_
        refine effect_bind (hattempt h₂) fun r h₃ _ => ?_
        split
        · exact Effect.refl h₃
        · exact Effect.refl h₃
        · exact effect_orPresent path _ h₃
    · exact effect_orPresent path _ h₁

theorem effect_makeDirs (path : Path) (h : Host) :
    Effect inside written h (exec (makeDirs path) h).2 :=
  effect_makeDirsAux _ path h

/-! ## 5. Files -/

section Files

variable {h : Host} (hr : Region inside h)

/-- What is at a place is not the root, if it is no directory. -/
theorem ne_nil_of_no_dir {p : Place} {node : Option Node} (hnode : h.tree.node? p = node)
    (hno : ∀ n, node = some n → n.isDirectory = false) : p ≠ [] := by
  rintro rfl
  cases hno (.dir 0) hnode.symm

/-- **What writing does**: it fails and changes nothing, or it puts a file where no directory is. -/
theorem writeBytes_cases (path : String) (bytes : List UInt8) (h : Host) :
    (∃ e, exec (writeBytes path bytes) h = (.error e, h)) ∨
      ∃ s, h.locate true path = .ok s ∧ (∀ n, s.node? = some n → n.isDirectory = false) ∧
        exec (writeBytes path bytes) h =
          (.ok (), { h with tree := Assoc.put s.place (.file bytes h.now) h.tree }) := by
  unfold writeBytes
  rw [exec_bind, exec_ask]
  cases hs : h.locate true path with
  | error e => exact .inl ⟨e, rfl⟩
  | ok s =>
    cases s with
    | vacant dir name => exact .inr ⟨_, rfl, nofun, rfl⟩
    | «at» p n =>
      cases n with
      | file b m => exact .inr ⟨_, rfl, fun n hn => by cases hn; rfl, rfl⟩
      | dir m | shut m | link target m => exact .inl ⟨_, rfl⟩

include hr in
/-- Writing puts a file where the path lands, if anything. -/
theorem effect_writeBytes {path : Path} (hp : path.Proper)
    (hin : ∀ q, h.land true path = some q → inside q) (bytes : List UInt8)
    (hw : ∀ q, h.land true path = some q → written q bytes) :
    Effect inside written h (exec (writeBytes path.text bytes) h).2 := by
  rcases writeBytes_cases path.text bytes h with ⟨e, he⟩ | ⟨s, hs, hno, he⟩
  · rw [he]
    exact Effect.refl h
  · obtain ⟨hland, hnode⟩ := Host.land_of_locate hp hs
    rw [he]
    exact Effect.put (ne_nil_of_no_dir hnode hno) (.inr (.inr ⟨hin _ hland,
      fun target m => hr.noLink _ target m (hin _ hland), .inr (.inr ⟨bytes, h.now, rfl, hw _ hland⟩)⟩))

/-- If writing succeeds, the file is there. -/
theorem node?_of_writeBytes {path : Path} (hp : path.Proper) {bytes : List UInt8} {h' : Host}
    (he : exec (writeBytes path.text bytes) h = (.ok (), h')) :
    ∃ q, h.land true path = some q ∧ h'.tree.node? q = some (.file bytes h.now) := by
  rcases writeBytes_cases path.text bytes h with ⟨e, hfails⟩ | ⟨s, hs, hno, hput⟩
  · cases hfails.symm.trans he
  · obtain ⟨hland, hnode⟩ := Host.land_of_locate hp hs
    cases hput.symm.trans he
    exact ⟨s.place, hland, by rw [FileTree.node?_put _ (ne_nil_of_no_dir hnode hno), if_pos rfl]⟩

/-- **What moving does**: it fails and changes nothing, or source and target are one place and nothing changes, or what
is at the source goes to the target, where no directory is. -/
theorem move_cases (source target : String) (h : Host) :
    (∃ e, exec (move source target) h = (.error e, h)) ∨
      ∃ p n s, h.locate false source = .ok (.at p n) ∧ h.locate false target = .ok s ∧
        (∀ n, s.node? = some n → n.isDirectory = false) ∧
        ((s.place = p ∧ exec (move source target) h = (.ok (), h)) ∨
          exec (move source target) h =
            (.ok (), { h with tree := Assoc.put s.place n (h.tree.without p) })) := by
  unfold move
  cases hs : h.locate false source with
  | error e =>
    simp only [exec_bind, exec_get, hs, exec_throw]
    exact .inl ⟨_, rfl⟩
  | ok s =>
    cases s with
    | vacant d n =>
      simp only [exec_bind, exec_get, hs, exec_pure, exec_throw]
      exact .inl ⟨_, rfl⟩
    | «at» p n =>
      cases ht : h.locate false target with
      | error e =>
        simp only [exec_bind, exec_get, hs, ht, exec_pure, exec_throw]
        exact .inl ⟨_, rfl⟩
      | ok s =>
        simp only [exec_bind, exec_get, hs, ht, exec_pure]
        cases s with
        | vacant d n' => exact .inr ⟨p, n, _, rfl, rfl, nofun, .inr rfl⟩
        | «at» q n' =>
          cases hdir : n'.isDirectory with
          | true =>
            simp only [hdir, if_true]
            exact .inl ⟨_, rfl⟩
          | false =>
            refine .inr ⟨p, n, _, rfl, rfl, fun n hn => ?_, ?_⟩
            · cases hn
              exact hdir
            simp only [hdir, Bool.false_eq_true, if_false]
            by_cases hpq : p = q
            · refine .inl ⟨hpq.symm, ?_⟩
              simp only [hpq, ne_eq, not_true_eq_false, if_false, exec_pure]
            · refine .inr ?_
              simp only [hpq, ne_eq, not_false_eq_true, if_true]
              rfl

include hr in
/-- Moving a file puts it where the target lands, if anything. -/
theorem effect_move {source target : Path} (hps : source.Proper) (hpt : target.Proper)
    (hsource : ∀ p, h.land false source = some p → inside p)
    (htarget : ∀ q, h.land false target = some q → inside q)
    (hw : ∀ p q bs m, h.land false source = some p → h.tree.node? p = some (.file bs m) →
      h.land false target = some q → written q bs) :
    Effect inside written h (exec (move source.text target.text) h).2 := by
  rcases move_cases source.text target.text h with ⟨e, he⟩ | ⟨p, n, s, hs, ht, hdir, ⟨-, he⟩ | he⟩
  · rw [he]
    exact Effect.refl h
  · rw [he]
    exact Effect.refl h
  · obtain ⟨hlands, hnodes⟩ := Host.land_of_locate hps hs
    obtain ⟨hlandt, hnodet⟩ := Host.land_of_locate hpt ht
    have hinp : inside p := hsource p hlands
    have hint : inside s.place := htarget _ hlandt
    have hgone : Effect inside written h { h with tree := h.tree.without p } := hr.without hinp
    rw [he]
    refine hgone.trans (Effect.put (ne_nil_of_no_dir hnodet hdir) (.inr (.inr ⟨hint, ?_, ?_⟩)))
    · exact fun target m => (hr.effect hgone).noLink _ target m hint
    · cases n with
      | file bs m => exact .inr (.inr ⟨bs, m, rfl, hw p _ bs m hlands hnodes hlandt⟩)
      | dir m | shut m => exact .inr (.inl ⟨_, rfl, rfl⟩)
      | link target m => exact absurd hnodes (hr.noLink p target m hinp)

/-- If moving succeeds, what was at the source is at the target. -/
theorem node?_of_move {source target : Path} (hps : source.Proper) (hpt : target.Proper) {h' : Host}
    (he : exec (move source.text target.text) h = (.ok (), h')) :
    ∃ p n q, h.land false source = some p ∧ h.tree.node? p = some n ∧ h.land false target = some q ∧
      h'.tree.node? q = some n := by
  rcases move_cases source.text target.text h with ⟨e, hfails⟩ | ⟨p, n, s, hs, ht, hdir, hmoves⟩
  · cases hfails.symm.trans he
  · obtain ⟨hlands, hnodes⟩ := Host.land_of_locate hps hs
    obtain ⟨hlandt, hnodet⟩ := Host.land_of_locate hpt ht
    refine ⟨p, n, s.place, hlands, hnodes, hlandt, ?_⟩
    rcases hmoves with ⟨hplace, hstays⟩ | hgoes
    · cases hstays.symm.trans he
      rw [hplace]
      exact hnodes
    · cases hgoes.symm.trans he
      rw [FileTree.node?_put _ (ne_nil_of_no_dir hnodet hdir), if_pos rfl]

include hr in
/-- Removing a file removes it where the path lands, if anything. -/
theorem effect_unlink {path : Path} (hp : path.Proper)
    (hin : ∀ q, h.land false path = some q → inside q) :
    Effect inside written h (exec (unlink path.text) h).2 := by
  unfold unlink
  rw [exec_bind, exec_get]
  simp only
  split
  · exact Effect.refl h
  · exact Effect.refl h
  · exact Effect.refl h
  · rename_i p n hs
    cases n.isDirectory with
    | true => exact Effect.refl h
    | false => exact hr.without (hin p (Host.land_of_locate hp hs).1)

/-- What removing a tree does once its path is looked up: a path without names leaves the directory itself. -/
theorem removeTree_cases (path : Path) (h : Host) :
    (exec (removeTree path) h).2 = h ∨ ∃ p n, h.locate false path.text = .ok (.at p n) ∧ n.isDirectory = true ∧
      ((exec (removeTree path) h).2 = { h with tree := h.tree.without p } ∨
        p ≠ [] ∧ (exec (removeTree path) h).2 = { h with tree := Assoc.put p n (h.tree.without p) }) := by
  unfold removeTree
  rw [exec_bind, exec_ask]
  cases hl : h.locate false path.text with
  | error e => exact .inl rfl
  | ok s =>
    cases s with
    | vacant dir n => exact .inl rfl
    | «at» p n =>
      cases n with
      | file b m => exact .inl rfl
      | link target m =>
        left
        simp only
        rw [exec_bind, exec_ask]
        cases h.stat path.text <;> rfl
      | dir m | shut m =>
        refine .inr ⟨p, _, rfl, rfl, ?_⟩
        by_cases hnames : path.names.isEmpty = true
        · by_cases hp : p = []
          · subst hp
            left
            simp only [hnames]
            rfl
          · have hempty : p.isEmpty = false := by simpa using hp
            right
            refine ⟨hp, ?_⟩
            simp only [hnames, hempty]
            rfl
        · left
          simp only [hnames]
          rfl

/-- Removing a tree leaves all that is not in it. -/
theorem node?_removeTree {path : Path} {q : Place}
    (hq : ∀ p n, h.locate false path.text = .ok (.at p n) → n.isDirectory = true → ¬ p <+: q) :
    (exec (removeTree path) h).2.tree.node? q = h.tree.node? q := by
  rcases removeTree_cases path h with he | ⟨p, n, hp, hdir, he | ⟨hne, he⟩⟩
  · rw [he]
  · rw [he]
    exact FileTree.node?_without_of_not (hq p n hp hdir)
  · rw [he]
    show FileTree.node? (Assoc.put p n (h.tree.without p)) q = _
    rw [FileTree.node?_put _ hne, if_neg fun hpq : p = q => hq p n hp hdir (hpq ▸ List.prefix_refl p),
      FileTree.node?_without_of_not (hq p n hp hdir)]

include hr in
/-- Removing a tree of the region removes nothing else. -/
theorem effect_removeTree {path : Path}
    (hin : ∀ p n, h.locate false path.text = .ok (.at p n) → n.isDirectory = true → inside p) :
    Effect inside written h (exec (removeTree path) h).2 := by
  rcases removeTree_cases path h with he | ⟨p, n, hp, hdir, he | ⟨hne, he⟩⟩
  · rw [he]
    exact Effect.refl h
  · rw [he]
    exact hr.without (hin p n hp hdir)
  · have hgone : Effect inside written h { h with tree := h.tree.without p } := hr.without (hin p n hp hdir)
    have hnone : (h.tree.without p).node? p = none := by
      rw [FileTree.node?_without _ _ _ hne, if_pos (List.prefix_refl p)]
    rw [he]
    refine hgone.trans (Effect.put hne (.inr (.inr ⟨hin p n hp hdir, fun target m => ?_, .inr (.inl ⟨n, rfl, hdir⟩)⟩)))
    simp [hnone]

end Files

end FileOp

end AgentLint
