import AgentLint.Proofs.FileTree.Effect
import AgentLint.Proofs.FileTree.Reading
import AgentLint.Proofs.FileTree.Walking

/-!
# Looking paths up in a tree with fewer nodes

If nodes are taken out of a tree, a path that led somewhere still leads to the same node, or to nothing: it cannot come
to lead elsewhere.  So what was read from a file is read again, or the file is not there any more, and removing a
directory a second time removes nothing else.
-/

namespace AgentLint

namespace FileTree

/-! ## 1. Walks -/

variable {t t' : FileTree} {follow : Bool} {w w' : Walker} {s : Spot}

/-- One tree has only nodes that the other has too. -/
def Thinner (t' t : FileTree) : Prop := ∀ q n, t'.node? q = some n → t.node? q = some n

theorem thinner_without (t : FileTree) (p : Place) : (t.without p).Thinner t := fun _ _ => node?_of_without

/-- A node is still there, or nothing is. -/
theorem Thinner.node?_cases (h : t'.Thinner t) (q : Place) : t'.node? q = t.node? q ∨ t'.node? q = none := by
  cases hnode : t'.node? q with
  | none => exact .inr rfl
  | some n => exact .inl (h q n hnode).symm

/-- A walk comes to nothing. -/
def Lost (r : Except Trouble Spot) : Prop := r = .error .missing ∨ ∃ d n, r = .ok (.vacant d n)

theorem lost_run {k : Nat} {here : Place} {n : String} {rest : List String} (hn : Passable n)
    (hnone : t.node? (here ++ [n]) = none) : Lost (Walker.run t follow ⟨k, here, n :: rest⟩) := by
  unfold Walker.run
  rw [walk_eq, walkNames_passable hn, hnone]
  cases rest with
  | nil => exact .inr ⟨here, n, rfl⟩
  | cons m rest => exact .inl rfl

/-- A step can still be taken, or the walk comes to nothing. -/
theorem Thinner.step (h : t'.Thinner t) (hs : Step t follow w w') : Step t' follow w w' ∨ Lost (w.run t' follow) := by
  cases hs with
  | dot => exact .inl .dot
  | up => exact .inl .up
  | @enter k here n rest m hn hnode =>
    rcases h.node?_cases (here ++ [n]) with hsame | hnone
    · exact .inl (.enter hn (hsame.trans hnode))
    · exact .inr (lost_run hn hnone)
  | @link k here n rest target m hn hnode hmore =>
    rcases h.node?_cases (here ++ [n]) with hsame | hnone
    · exact .inl (.link hn (hsame.trans hnode) hmore)
    · exact .inr (lost_run hn hnone)

theorem Thinner.ends (h : t'.Thinner t) (he : Ends t follow w s) : Ends t' follow w s ∨ Lost (w.run t' follow) := by
  cases he with
  | @here k here node hnode =>
    rcases h.node?_cases here with hsame | hnone
    · exact .inl (.here (hsame.trans hnode))
    · refine .inr (.inl ?_)
      unfold Walker.run
      rw [walk_eq, walkNames, hnone]
  | @vacant k here n hn hnode => exact .inr (lost_run hn ((h.node?_cases _).elim (·.trans hnode) id))
  | @file k here n b m hn hnode =>
    rcases h.node?_cases (here ++ [n]) with hsame | hnone
    · exact .inl (.file hn (hsame.trans hnode))
    · exact .inr (lost_run hn hnone)
  | @link k here n target m hn hnode hfollow =>
    rcases h.node?_cases (here ++ [n]) with hsame | hnone
    · exact .inl (.link hn (hsame.trans hnode) hfollow)
    · exact .inr (lost_run hn hnone)
  | @shut k here n m hn hnode =>
    rcases h.node?_cases (here ++ [n]) with hsame | hnone
    · exact .inl (.shut hn (hsame.trans hnode))
    · exact .inr (lost_run hn hnone)

theorem Thinner.run (h : t'.Thinner t) (hsteps : Relation.ReflTransGen (Step t follow) w w')
    (hends : Ends t follow w' s) : w.run t' follow = .ok s ∨ Lost (w.run t' follow) := by
  induction hsteps using Relation.ReflTransGen.head_induction_on with
  | refl => exact (h.ends hends).imp_left Ends.run_eq
  | head hstep _ ih =>
    rcases h.step hstep with hstep' | hlost
    · rw [hstep'.run_eq]
      exact ih
    · exact .inr hlost

/-- **A walk ends at the same node, or comes to nothing.** -/
theorem Thinner.walk (h : t'.Thinner t) {k : Nat} {here : Place} {names : List String}
    (hw : t.walk follow k here names = .ok s) :
    t'.walk follow k here names = .ok s ∨ Lost (t'.walk follow k here names) := by
  obtain ⟨w, hsteps, hends⟩ := walk_eq_ok_iff.mp hw
  exact h.run hsteps hends

end FileTree

namespace Host

open FileTree

/-! ## 2. Paths -/

variable {h h' : Host} {path : String}

/-- What a look-up comes to. -/
theorem locate_of_thinner (hcwd : h'.cwd = h.cwd) (ht : h'.tree.Thinner h.tree) {follow : Bool} {s : Spot}
    (hl : h.locate follow path = .ok s) : h'.locate follow path = .ok s ∨
      h'.locate follow path = .error (.trouble .missing path) ∨ ∃ d n, h'.locate follow path = .ok (.vacant d n) := by
  unfold locate at hl ⊢
  split at hl
  · cases hl
  dsimp only at hl ⊢
  split at hl
  · cases hl
  rename_i hempty
  split at hl
  · cases hl
  rename_i hlong
  simp only [if_neg hempty, if_neg hlong, hcwd, mapError_eq_ok_iff] at hl ⊢
  rcases ht.walk hl with hsame | hmissing | ⟨d, n, hvacant⟩
  · exact .inl hsame
  · exact .inr (.inl (by rw [hmissing]; rfl))
  · exact .inr (.inr ⟨d, n, hvacant⟩)

theorem stat_of_thinner (hcwd : h'.cwd = h.cwd) (ht : h'.tree.Thinner h.tree) {found : Place × Node}
    (hs : h.stat path = .ok found) :
    h'.stat path = .ok found ∨ h'.stat path = .error (.trouble .missing path) := by
  unfold stat at hs ⊢
  cases hl : h.locate true path with
  | error e =>
    rw [hl] at hs
    cases hs
  | ok s =>
    rw [hl] at hs
    rcases locate_of_thinner hcwd ht hl with hsame | hmissing | ⟨d, n, hvacant⟩
    · rw [hsame]
      exact .inl hs
    · rw [hmissing]
      exact .inr rfl
    · rw [hvacant]
      exact .inr rfl

/-- **What was read from a file** is read again, or there is no file any more. -/
theorem readJson_of_thinner (hcwd : h'.cwd = h.cwd) (ht : h'.tree.Thinner h.tree) {v : Value}
    (hj : h.readJson path = .ok v) : h'.readJson path = .ok v ∨ h'.isFile path = .ok false := by
  obtain ⟨bytes, hb⟩ := exists_readBytes_of_readJson hj
  obtain ⟨p, m, hs⟩ := readBytes_eq_ok_iff.mp hb
  rcases stat_of_thinner hcwd ht hs with hsame | hmissing
  · exact .inl ((readJson_congr (readBytes_congr (hsame.trans hs.symm))).trans hj)
  · right
    unfold isFile probe
    rw [hmissing]

/-! ## 3. Removing a directory -/

/-- A host without the directory that a path leads to, if it leads to one. -/
def emptied (h : Host) (path : String) : Host :=
  match h.locate false path with
  | .ok (.at p n) => if n.isDirectory then { h with tree := h.tree.without p } else h
  | _ => h

/-- Removing a tree does no more, as long as its path has names. -/
theorem removeTree_eq_emptied {path : Path} (hnames : path.names ≠ []) :
    (exec (FileOp.removeTree path) h).2 = h.emptied path.text := by
  have hsome : path.names.isEmpty = false := by simpa using hnames
  unfold FileOp.removeTree emptied
  rw [exec_bind, FileOp.exec_ask]
  cases h.locate false path.text with
  | error e => rfl
  | ok s =>
    cases s with
    | vacant dir n => rfl
    | «at» p n =>
      cases n with
      | file b m => rfl
      | dir m | shut m =>
        simp only [hsome]
        rfl
      | link target m =>
        simp only
        rw [exec_bind, FileOp.exec_ask]
        cases h.stat path.text <;> rfl

/-- A directory goes, or nothing does. -/
theorem emptied_cases (h : Host) (path : String) :
    (∃ p n, h.locate false path = .ok (.at p n) ∧ n.isDirectory = true ∧
        h.emptied path = { h with tree := h.tree.without p }) ∨ h.emptied path = h := by
  unfold emptied
  split
  · rename_i p n hl
    cases hdir : n.isDirectory with
    | true => exact .inl ⟨p, n, hl, hdir, rfl⟩
    | false => exact .inr rfl
  · exact .inr rfl

theorem cwd_emptied : (h.emptied path).cwd = h.cwd := by
  rcases emptied_cases h path with ⟨p, n, -, -, he⟩ | he <;> rw [he]

theorem now_emptied : (h.emptied path).now = h.now := by
  rcases emptied_cases h path with ⟨p, n, -, -, he⟩ | he <;> rw [he]

theorem thinner_emptied : (h.emptied path).tree.Thinner h.tree := by
  rcases emptied_cases h path with ⟨p, n, -, -, he⟩ | he
  · rw [he]
    exact thinner_without _ _
  · rw [he]
    exact fun _ _ hn => hn

/-- **A second removal changes nothing.** -/
theorem emptied_emptied : (h.emptied path).emptied path = h.emptied path := by
  rcases emptied_cases h path with ⟨p, n, hl, -, hgone⟩ | hkept
  · have htwice : (h.tree.without p).without p = h.tree.without p := by simp [without, List.filter_filter]
    rcases locate_of_thinner cwd_emptied thinner_emptied hl with hsame | hmissing | ⟨d, n, hvacant⟩
    · rw [emptied, hsame, hgone]
      simp only [htwice, ite_self]
    · rw [emptied, hmissing]
    · rw [emptied, hvacant]
  · rw [hkept, hkept]

end Host

end AgentLint
