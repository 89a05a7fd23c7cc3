import AgentLint.Proofs.Config.Extending
import AgentLint.Proofs.FileTree.Linkless
import AgentLint.Proofs.Json.Reading
import Mathlib.Data.List.Perm.Subperm
import Mathlib.Logic.Relation

/-!
# Which files can be loaded

Loading goes down along the files that a file extends, and nothing in the files themselves says that this ends.
What ends it is the chain of files that led to a call: it never has a file twice (`Chain`), so it is not longer than
there are files.  Hence loading is the same however deeper calls would be answered (`loadWithin_eq`).

A file can be loaded exactly if every file that it leads to is sound by itself and no file there leads back to
itself.  One direction is an induction on the depth of the calls: what is loaded is accessible along `Extends`
(`acc_of_loadAux`).  The other one is an induction on how many files are not in the chain yet: each file of the chain
leads to the one that is loaded, so without a circle that one is new (`exists_loadAux`).

All that is with ample room for calls.  With less room fewer files are loaded, but none of them otherwise
(`load_of_room`).
-/

namespace AgentLint

namespace Config

open Relation (ReflTransGen TransGen)

variable {h : Host} {path f : Path} {chain : List Path}

/-! ## 1. Chains -/

/-- Files that led to one another: none is there twice, and each of them is in the tree. -/
structure Chain (h : Host) (chain : List Path) : Prop where
  nodup : chain.Nodup
  files : chain ⊆ h.files.map (Path.mk 1)

theorem Chain.nil (h : Host) : Chain h [] := ⟨List.nodup_nil, List.nil_subset _⟩

/-- A chain is not longer than there are files. -/
theorem Chain.length_le (hc : Chain h chain) : chain.length ≤ h.files.length := by
  have hle := (List.subperm_of_subset hc.nodup hc.files).length_le
  rwa [List.length_map] at hle

/-- A file that is new and readable goes on with a chain. -/
theorem Chain.concat (hc : Chain h chain) (hl : h.Linkless) (hp : path.Proper) (hf : h.resolve path = .ok f)
    (hnew : f ∉ chain) {es : Entries} (hr : readFields h f = .ok es) : Chain h (chain ++ [f]) := by
  constructor
  · rw [List.nodup_append]
    refine ⟨hc.nodup, List.nodup_singleton f, fun g hg g' hg' => ?_⟩
    rw [List.mem_singleton.mp hg']
    rintro rfl
    exact hnew hg
  · obtain ⟨p, rfl, hspelled⟩ := hl.exists_of_resolve hp hf
    obtain ⟨bytes, -, hbytes, -⟩ := readFields_eq_ok_iff.mp hr
    obtain ⟨m, hnode⟩ := hl.node?_of_readBytes hspelled hbytes
    intro g hg
    rcases List.mem_append.mp hg with hg | hg
    · exact hc.files hg
    · rw [List.mem_singleton.mp hg]
      exact List.mem_map.mpr ⟨p, Host.mem_files hnode, rfl⟩

/-- What is resolved in a tree without links is a proper path. -/
theorem proper_of_resolve (hl : h.Linkless) (hp : path.Proper) (hf : h.resolve path = .ok f) : f.Proper := by
  obtain ⟨p, rfl, hspelled⟩ := hl.exists_of_resolve hp hf
  exact ⟨Nat.le_succ 1, fun n hn => (hspelled n hn).1⟩

/-! ## 2. Loading ends -/

/-- Loads a file with calls that are nested `depth` deep at most; `cut` answers those that lie deeper. -/
def loadWithin (h : Host) (cut : Path → List Path → Except Fault Loaded) :
    (depth : Nat) → Path → List Path → Except Fault Loaded
  | 0 => cut
  | depth + 1 => loadStep h .ample (loadWithin h cut depth)

theorem loadAux_eq_loadWithin (h : Host) : ∀ fuel : Nat, loadAux h .ample fuel =
    loadWithin h (fun path chain => .error (.config (.cycle ((chain ++ [path]).map Path.text)))) fuel
  | 0 => by
    funext path chain
    rfl
  | fuel + 1 => by rw [loadAux_succ, loadAux_eq_loadWithin h fuel, loadWithin]

/-- **Calls that lie deeper than there are files are never made**: it does not matter what they would answer. -/
theorem loadWithin_eq (hl : h.Linkless) {cut cut' : Path → List Path → Except Fault Loaded} :
    ∀ {depth depth' : Nat} {path : Path} {chain : List Path}, path.Proper → Chain h chain →
      h.files.length < depth + chain.length → h.files.length < depth' + chain.length →
        loadWithin h cut depth path chain = loadWithin h cut' depth' path chain
  | 0, _, _, _, _, hc, hdepth, _ => by
    have hle := hc.length_le
    omega
  | _ + 1, 0, _, _, _, hc, _, hdepth' => by
    have hle := hc.length_le
    omega
  | depth + 1, depth' + 1, path, chain, hp, hc, hdepth, hdepth' => by
    rw [loadWithin, loadWithin]
    refine loadStep_congr fun f es s hf hnew hr => ?_
    have hparent : (f.parent.join (Path.ofString s)).Proper :=
      (proper_of_resolve hl hp hf).parent.join (Path.proper_ofString s)
    have hlonger : (chain ++ [f]).length = chain.length + 1 := List.length_append
    exact loadWithin_eq hl hparent (hc.concat hl hp hf hnew hr) (by omega) (by omega)

/-! ## 3. What is loaded -/

/-- What is accessible does not lead back to itself. -/
theorem not_transGen_of_acc {r : Path → Path → Prop} {f : Path} (hacc : Acc (fun g f => r f g) f) :
    ¬ TransGen r f f := by
  induction hacc with
  | intro f _ ih =>
    intro hcircle
    obtain ⟨g, hfg, hgf⟩ := TransGen.head'_iff.mp hcircle
    exact ih g hfg (TransGen.tail' hgf hfg)

/-- What is loaded leads to sound files only, and down to files that extend nothing. -/
theorem acc_of_loadAux : ∀ (fuel : Nat) (path : Path) (chain : List Path) (r : Loaded),
    loadAux h .ample fuel path chain = .ok r → ∃ f, h.resolve path = .ok f ∧ Acc (fun g f => Extends h f g) f ∧
      ∀ g, ReflTransGen (Extends h) f g → Sound h g
  | 0, _, _, _, hr => by cases hr
  | fuel + 1, path, chain, r, hr => by
    rw [loadAux_succ] at hr
    obtain ⟨f, hf, -, hs, rs, hrs, -⟩ := loadStep_eq_ok_iff.mp hr
    have hnext : ∀ g, Extends h f g → Acc (fun g f => Extends h f g) g ∧
        ∀ g', ReflTransGen (Extends h) g g' → Sound h g' := by
      rintro g ⟨p, hp, hg⟩
      obtain ⟨r', hr'⟩ := exists_forall₂_iff.mp ⟨rs, hrs⟩ p hp
      obtain ⟨g', hg', hbelow⟩ := acc_of_loadAux fuel p _ r' hr'
      obtain rfl := Except.ok.inj (hg.symm.trans hg')
      exact hbelow
    refine ⟨f, hf, ⟨_, fun g hg => (hnext g hg).1⟩, fun g hg => ?_⟩
    rcases ReflTransGen.cases_head hg with rfl | ⟨m, hfm, hmg⟩
    · exact hs
    · exact (hnext m hfm).2 g hmg

/-- Whatever a sound file extends can be resolved in a tree without links. -/
theorem Sound.exists_resolve (hs : Sound h f) (hl : h.Linkless) (hf : f.Proper) {p : Path}
    (hp : p ∈ parentPaths h f) : p.Proper ∧ ∃ g, h.resolve p = .ok g := by
  obtain ⟨e, he, rfl⟩ := List.mem_map.mp hp
  obtain ⟨s, rfl, -, hfile⟩ := hs.entries e he
  have hproper : (f.parent.join (Path.ofString s)).Proper := hf.parent.join (Path.proper_ofString s)
  exact ⟨hproper, hl.exists_resolve_of_isFile hproper hfile⟩

/-- **What leads to sound files only, and never back, is loaded**, whatever led there. -/
theorem exists_loadAux (hl : h.Linkless) : ∀ {fuel : Nat} {path f : Path} {chain : List Path},
    path.Proper → Chain h chain → h.files.length < fuel + chain.length → h.resolve path = .ok f →
      (∀ c ∈ chain, TransGen (Extends h) c f) →
        (∀ g, ReflTransGen (Extends h) f g → Sound h g ∧ ¬ TransGen (Extends h) g g) →
          ∃ r, loadAux h .ample fuel path chain = .ok r
  | 0, _, _, _, _, hc, hfuel, _, _, _ => by
    have hle := hc.length_le
    omega
  | fuel + 1, path, f, chain, hp, hc, hfuel, hf, hled, hreach => by
    obtain ⟨hs, hcircle⟩ := hreach f .refl
    have hnew : f ∉ chain := fun hmem => hcircle (hled f hmem)
    have hlonger : (chain ++ [f]).length = chain.length + 1 := List.length_append
    have hchain : Chain h (chain ++ [f]) := hc.concat hl hp hf hnew hs.readFields_eq
    have hnext : ∀ p ∈ parentPaths h f, ∃ r, loadAux h .ample fuel p (chain ++ [f]) = .ok r := fun p hmem => by
      obtain ⟨hparent, g, hg⟩ := hs.exists_resolve hl (proper_of_resolve hl hp hf) hmem
      have hfg : Extends h f g := ⟨_, hmem, hg⟩
      refine exists_loadAux hl hparent hchain (by omega) hg (fun c hc => ?_) fun g' hg' => hreach g' (.head hfg hg')
      rcases List.mem_append.mp hc with hc | hc
      · exact (hled c hc).tail hfg
      · rw [List.mem_singleton.mp hc]
        exact .single hfg
    obtain ⟨rs, hrs⟩ := exists_forall₂_iff.mpr hnext
    exact ⟨_, by rw [loadAux_succ, loadStep_eq_ok_iff]; exact ⟨f, hf, hnew, hs, rs, hrs, rfl⟩⟩

/-! ## 4. Loading a file -/

/-- **Loading ends, and succeeds exactly on sound files without circles.**  In a tree without links calls are not
nested deeper than there are files, whatever they would answer there; and a configuration comes out exactly if every
file that is reached is sound by itself and none of them leads back to itself. -/
theorem load_ends_and_succeeds_iff (hl : h.Linkless) (hp : path.Proper) :
    (∀ cut, load h path = (loadWithin h cut (h.files.length + 1) path []).map Prod.fst) ∧
      ((∃ c, load h path = .ok c) ↔ ∃ root, h.resolve path = .ok root ∧
        (∀ f, ReflTransGen (Extends h) root f → Sound h f) ∧
        ∀ f, ReflTransGen (Extends h) root f → ¬ TransGen (Extends h) f f) := by
  have hfuel : h.files.length < h.tree.length + 2 := by
    have hle := h.length_files_le
    omega
  have hload : ∀ c, load h path = .ok c ↔ ∃ r, loadAux h .ample (h.tree.length + 2) path [] = .ok r ∧ r.1 = c := by
    intro c
    unfold load
    generalize loadAux h .ample (h.tree.length + 2) path [] = outcome
    cases outcome with
    | error e => exact ⟨nofun, fun ⟨_, hr, _⟩ => nomatch hr⟩
    | ok r =>
      constructor
      · intro hc
        exact ⟨r, rfl, Except.ok.inj hc⟩
      · rintro ⟨_, hr, rfl⟩
        cases hr
        rfl
  refine ⟨fun cut => ?_, ?_, ?_⟩
  · have hdepth : h.files.length < h.files.length + 1 + ([] : List Path).length := Nat.lt_succ_self _
    rw [load, loadAux_eq_loadWithin]
    exact congrArg (Except.map Prod.fst) (loadWithin_eq hl hp (.nil h) hfuel hdepth)
  · rintro ⟨c, hc⟩
    obtain ⟨r, hr, -⟩ := (hload c).mp hc
    obtain ⟨root, hroot, hacc, hsound⟩ := acc_of_loadAux _ path [] r hr
    refine ⟨root, hroot, hsound, fun f hf => not_transGen_of_acc ?_⟩
    induction hf with
    | refl => exact hacc
    | tail _ hstep ih => exact ih.inv hstep
  · rintro ⟨root, hroot, hsound, hcircle⟩
    obtain ⟨r, hr⟩ := exists_loadAux hl hp (.nil h) hfuel hroot nofun fun g hg => ⟨hsound g hg, hcircle g hg⟩
    exact ⟨r.1, (hload r.1).mpr ⟨r, hr, rfl⟩⟩

/-- A file that is reached on two ways is no circle. -/
theorem load_diamond_succeeds :
    diamond.Linkless ∧ (Path.ofString "a.json").Proper ∧ (∃ c, load diamond (.ofString "a.json") = .ok c) ∧
      ∃ root, diamond.resolve (.ofString "a.json") = .ok root ∧
        (∀ f, ReflTransGen (Extends diamond) root f → Sound diamond f) ∧
        ∀ f, ReflTransGen (Extends diamond) root f → ¬ TransGen (Extends diamond) f f := by
  have hl : diamond.Linkless := by
    refine ⟨fun q target m _ => ?_, FileTree.Spelled.nil⟩
    simp only [FileTree.node?, diamond, Assoc.get?]
    split_ifs <;> simp
  have hp : (Path.ofString "a.json").Proper := Path.proper_ofString "a.json"
  obtain ⟨c, hc, -⟩ := Option.map_eq_some_iff.mp load_diamond_shows
  have hends : ∃ c, load diamond (.ofString "a.json") = .ok c := ⟨c, eq_ok_of_toOption hc⟩
  exact ⟨hl, hp, hends, (load_ends_and_succeeds_iff hl hp).2.mp hends⟩

/-! ## 5. Less room for calls -/

section Room

variable {stack : Stack} {depth : Nat} (hroom : ∀ depth, Json.inUse ≤ stack.around depth)

include hroom

theorem readDocument_of_room {text : String} {v : Value} (hr : readDocument f text stack depth = .ok v) :
    readDocument f text = .ok v := by
  rw [readDocument_ample]
  unfold readDocument at hr
  by_cases hs : f.suffix = ".json"
  · rw [if_pos hs] at hr ⊢
    cases hb : Text.isBlankText text with
    | true =>
      rw [hb] at hr
      rw [if_pos rfl] at hr ⊢
      exact hr
    | false =>
      simp only [hb, Bool.false_eq_true, if_false] at hr ⊢
      cases hparse : Json.readInside (stack.around depth) text with
      | error r =>
        rw [hparse] at hr
        cases r <;> cases hr
      | ok w =>
        have hread : Json.read text = .ok w := Json.readInside_of_le (hroom depth) hparse
        rw [hparse] at hr
        rw [hread]
        exact hr
  · rw [if_neg hs] at hr ⊢
    split at hr
    · cases hr
    · exact hr

theorem readFields_of_room {es : Entries} (hr : readFields h f stack depth = .ok es) : readFields h f = .ok es := by
  unfold readFields at hr ⊢
  cases hread : h.readText f.text with
  | error d =>
    rw [hread] at hr
    cases d <;> cases hr
  | ok text =>
    rw [hread] at hr
    cases hdoc : readDocument f text stack depth with
    | error d =>
      simp only [hdoc] at hr
      cases hr
    | ok v =>
      simp only [hdoc] at hr
      simp only [readDocument_of_room hroom hdoc]
      exact hr

omit hroom in
theorem foldlM_of_room {next next' : Path → List Path → Except Fault Loaded} {source : String}
    (hnext : ∀ p r, next p chain = .ok r → next' p chain = .ok r) : ∀ {es : List Value} {acc r : Loaded},
    es.foldlM (fun (acc : Loaded) entry => do
        stack.demand depth (.entry entry)
        let parent ← parentPath h source f.parent entry
        let loaded ← next parent chain
        pure (acc.over loaded)) acc = .ok r →
      es.foldlM (fun (acc : Loaded) entry => do
        let parent ← parentPath h source f.parent entry
        let loaded ← next' parent chain
        pure (acc.over loaded)) acc = .ok r
  | [], acc, r, hr => hr
  | e :: es, acc, r, hr => by
    rw [List.foldlM_cons] at hr ⊢
    obtain ⟨acc', hone, hrest⟩ := bind_eq_ok_iff.mp hr
    obtain ⟨_, -, hone⟩ := bind_eq_ok_iff.mp hone
    obtain ⟨p, hp, hone⟩ := bind_eq_ok_iff.mp hone
    obtain ⟨loaded, hloaded, hone⟩ := bind_eq_ok_iff.mp hone
    refine bind_eq_ok_iff.mpr ⟨acc', bind_eq_ok_iff.mpr ⟨p, hp, ?_⟩, foldlM_of_room hnext hrest⟩
    exact bind_eq_ok_iff.mpr ⟨loaded, hnext p loaded hloaded, hone⟩

theorem loadAux_of_room : ∀ {fuel : Nat} {path : Path} {chain : List Path} {r : Loaded},
    loadAux h stack fuel path chain = .ok r → loadAux h .ample fuel path chain = .ok r
  | 0, _, _, _, hr => by cases hr
  | fuel + 1, path, chain, r, hr => by
    rw [loadAux_succ] at hr ⊢
    rw [loadStep_ample]
    obtain ⟨_, -, hr⟩ := bind_eq_ok_iff.mp hr
    obtain ⟨f, hf, hr⟩ := bind_eq_ok_iff.mp hr
    refine bind_eq_ok_iff.mpr ⟨f, hf, ?_⟩
    by_cases hmem : f ∈ chain
    · rw [if_pos hmem] at hr
      cases hr
    rw [if_neg hmem] at hr ⊢
    obtain ⟨_, -, hr⟩ := bind_eq_ok_iff.mp hr
    obtain ⟨es, hes, hr⟩ := bind_eq_ok_iff.mp hr
    obtain ⟨_, -, hr⟩ := bind_eq_ok_iff.mp hr
    obtain ⟨own, hown, hr⟩ := bind_eq_ok_iff.mp hr
    obtain ⟨extending, hx, hr⟩ := bind_eq_ok_iff.mp hr
    refine bind_eq_ok_iff.mpr ⟨es, readFields_of_room hroom hes, ?_⟩
    refine bind_eq_ok_iff.mpr ⟨own, hown, bind_eq_ok_iff.mpr ⟨extending, hx, ?_⟩⟩
    cases extending with
    | none => exact hr
    | some entries =>
      obtain ⟨parents, hparents, hr⟩ := bind_eq_ok_iff.mp hr
      refine bind_eq_ok_iff.mpr ⟨parents, foldlM_of_room (fun p r hp => ?_) hparents, hr⟩
      exact loadAux_of_room hp

/-- **What is loaded** where calls can be nested only so deep is what is loaded with ample room. -/
theorem load_of_room {c : Config} (hl : load h path stack = .ok c) : load h path = .ok c := by
  unfold load at hl ⊢
  obtain ⟨r, hr, hc⟩ := map_eq_ok_iff.mp hl
  exact map_eq_ok_iff.mpr ⟨r, loadAux_of_room hroom hr, hc⟩

end Room

end Config

end AgentLint
