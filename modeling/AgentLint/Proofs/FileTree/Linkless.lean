import AgentLint.Proofs.FileTree.ShortForm
import Mathlib.Data.List.Dedup

/-!
# Trees without links

In a tree without links a path stands for the place that its names spell, with two dots taken as one name back.
So resolving a path never fails for want of a node (`Linkless.exists_resolve`), what it gives is spelled with names
alone (`Linkless.exists_of_resolve`), and a file that is read under such a path is at that place
(`Linkless.node?_of_readBytes`).  `Host.files` are the places of files, of which there are finitely many.
-/

namespace AgentLint

/-! ## 1. Walking without links -/

namespace FileTree

variable {t : FileTree}

/-- A place whose names are names, and none of them two dots. -/
def Spelled (p : Place) : Prop := ∀ n ∈ p, Path.IsName n ∧ n ≠ ".."

theorem Spelled.nil : Spelled [] := fun _ hn => absurd hn List.not_mem_nil

theorem Spelled.dropLast {p : Place} (hp : Spelled p) : Spelled p.dropLast :=
  fun n hn => hp n (List.dropLast_subset p hn)

theorem Spelled.concat {p : Place} (hp : Spelled p) {n : String} (hn : Path.IsName n) (hup : n ≠ "..") :
    Spelled (p ++ [n]) := by
  intro m hm
  rcases List.mem_append.mp hm with hm | hm
  · exact hp m hm
  · rw [List.mem_singleton.mp hm]
    exact ⟨hn, hup⟩

theorem Spelled.plain {p : Place} (hp : Spelled p) : Plain p := fun n hn => ⟨(hp n hn).1.ne_dot, (hp n hn).2⟩

/-- Without links nothing leads around in a circle. -/
theorem walkNames_ne_links (hno : t.NoLinkBelow []) (follow : Bool)
    (onLink : Place → List String → Except Trouble Spot) :
    ∀ (names : List String) (here : Place), t.walkNames follow onLink here names ≠ .error .links
  | [], here => by
    rw [walkNames]
    split <;> simp
  | n :: rest, here => by
    rw [walkNames]
    split
    · exact walkNames_ne_links hno follow onLink rest here
    split
    · exact walkNames_ne_links hno follow onLink rest here.dropLast
    split
    · simp
    simp only
    cases hnode : t.node? (here ++ [n]) with
    | none => cases rest <;> simp
    | some node =>
      cases node with
      | file b m | shut m => cases rest <;> simp
      | dir m => exact walkNames_ne_links hno follow onLink rest (here ++ [n])
      | link target m => exact absurd hnode (hno _ target m List.nil_prefix)

theorem walk_ne_links (hno : t.NoLinkBelow []) (follow : Bool) (links : Nat) (here : Place)
    (names : List String) : t.walk follow links here names ≠ .error .links := by
  cases links with
  | zero => exact walkNames_ne_links hno follow _ names here
  | succ links => exact walkNames_ne_links hno follow _ names here

end FileTree

open FileTree (Spelled)

namespace Host

/-- A host without links, whose current directory is a place that can be spelled. -/
structure Linkless (h : Host) : Prop where
  noLink : h.tree.NoLinkBelow []
  cwd : Spelled h.cwd

variable {h : Host} {path f : Path}

theorem Linkless.locate_ne_links (hl : h.Linkless) (follow : Bool) (text p : String) :
    h.locate follow text ≠ .error (.trouble .links p) := by
  intro hlocate
  unfold locate at hlocate
  split at hlocate
  · rename_i hrefused
    cases hlocate
    cases fromSystem_of_refusal? hrefused
  simp only at hlocate
  split at hlocate
  · cases hlocate
  split at hlocate
  · cases hlocate
  revert hlocate
  generalize (if text.startsWith "/" then [] else h.cwd) = start
  have hwalk := FileTree.walk_ne_links hl.noLink follow mostLinks start (rawNames text)
  cases hw : h.tree.walk follow mostLinks start (rawNames text) with
  | ok s => exact nofun
  | error e =>
    intro he
    cases he
    exact hwalk hw

/-! ## 2. Resolving without links -/

/-- Names lead from one place that can be spelled to another, and never into a circle. -/
theorem spelled_resolveAux {t : FileTree} (hno : t.NoLinkBelow []) :
    ∀ (names : List String) (fuel : Nat) (here : Place) (seen : Opened), names.length < fuel →
      Spelled here → (∀ n ∈ names, Path.IsName n) →
        Spelled (resolveAux t fuel here names seen).1 ∧ (resolveAux t fuel here names seen).2.1 = true
  | [], fuel + 1, here, seen, _, hhere, _ => by
    rw [resolveAux]
    exact ⟨hhere, rfl⟩
  | n :: names, fuel + 1, here, seen, hfuel, hhere, hnames => by
    have hn := hnames n List.mem_cons_self
    have hrest := fun m hm => hnames m (List.mem_cons_of_mem n hm)
    have hfuel' : names.length < fuel := Nat.lt_of_succ_lt_succ hfuel
    rw [resolveAux, if_neg hn.ne_dot]
    split
    · exact spelled_resolveAux hno names fuel here.dropLast seen hfuel' hhere.dropLast hrest
    · rename_i hup
      simp only
      split
      · rename_i target m hlink
        exact absurd hlink (hno _ target m List.nil_prefix)
      · exact spelled_resolveAux hno names fuel (here ++ [n]) seen hfuel' (hhere.concat hn hup) hrest

theorem Linkless.spelled_opened (hl : h.Linkless) {names : List String} (hnames : ∀ n ∈ names, Path.IsName n) :
    Spelled (h.opened path names).1 ∧ (h.opened path names).2 = true := by
  have hstart : Spelled (if path.isAbsolute then [] else h.cwd) := by
    split
    · exact .nil
    · exact hl.cwd
  have hfuel : names.length < resolveFuel h.tree names := by
    unfold resolveFuel
    omega
  exact spelled_resolveAux hl.noLink names _ _ [] hfuel hstart hnames

theorem isName_sayable (hp : path.Proper) : ∀ n ∈ sayable path, Path.IsName n :=
  fun n hn => hp.isName n (List.takeWhile_subset _ hn)

/-- **What a path is resolved to** is spelled from the root. -/
theorem Linkless.exists_of_resolve (hl : h.Linkless) (hp : path.Proper) (hr : h.resolve path = .ok f) :
    ∃ p, f = ⟨1, p⟩ ∧ Spelled p := by
  obtain ⟨hspelled, hwhole⟩ : Spelled (h.opened path path.names).1 ∧ (h.opened path path.names).2 = true :=
    hl.spelled_opened hp.isName
  unfold resolve at hr
  simp only [hwhole, (hl.spelled_opened (isName_sayable hp)).2, if_true] at hr
  split at hr
  · cases hr
  split at hr
  · cases hr
  · cases hr
    exact ⟨_, rfl, hspelled⟩

/-- All names of a path can be said that is not refused. -/
theorem sayable_eq (hsay : refusal? path.text = none) : sayable path = path.names := by
  refine List.takeWhile_eq_self_iff.mpr fun n hn => ?_
  rw [(refusal?_text_eq_none_iff path).mp hsay n hn]
  rfl

/-- Every path can be resolved that a file system takes. -/
theorem Linkless.exists_resolve (hl : h.Linkless) (hp : path.Proper) (hsay : refusal? path.text = none) :
    ∃ f, h.resolve path = .ok f := by
  unfold resolve
  simp only [sayable_eq hsay, (hl.spelled_opened hp.isName).2, if_true,
    List.take_of_length_le (Nat.le_succ path.names.length), hsay]
  split
  · rename_i p hlinks
    exact absurd hlinks (hl.locate_ne_links true _ p)
  · exact ⟨_, rfl⟩

/-- The path of a file can be resolved. -/
theorem Linkless.exists_resolve_of_isFile (hl : h.Linkless) (hp : path.Proper) (hf : h.isFile path.text = .ok true) :
    ∃ f, h.resolve path = .ok f := by
  refine hl.exists_resolve hp ?_
  cases hsay : refusal? path.text with
  | none => rfl
  | some e =>
    have hsystem := fromSystem_of_refusal? hsay
    rw [isFile, probe, stat_of_refusal? hsay] at hf
    cases e with
    | trouble | moving | notATree | linkedTree => cases hsystem
    | circle | nullByte | encoding | noHome => cases hf

/-! ## 3. Places of files -/

/-- A file that is read under a path that is spelled from the root is at that place. -/
theorem Linkless.node?_of_readBytes (hl : h.Linkless) {p : Place} (hp : Spelled p) {bytes : List UInt8}
    (hr : h.readBytes (Path.text ⟨1, p⟩) = .ok bytes) : ∃ m, h.tree.node? p = some (.file bytes m) := by
  have hproper : Path.Proper ⟨1, p⟩ := ⟨Nat.le_succ 1, fun n hn => (hp n hn).1⟩
  have hspelled : h.land true ⟨1, p⟩ = some p :=
    FileTree.landNames_of_plain hl.noLink true _ p [] hp.plain (List.prefix_refl [])
  obtain ⟨q, m, hstat⟩ := readBytes_eq_ok_iff.mp hr
  obtain ⟨hland, hnode⟩ := land_of_locate hproper (locate_of_stat hstat)
  rw [hspelled, Option.some.injEq] at hland
  exact ⟨m, hland ▸ hnode⟩

/-- The places of files. -/
def files (h : Host) : List Place :=
  (Assoc.keys h.tree).dedup.filter fun p =>
    match h.tree.node? p with
    | some (.file ..) => true
    | _ => false

theorem mem_files {p : Place} {bytes : List UInt8} {m : Int} (hp : h.tree.node? p = some (.file bytes m)) :
    p ∈ h.files := by
  have hne : p ≠ [] := by
    rintro rfl
    cases hp
  have hkey : p ∈ Assoc.keys h.tree := by
    rw [FileTree.node?_of_ne_nil _ hne] at hp
    exact List.mem_map.mpr ⟨_, Assoc.mem_of_get? hp, rfl⟩
  rw [files, List.mem_filter, List.mem_dedup, hp]
  exact ⟨hkey, rfl⟩

theorem length_files_le (h : Host) : h.files.length ≤ h.tree.length := by
  calc h.files.length ≤ (Assoc.keys h.tree).dedup.length := List.length_filter_le _ _
    _ ≤ (Assoc.keys h.tree).length := (List.dedup_sublist _).length_le
    _ = h.tree.length := List.length_map _

end Host

end AgentLint
