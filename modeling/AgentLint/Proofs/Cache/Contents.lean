import AgentLint.Proofs.Cache.Directory

/-!
# What a cache holds

The directory of a cache holds an index and outcomes.  `Contents` is that without files and bytes: the version
and the entries of the index, and for each fingerprint the run whose outcome is stored.  `Stocked` relates the
two, and operations on the files do what small functions do to the contents.  Reading the index gives its entries
if they are of the right version, and otherwise may clear the outcomes away (`exec_loadIndex_stocked`); storing
adds a run or, if it fails, changes nothing that reading the index has not changed (`exec_storeEntry_stocked`).
-/

namespace AgentLint

-- Digests are compared but never computed here.
attribute [local irreducible] Sha256.hex

namespace Cache

/-! ## 1. Contents -/

/-- The same cache with another version. -/
def ofVersion (c : Cache) (version : String) : Cache := { c with version }

/-- A run whose outcome is stored: by a cache of which version, and when. -/
structure Deposit where
  /-- The version of the cache. -/
  version : String
  /-- The validator. -/
  name : String
  /-- The configuration. -/
  config : Option Config
  /-- What came out. -/
  outcome : Outcome
  /-- The files as they were. -/
  host : Host

namespace Deposit

/-- The files of a run in order, each once. -/
def files (x : Deposit) : List String := Order.sortedDistinct x.outcome.files

/-- What the fingerprint of a run condenses. -/
def material (c : Cache) (x : Deposit) : Except Fault String :=
  (c.ofVersion x.version).material x.host x.name x.config x.files

/-- The fingerprint of a run. -/
def mark (c : Cache) (x : Deposit) : String := Sha256.hex ((x.material c).toOption.getD "")

/-- Its entry in the index. -/
def entry (c : Cache) (x : Deposit) : CacheEntry :=
  ⟨x.mark c, secondsOf x.host.now, x.mark c ++ ".json", x.files⟩

/-- What is fetched of it: mended texts are dropped, and the files are in order. -/
def answer (x : Deposit) : Outcome := { x.outcome.unmended with files := x.files }

end Deposit

/-- An index, with its version, and outcomes by their fingerprints. -/
structure Contents where
  /-- The version and the entries of the index. -/
  index : Option (String × CacheIndex)
  /-- The runs whose outcomes are stored. -/
  payload : String → Option Deposit

namespace Contents

/-- Without outcomes. -/
def emptied (s : Contents) : Contents := { s with payload := fun _ => none }

/-- One outcome less. -/
def drop (m : String) (s : Contents) : Contents :=
  { s with payload := fun m' => if m' = m then none else s.payload m' }

/-- One outcome more, and a new index, given the entries that it had. -/
def write (c : Cache) (x : Deposit) (i : CacheIndex) (s : Contents) : Contents where
  index := some (x.version, Assoc.put x.name (x.entry c) i)
  payload m := if m = x.mark c then some x else s.payload m

/-- With one more run: it is written, and the outcome of the run that it replaces is dropped. -/
def add (c : Cache) (x : Deposit) (i : CacheIndex) (s : Contents) : Contents :=
  match Assoc.get? x.name i with
  | none => s.write c x i
  | some e => if e.fingerprint = x.mark c then s.write c x i else (s.write c x i).drop e.fingerprint

theorem index_add (c : Cache) (x : Deposit) (i : CacheIndex) (s : Contents) :
    (s.add c x i).index = some (x.version, Assoc.put x.name (x.entry c) i) := by
  unfold add
  split
  · rfl
  · split <;> rfl

theorem payload_add_self (c : Cache) (x : Deposit) (i : CacheIndex) (s : Contents) :
    (s.add c x i).payload (x.mark c) = some x := by
  unfold add
  split
  · exact if_pos rfl
  · split
    · exact if_pos rfl
    · rename_i hne
      simp only [drop, write, if_true]
      rw [if_neg fun he => hne he.symm]

/-- What becomes of the other outcomes. -/
theorem payload_add_of_ne {c : Cache} {x : Deposit} {i : CacheIndex} (s : Contents) {m : String}
    (hm : m ≠ x.mark c) :
    (s.add c x i).payload m =
      if ∃ e, Assoc.get? x.name i = some e ∧ e.fingerprint = m then none else s.payload m := by
  unfold add
  split
  · rename_i hnone
    simp only [write, if_neg hm, hnone]
    rw [if_neg (by rintro ⟨e, he, -⟩; cases he)]
  · rename_i e hsome
    have hexists : (∃ e', Assoc.get? x.name i = some e' ∧ e'.fingerprint = m) ↔ m = e.fingerprint := by
      rw [hsome]
      exact ⟨fun ⟨e', he', hfp⟩ => (Option.some.inj he') ▸ hfp.symm, fun he => ⟨e, rfl, he.symm⟩⟩
    split
    · rename_i hmark
      simp only [write, if_neg hm]
      rw [if_neg fun hold => hm ((hexists.mp hold).trans hmark)]
    · simp only [drop, write, if_neg hm, hexists]

/-- The data that is stored reads back. -/
structure Rereads (s : Contents) : Prop where
  index : ∀ v i, s.index = some (v, i) → Json.Rereads (CacheIndex.toValue v i)
  payload : ∀ t x, s.payload (Sha256.hex t) = some x → Json.Rereads x.outcome.toValue

/-- What the index is read as: its version and its entries. -/
def Found (s : Contents) (version : String) (i : CacheIndex) : Prop :=
  ∃ v i₀, s.index = some (v, i₀) ∧ CacheIndex.Shows v i₀ version i

/-- No outcome of this version is stored. -/
def Spent (version : String) (s : Contents) : Prop :=
  ∀ i, s.Found version i → ∀ t, s.payload (Sha256.hex t) = none

/-- What reading leaves: everything, or no outcomes if there are none of this version. -/
def Spared (version : String) (s s' : Contents) : Prop := s' = s ∨ (s' = s.emptied ∧ s.Spent version)

/-- What reading the index gives, and what it leaves: the entries, if they are of this version; if not, or if it
is not found, none, and no outcomes. -/
def Loaded (version : String) (s : Contents) (i : CacheIndex) (s' : Contents) : Prop :=
  (s.Found version i ∧ s' = s) ∨ (i = [] ∧ s' = s.emptied ∧ s.Spent version)

theorem Loaded.spared {version : String} {s s' : Contents} {i : CacheIndex} (hl : s.Loaded version i s') :
    s.Spared version s' := by
  rcases hl with ⟨-, rfl⟩ | ⟨-, rfl, hspent⟩
  · exact .inl rfl
  · exact .inr ⟨rfl, hspent⟩

theorem Found.unique {version version' : String} {s : Contents} {i i' : CacheIndex} (h : s.Found version i)
    (h' : s.Found version' i') : version = version' ∧ i = i' := by
  obtain ⟨v, i₀, hi₀, hshows⟩ := h
  obtain ⟨v', i₀', hi₀', hshows'⟩ := h'
  cases hi₀.symm.trans hi₀'
  exact hshows.unique hshows'

/-- An index that reads back is read as it was written, entries in order. -/
theorem Rereads.found_iff {version : String} {s : Contents} {i : CacheIndex} (hre : s.Rereads)
    (hnd : ∀ v i, s.index = some (v, i) → (Assoc.keys i).Nodup) :
    s.Found version i ↔ ∃ i₀, s.index = some (version, i₀) ∧ i = i₀.arranged := by
  constructor
  · rintro ⟨v, i₀, hi₀, hshows⟩
    obtain ⟨rfl, rfl⟩ := hshows.unique (CacheIndex.shows_of_rereads (hnd v i₀ hi₀) (hre.index v i₀ hi₀))
    exact ⟨i₀, hi₀, rfl⟩
  · rintro ⟨i₀, hi₀, rfl⟩
    exact ⟨version, i₀, hi₀, CacheIndex.shows_of_rereads (hnd version i₀ hi₀) (hre.index version i₀ hi₀)⟩

end Contents

/-- An index with one entry for each name, that name files as the cache does. -/
structure Tidy (i : CacheIndex) : Prop where
  nodup : (Assoc.keys i).Nodup
  named : ∀ name e, Assoc.get? name i = some e → ∃ t,
    e.fingerprint = Sha256.hex t ∧ e.resultFile = Sha256.hex t ++ ".json"

theorem Tidy.nil : Tidy [] := ⟨List.nodup_nil, nofun⟩

theorem Tidy.arranged {i : CacheIndex} (hi : Tidy i) : Tidy i.arranged := by
  refine ⟨CacheIndex.nodup_arranged hi.nodup, fun name e he => hi.named name e ?_⟩
  rwa [CacheIndex.get?_arranged hi.nodup] at he

/-- An index that is read names files as the one that was written. -/
theorem Tidy.putAll {i bs : CacheIndex} (hi : Tidy i) (hl : CacheIndex.Likeness i bs) :
    Tidy (Assoc.putAll [] bs) := by
  refine ⟨Assoc.nodup_keys_putAll (t := []) List.nodup_nil bs, fun name e he => ?_⟩
  obtain ⟨a, ha, -, hres⟩ := exists_of_mem_forall₂ hl (Assoc.mem_of_get?_putAll he)
  obtain ⟨t, hfp, hfile⟩ := hi.named a.1 a.2 (Assoc.get?_of_mem hi.nodup ha)
  have hsafe := Sha256.safeText_hex t
  refine ⟨t, ?_, ?_⟩
  · rw [hres.fingerprint, hfp, Text.joined_of_whole (Text.whole_of_safe hsafe)]
  · rw [hres.resultFile, hfile, Text.joined_of_whole (Text.whole_of_safe (hsafe.append (by decide)))]

/-- What is found of such an index. -/
theorem Contents.Found.tidy {s : Contents} {v : String} {i : CacheIndex} (hfound : s.Found v i)
    (hs : ∀ v i, s.index = some (v, i) → Tidy i) : Tidy i := by
  obtain ⟨v₀, i₀, hi₀, hshows⟩ := hfound
  obtain ⟨bs, hlike, hshows'⟩ := CacheIndex.exists_shows v₀ i₀
  rw [(hshows.unique hshows').2]
  exact (hs v₀ i₀ hi₀).arranged.putAll hlike

theorem Tidy.put {i : CacheIndex} (hi : Tidy i) (c : Cache) (x : Deposit) :
    Tidy (Assoc.put x.name (x.entry c) i) := by
  refine ⟨Assoc.nodup_keys_put hi.nodup _ _, fun name e he => ?_⟩
  rw [Assoc.get?_put] at he
  split at he
  · cases he
    exact ⟨_, rfl, rfl⟩
  · exact hi.named name e he

/-- A file at a place holds a value as JSON; or there is no file. -/
def Held (h : Host) (q : Place) : Option Value → Prop
  | none => ∀ bytes m, h.tree.node? q ≠ some (.file bytes m)
  | some v => ∃ text m, Json.writePretty v = .ok text ∧ h.tree.node? q = some (.file (Utf8.encode text) m)

theorem Held.congr {h h' : Host} {q : Place} {o : Option Value} (hh : Held h q o) (hs : SameFile h h' q) :
    Held h' q o := by
  cases o with
  | none => exact fun bytes m hm => hh bytes m ((hs bytes m).mp hm)
  | some v =>
    obtain ⟨text, m, hw, hm⟩ := hh
    exact ⟨text, m, hw, (hs _ _).mpr hm⟩

theorem Held.exists_of_file {h : Host} {q : Place} {o : Option Value} (hh : Held h q o) {bytes : List UInt8}
    {m : Int} (hm : h.tree.node? q = some (.file bytes m)) :
    ∃ v text, o = some v ∧ Json.writePretty v = .ok text ∧ bytes = Utf8.encode text := by
  cases o with
  | none => exact absurd hm (hh bytes m)
  | some v =>
    obtain ⟨text, m', hw, hm'⟩ := hh
    cases hm.symm.trans hm'
    exact ⟨v, text, rfl, hw, rfl⟩

theorem held_none_of_vacant {h : Host} {q : Place} (hq : h.tree.node? q = none) : Held h q none := by
  intro bytes m hm
  rw [hq] at hm
  cases hm

/-- The place of the index. -/
def indexPlace (d : Place) : Place := d ++ ["index.json"]

/-- The place of an outcome. -/
def payloadPlace (d : Place) (mark : String) : Place := d ++ ["files", mark ++ ".json"]

/-- There is no file in the directory but the index and outcomes. -/
def OnlyStock (d : Place) (h : Host) : Prop :=
  ∀ q bytes m, d <+: q → h.tree.node? q = some (.file bytes m) →
    q = indexPlace d ∨ ∃ t, q = payloadPlace d (Sha256.hex t)

theorem OnlyStock.of_noNewFile {d : Place} {h h' : Host} (ho : OnlyStock d h)
    (hnew : ∀ q, q ≠ indexPlace d → (∀ t, q ≠ payloadPlace d (Sha256.hex t)) → NoNewFile h h' q) :
    OnlyStock d h' := by
  intro q bytes m hq hm
  by_contra hnot
  simp only [not_or, not_exists] at hnot
  exact absurd (ho q bytes m hq (hnew q hnot.1 hnot.2 bytes m hm)) (by simpa using hnot)

theorem onlyStock_of_vacant {d : Place} {h : Host} (hv : Vacant h d) : OnlyStock d h := by
  intro q bytes m hq hm
  rw [hv q hq] at hm
  cases hm

/-- The directory holds these contents.  Outcomes are there only together with an index, and only if they can be
reached. -/
structure Stocked (c : Cache) (d : Place) (s : Contents) (h : Host) : Prop where
  shelf : Shelf c d h
  index : Held h (indexPlace d) (s.index.map fun x => CacheIndex.toValue x.1 x.2)
  payload : ∀ t, Held h (payloadPlace d (Sha256.hex t))
    ((s.payload (Sha256.hex t)).map fun x => x.outcome.toValue)
  only : OnlyStock d h
  tidy : ∀ v i, s.index = some (v, i) → Tidy i
  indexed : s.index = none → ∀ t, s.payload (Sha256.hex t) = none
  reach : ∀ t, s.payload (Sha256.hex t) ≠ none → h.Opens c.location d ∧ Roomy c

variable {c : Cache} {d : Place} {s s' : Contents} {h h' : Host} {ds : Option Diagnostics}
  {name : String} {config : Option Config}

theorem indexPlace_ne_payloadPlace (d : Place) (m : String) : indexPlace d ≠ payloadPlace d m := by
  intro he
  have hnames := List.append_cancel_left he
  simp at hnames

theorem payloadPlace_injective {d : Place} {m m' : String} (h : payloadPlace d m = payloadPlace d m') :
    m = m' := by
  have hnames := List.append_cancel_left h
  simpa [String.append_left_inj] using hnames

/-- Nothing that the cache reads ends as the files do that it writes first. -/
theorem json_ne_beside (a b : String) : a ++ ".json" ≠ b ++ ".json" ++ ".tmp" := by
  intro he
  have hlast := congrArg (fun s : String => s.toList.getLast?) he
  simp at hlast

theorem not_isFront_payload (n : String) : ¬ IsFront (["files"] ++ [n]) := by
  rintro (h | h) <;> simp at h

theorem not_isFront_index {n : String} (hn : n ≠ "files") : ¬ IsFront ([] ++ [n]) := by
  rintro (h | h)
  · simp at h
  · exact hn (by simpa using h)

/-! ## 2. Single files -/

/-- What is found of the directory of outcomes. -/
theorem Shelf.opens_location (hs : Shelf c d h) (hc : c.location.Proper)
    (ho : h.Opens (c.below ["files"]) (d ++ ["files"])) : h.Opens c.location d := by
  obtain ⟨m, hm⟩ := ho
  have hchild : c.below ["files"] = c.location.child "files" := rfl
  rw [hchild] at hm
  obtain ⟨p, hp⟩ := Host.exists_opens_parent hs.grounded hc fileName_files.isName hm
  have hp' : h.Opens (c.below []) p := by rwa [below_nil]
  have hd := hs.opens_of_opens hc isFront_nil hp'
  rwa [below_nil, List.append_nil] at hd

/-- The directory of the outcomes is there, and a value can be written. -/
def Receives (c : Cache) (d : Place) (h : Host) (v : Value) : Prop :=
  h.Opens (c.below ["files"]) (d ++ ["files"]) ∧ Roomy c ∧ ∃ text, Json.writePretty v = .ok text

/-- **Writing an outcome**, which does not fail if the directory is there and the outcome can be written. -/
theorem Shelf.exec_writePayload (hs : Shelf c d h) (hc : c.location.Proper) (t : String) (v : Value)
    (ds : Option Diagnostics) :
    ∃ r h', exec (writeJson (c.payloadPath (Sha256.hex t ++ ".json")) v) (c.on ds h) = (r, c.on ds h') ∧
      Tended c d h h' ∧ FileTree.Retains h.tree h'.tree ∧ SameFile h h' (indexPlace d) ∧
      (∀ t', Sha256.hex t' ≠ Sha256.hex t → SameFile h h' (payloadPlace d (Sha256.hex t'))) ∧
      (∀ q, q ≠ payloadPlace d (Sha256.hex t) → NoNewFile h h' q) ∧
      ((r = .ok () ∧ Held h' (payloadPlace d (Sha256.hex t)) (some v) ∧
          h'.Opens (c.below ["files"]) (d ++ ["files"]) ∧ Roomy c) ∨
        ((∃ e, r = .error e) ∧ SameFile h h' (payloadPlace d (Sha256.hex t)) ∧ ¬ Receives c d h v)) := by
  have hw := Sha256.word_hex t
  obtain ⟨r, h', hexec, ⟨rfl, text, htext, hwrote⟩ | ⟨he, htended, hretains, hsame, hnot⟩⟩ :=
    hs.exec_writeJson hc isFront_files hw.json hw.beside (not_isFront_payload _) (not_isFront_payload _) v ds
  · rw [payloadPath_eq]
    refine ⟨_, h', hexec, hwrote.tended, hwrote.retains, hwrote.others _ ?_ ?_, fun t' ht' => hwrote.others _ ?_ ?_,
      fun q hq => hwrote.noNewFile ?_, .inl ⟨rfl, ?_, hwrote.opens, t, hwrote.fits⟩⟩
    · simpa [payloadPlace] using indexPlace_ne_payloadPlace d (Sha256.hex t)
    · intro he
      rw [indexPlace, List.append_assoc] at he
      have hnames := List.append_cancel_left he
      simp at hnames
    · intro he
      rw [List.append_assoc] at he
      exact ht' (payloadPlace_injective he)
    · intro he
      rw [payloadPlace, List.append_assoc] at he
      have hnames := List.append_cancel_left he
      simp only [List.singleton_append, List.cons.injEq, and_true, true_and] at hnames
      exact json_ne_beside _ _ hnames
    · rw [List.append_assoc]
      exact hq
    · obtain ⟨m, hm⟩ := hwrote.file
      rw [List.append_assoc] at hm
      exact ⟨text, m, htext, hm⟩
  · rw [payloadPath_eq]
    exact ⟨r, h', hexec, htended, hretains, hsame _, fun _ _ => hsame _, fun q _ => (hsame q).noNewFile,
      .inr ⟨he, hsame _, fun ⟨ho, hr, hw⟩ => hnot ⟨ho, hr.beside t, hw⟩⟩⟩

/-- The directory of a value that is written can as well be made before. -/
theorem exec_writeJson_of_made {path : Path} (hp : path.parent.Proper) {h₁ : Host}
    (hmade : exec (FileOp.makeDirs path.parent) h = (.ok (), h₁)) {dir : Place} (hopens : h₁.Opens path.parent dir)
    (v : Value) (ds : Option Diagnostics) :
    exec (writeJson path v) (c.on ds h) = exec (writeJson path v) (c.on ds h₁) := by
  unfold writeJson
  rw [exec_bind, exec_onFiles, hmade, exec_bind, exec_onFiles, FileOp.exec_makeDirs_of_opens hp hopens]

/-- **Writing the index** does not fail where an outcome has been written. -/
theorem Shelf.exec_writeIndex (hs : Shelf c d h) (hc : c.location.Proper) (ho : h.Opens c.location d)
    (hr : Roomy c) (v : String) (i : CacheIndex) (ds : Option Diagnostics) :
    ∃ h', exec (writeJson c.indexPath (CacheIndex.toValue v i)) (c.on ds h) = (.ok (), c.on ds h') ∧
      Tended c d h h' ∧ FileTree.Retains h.tree h'.tree ∧
      Held h' (indexPlace d) (some (CacheIndex.toValue v i)) ∧
      (∀ m, SameFile h h' (payloadPlace d m)) ∧ ∀ q, q ≠ indexPlace d → NoNewFile h h' q := by
  have hpath : c.indexPath = c.below ([] ++ ["index.json"]) := rfl
  obtain ⟨r, h', hexec, ⟨rfl, text, htext, hwrote⟩ | ⟨-, -, -, -, hnot⟩⟩ :=
    hs.exec_writeJson hc isFront_nil word_index.json word_index.beside
      (not_isFront_index (by decide)) (not_isFront_index (by decide)) (CacheIndex.toValue v i) ds
  · refine ⟨h', hexec, hwrote.tended, hwrote.retains, ?_, fun m => hwrote.others _ ?_ ?_,
      fun q hq => hwrote.noNewFile (by rwa [List.append_nil])⟩
    · obtain ⟨m, hm⟩ := hwrote.file
      rw [List.append_nil] at hm
      exact ⟨text, m, htext, hm⟩
    · rw [List.append_nil]
      exact fun he => indexPlace_ne_payloadPlace d m he.symm
    · intro he
      rw [payloadPlace, List.append_nil] at he
      have hnames := List.append_cancel_left he
      simp at hnames
  · refine absurd ⟨?_, hr.indexBeside, CacheIndex.exists_writePretty v i⟩ hnot
    rwa [below_nil, List.append_nil]

/-- **Removing an outcome** does not fail where one has been written. -/
theorem Shelf.exec_unlinkPayload (hs : Shelf c d h) (hc : c.location.Proper)
    (ho : h.Opens (c.below ["files"]) (d ++ ["files"])) (hr : Roomy c) (t : String)
    (ds : Option Diagnostics) :
    ∃ h', exec (onFiles (FileOp.unlink (c.payloadPath (Sha256.hex t ++ ".json")).text)) (c.on ds h) =
        (.ok (), c.on ds h') ∧
      Tended c d h h' ∧ FileTree.Retains h.tree h'.tree ∧ SameFile h h' (indexPlace d) ∧
      Held h' (payloadPlace d (Sha256.hex t)) none ∧
      (∀ t', Sha256.hex t' ≠ Sha256.hex t → SameFile h h' (payloadPlace d (Sha256.hex t'))) ∧
      ∀ q, NoNewFile h h' q := by
  obtain ⟨h', hexec, htended, hretains, hnone, hsame⟩ :=
    hs.exec_unlink_file hc isFront_files (Sha256.word_hex t).json (not_isFront_payload _) ho (hr.payload t)
  have hplace : d ++ ["files"] ++ [Sha256.hex t ++ ".json"] = payloadPlace d (Sha256.hex t) := by
    simp [payloadPlace]
  rw [hplace] at hnone hsame
  refine ⟨h', ?_, htended, hretains, hsame _ (indexPlace_ne_payloadPlace d _), held_none_of_vacant hnone,
    fun t' ht' => hsame _ fun he => ht' (payloadPlace_injective he), fun q => ?_⟩
  · rw [payloadPath_eq, exec_onFiles]
    have hnames : (["files"] ++ [Sha256.hex t ++ ".json"] : List String) = ["files", Sha256.hex t ++ ".json"] := rfl
    rw [hnames] at hexec
    rw [hexec]
    rfl
  · by_cases hq : q = payloadPlace d (Sha256.hex t)
    · exact noNewFile_of_none (hq ▸ hnone)
    · exact (hsame q hq).noNewFile

/-! ## 3. Reading the index -/

/-- A file that can be reached is found. -/
theorem Shelf.stat_file (hs : Shelf c d h) (hc : c.location.Proper) {front : List String} (hf : IsFront front)
    (ho : h.Opens (c.below front) (d ++ front)) {n : String} (hn : FileName n)
    (hfits : Fits (c.below (front ++ [n])).text) {bytes : List UInt8} {m : Int}
    (hnode : h.tree.node? (d ++ front ++ [n]) = some (.file bytes m)) :
    h.stat (c.below (front ++ [n])).text = .ok (d ++ front ++ [n], .file bytes m) := by
  have hspot := hs.locate_file hc hf ho hn hfits true
  rw [FileTree.spotIn, hnode] at hspot
  rw [Host.stat, hspot]

/-- An index is found if it can be reached. -/
theorem Stocked.isFile_index (hs : Stocked c d s h) (hc : c.location.Proper) (ho : h.Opens c.location d)
    (hr : Roomy c) {x : String × CacheIndex} (hx : s.index = some x) :
    h.isFile (c.below ["index.json"]).text = .ok true := by
  have hheld := hs.index
  rw [hx] at hheld
  obtain ⟨text, m, -, hnode⟩ := hheld
  have hstat : h.stat (c.below ([] ++ ["index.json"])).text = _ := hs.shelf.stat_file hc isFront_nil
    (by rwa [below_nil, List.append_nil]) word_index.json hr.index (by rwa [List.append_nil])
  rw [List.nil_append] at hstat
  exact isFile_iff.mpr ⟨_, _, _, hstat⟩

/-- The directory of the outcomes is found if there is one in it. -/
theorem Stocked.locate_files (hs : Stocked c d s h) (hc : c.location.Proper) {t : String} {x : Deposit}
    (hx : s.payload (Sha256.hex t) = some x) (follow : Bool) :
    ∃ m, h.locate follow (c.below ["files"]).text = .ok (.at (d ++ ["files"]) (.dir m)) := by
  obtain ⟨ho, hr⟩ := hs.reach t (by simp [hx])
  have hheld := hs.payload t
  rw [hx] at hheld
  obtain ⟨text, m, -, hnode⟩ := hheld
  have hsplit : payloadPlace d (Sha256.hex t) = d ++ ["files"] ++ [Sha256.hex t ++ ".json"] := by
    simp [payloadPlace]
  rw [hsplit] at hnode
  obtain ⟨mdir, hdir⟩ := hs.shelf.grounded.tree _ _ (by rw [hnode]; simp)
  have hspot := hs.shelf.locate_file hc isFront_nil (by rwa [below_nil, List.append_nil]) fileName_files
    (hr.files hc) follow
  rw [List.append_nil, FileTree.spotIn, hdir] at hspot
  exact ⟨mdir, hspot⟩

/-- An outcome that is stored is read. -/
theorem Stocked.readBytes_payload (hs : Stocked c d s h) (hc : c.location.Proper) {t : String} {x : Deposit}
    (hx : s.payload (Sha256.hex t) = some x) :
    ∃ text, Json.writePretty x.outcome.toValue = .ok text ∧
      h.readBytes (c.below ["files", Sha256.hex t ++ ".json"]).text = .ok (Utf8.encode text) := by
  have hr := (hs.reach t (by simp [hx])).2
  have hheld := hs.payload t
  rw [hx] at hheld
  obtain ⟨text, m, hw, hnode⟩ := hheld
  have hsplit : payloadPlace d (Sha256.hex t) = d ++ ["files"] ++ [Sha256.hex t ++ ".json"] := by
    simp [payloadPlace]
  rw [hsplit] at hnode
  have hstat := hs.shelf.stat_file hc isFront_files (hs.locate_files hc hx true) (Sha256.word_hex t).json
    (hr.payload t) hnode
  have hnames : (["files"] ++ [Sha256.hex t ++ ".json"] : List String) = ["files", Sha256.hex t ++ ".json"] := rfl
  rw [hnames] at hstat
  exact ⟨text, hw, Host.readBytes_of_stat hstat⟩

/-- Contents without outcomes may as well be emptied. -/
theorem Stocked.emptied_of_none (hs : Stocked c d s h) (hnone : ∀ t, s.payload (Sha256.hex t) = none) :
    Stocked c d s.emptied h := by
  refine ⟨hs.shelf, hs.index, fun t => ?_, hs.only, hs.tidy, fun _ _ => rfl, fun t ht => absurd rfl ht⟩
  have hheld := hs.payload t
  rw [hnone t] at hheld
  exact hheld

theorem exec_discardPayloads (ds : Option Diagnostics) (h : Host) :
    exec discardPayloads (c.on ds h) =
      (.ok (), c.on ds (exec (FileOp.removeTree (c.below ["files"])) h).2) := by
  unfold discardPayloads
  rw [exec_bind, exec_get]
  simp only
  rw [exec_bind, exec_onFiles]
  rfl

/-- **Clearing the outcomes away** does not fail if there are any. -/
theorem Stocked.exec_discardPayloads (hs : Stocked c d s h) (hc : c.location.Proper)
    (ds : Option Diagnostics) :
    ∃ h', exec discardPayloads (c.on ds h) = (.ok (), c.on ds h') ∧ Tended c d h h' ∧
      Stocked c d s.emptied h' := by
  rw [Cache.exec_discardPayloads]
  obtain ⟨r, h', he, ⟨htended, hvacant, hother⟩ | ⟨rfl, hnot⟩⟩ := hs.shelf.exec_removeTree_below hc
  · rw [he]
    refine ⟨h', rfl, htended, htended.shelf, hs.index.congr fun bytes m => ?_, fun t => ?_,
      hs.only.of_noNewFile fun q _ _ => ?_, hs.tidy, fun _ _ => rfl, fun t ht => absurd rfl ht⟩
    · rw [hother]
      rintro ⟨rest, hrest⟩
      rw [indexPlace, List.append_assoc] at hrest
      have hnames := List.append_cancel_left hrest
      simp at hnames
    · refine held_none_of_vacant (hvacant _ ⟨[Sha256.hex t ++ ".json"], ?_⟩)
      simp [payloadPlace]
    · by_cases hq : d ++ ["files"] <+: q
      · exact noNewFile_of_none (hvacant q hq)
      · intro bytes m hm
        rwa [hother q hq] at hm
  · rw [he]
    refine ⟨_, rfl, hs.shelf.tended_refl, hs.emptied_of_none fun t => ?_⟩
    by_contra hne
    -- An outcome would be in a directory that is found and therefore removed.
    obtain ⟨x, hx⟩ := Option.ne_none_iff_exists'.mp hne
    obtain ⟨m, hm⟩ := hs.locate_files hc hx false
    cases hnot _ _ hm

/-- What reading the index gives and leaves. -/
def Loading (c : Cache) (d : Place) (s : Contents) (h : Host) (r : Except Fault CacheIndex) (h' : Host) : Prop :=
  (∃ i, s.Found c.version i ∧ r = .ok i ∧ h' = h) ∨
    ((r = .ok [] ∨ ∃ e, r = .error e) ∧ Tended c d h h' ∧ Stocked c d s.emptied h' ∧ s.Spent c.version)

theorem Stocked.tidy_of_found (hs : Stocked c d s h) {v : String} {i : CacheIndex} (hfound : s.Found v i) :
    Tidy i := hfound.tidy hs.tidy

/-- The entries of an index that was read. -/
theorem Stocked.exec_entriesOf (hs : Stocked c d s h) (hc : c.location.Proper) {v : String} {i : CacheIndex}
    (hfound : s.Found v i) {w : Value} (hw : CacheIndex.Holds w v i) (ds : Option Diagnostics) :
    ∃ r h', exec (entriesOf w) (c.on ds h) = (r, c.on ds h') ∧ Loading c d s h r h' := by
  by_cases hv : v = c.version
  · subst hv
    exact ⟨_, h, exec_entriesOf_of_holds hw, .inl ⟨i, hfound, rfl, rfl⟩⟩
  · unfold entriesOf
    rw [exec_bind, exec_get]
    simp only [hw.version]
    rw [if_neg (show ¬ v = (c.on ds h).cache.version from hv), exec_bind]
    obtain ⟨h', he, htended, hstocked⟩ := hs.exec_discardPayloads hc ds
    rw [he]
    refine ⟨.ok [], h', rfl, .inr ⟨.inl rfl, htended, hstocked, fun i' hi' => ?_⟩⟩
    exact absurd (hfound.unique hi').1 hv

/-- **The index is read**, if a file is found in its place. -/
theorem Stocked.readJson_index (hs : Stocked c d s h) (hc : c.location.Proper)
    (hfile : h.isFile (c.below ["index.json"]).text = .ok true) :
    ∃ w v i, h.readJson (c.below ["index.json"]).text = .ok w ∧ s.Found v i ∧ CacheIndex.Holds w v i := by
  obtain ⟨p, bytes, m, hstat⟩ := isFile_iff.mp hfile
  obtain ⟨d', hd', hnode⟩ := node?_of_stat_below hc hs.shelf.noLinks_holds ordinary_index (by simp) hstat
  cases hs.shelf.place.symm.trans hd'
  obtain ⟨v, text, hv, hw, rfl⟩ := hs.index.exists_of_file hnode
  obtain ⟨⟨version, i⟩, hi, rfl⟩ := Option.map_eq_some_iff.mp hv
  have hbytes : h.readBytes (c.below ["index.json"]).text = .ok (Utf8.encode text) := Host.readBytes_of_stat hstat
  obtain ⟨bs, -, w, hread, hholds⟩ := CacheIndex.exists_shows version i
  refine ⟨w, _, _, ?_, ⟨version, i, hi, w, hread, hholds⟩, hholds⟩
  rw [Host.readJson, Json.readText_of_written hw hbytes]
  show (Json.read text).mapError Fault.json = .ok w
  rw [hread text hw]
  rfl

/-- **Reading the index.** -/
theorem exec_loadIndex_stocked (hc : c.location.Proper) (hs : Stocked c d s h) (ds : Option Diagnostics) :
    ∃ r h', exec loadIndex (c.on ds h) = (r, c.on ds h') ∧ Loading c d s h r h' := by
  have hnone : h.isFile (c.below ["index.json"]).text ≠ .ok true → ∀ t, s.payload (Sha256.hex t) = none := by
    intro hfile t
    by_contra hne
    obtain ⟨ho, hr⟩ := hs.reach t hne
    have hsome : s.index ≠ none := fun hi => hne (hs.indexed hi t)
    obtain ⟨x, hx⟩ := Option.ne_none_iff_exists'.mp hsome
    exact hfile (hs.isFile_index hc ho hr hx)
  have hmissed : h.isFile (c.below ["index.json"]).text ≠ .ok true → ∀ r, (r = .ok [] ∨ ∃ e, r = .error e) →
      Loading c d s h r h := fun hfile r hr =>
    .inr ⟨hr, hs.shelf.tended_refl, hs.emptied_of_none (hnone hfile), fun _ _ => hnone hfile⟩
  cases hfile : h.isFile (c.below ["index.json"]).text with
  | error e =>
    exact ⟨_, h, exec_loadIndex_of_error hfile, hmissed (by rw [hfile]; nofun) _ (.inr ⟨_, rfl⟩)⟩
  | ok there =>
    cases there with
    | false => exact ⟨_, h, exec_loadIndex_of_absent hfile, hmissed (by rw [hfile]; nofun) _ (.inl rfl)⟩
    | true =>
      obtain ⟨w, v, i, hjson, hfound, hholds⟩ := hs.readJson_index hc hfile
      rw [exec_loadIndex_of_json hfile hjson]
      exact hs.exec_entriesOf hc hfound hholds ds

theorem Loading.tended (hs : Stocked c d s h) {r : Except Fault CacheIndex} (hl : Loading c d s h r h') :
    Tended c d h h' := by
  rcases hl with ⟨-, -, -, rfl⟩ | ⟨-, htended, -⟩
  · exact hs.shelf.tended_refl
  · exact htended

/-- What reading leaves, whatever it gives. -/
theorem Loading.spared (hs : Stocked c d s h) {r : Except Fault CacheIndex} (hl : Loading c d s h r h') :
    ∃ s', s.Spared c.version s' ∧ Stocked c d s' h' := by
  rcases hl with ⟨-, -, -, rfl⟩ | ⟨-, -, hstocked, hspent⟩
  · exact ⟨s, .inl rfl, hs⟩
  · exact ⟨_, .inr ⟨rfl, hspent⟩, hstocked⟩

theorem Loading.loaded (hs : Stocked c d s h) {i : CacheIndex} (hl : Loading c d s h (.ok i) h') :
    Tidy i ∧ ∃ s', s.Loaded c.version i s' ∧ Stocked c d s' h' := by
  rcases hl with ⟨i', hfound, hi, rfl⟩ | ⟨hr, -, hstocked, hspent⟩
  · rw [Except.ok.inj hi]
    exact ⟨hs.tidy_of_found hfound, s, .inl ⟨hfound, rfl⟩, hs⟩
  · rcases hr with hr | ⟨e, hr⟩
    · rw [Except.ok.inj hr]
      exact ⟨Tidy.nil, _, .inr ⟨rfl, rfl, hspent⟩, hstocked⟩
    · cases hr

/-! ## 4. Storing -/

/-- The same contents, if no file changes that they are read from. -/
theorem Stocked.kept (hs : Stocked c d s h) (hc : c.location.Proper) (htended : Tended c d h h')
    (hretains : FileTree.Retains h.tree h'.tree) (hindex : SameFile h h' (indexPlace d))
    (hpayload : ∀ t, SameFile h h' (payloadPlace d (Sha256.hex t)))
    (hnew : ∀ q, q ≠ indexPlace d → (∀ t, q ≠ payloadPlace d (Sha256.hex t)) → NoNewFile h h' q) :
    Stocked c d s h' := by
  refine ⟨htended.shelf, hs.index.congr hindex, fun t => (hs.payload t).congr (hpayload t),
    hs.only.of_noNewFile hnew, hs.tidy, hs.indexed, fun t ht => ?_⟩
  obtain ⟨ho, hr⟩ := hs.reach t ht
  exact ⟨ho.retained hc htended.furnished.cwd_eq hretains, hr⟩

theorem Stocked.exec_unlinkPayload (hs : Stocked c d s h) (hc : c.location.Proper)
    (ho : h.Opens (c.below ["files"]) (d ++ ["files"])) (hr : Roomy c) (t : String)
    (ds : Option Diagnostics) :
    ∃ h', exec (onFiles (FileOp.unlink (c.payloadPath (Sha256.hex t ++ ".json")).text)) (c.on ds h) =
        (.ok (), c.on ds h') ∧ Tended c d h h' ∧ Stocked c d (s.drop (Sha256.hex t)) h' := by
  obtain ⟨h', hexec, htended, hretains, hindex, hnone, hothers, hnew⟩ :=
    hs.shelf.exec_unlinkPayload hc ho hr t ds
  refine ⟨h', hexec, htended, htended.shelf, hs.index.congr hindex, fun t' => ?_,
    hs.only.of_noNewFile fun q _ _ => hnew q, hs.tidy, fun hi t' => ?_, fun t' ht' => ?_⟩
  · simp only [Contents.drop]
    by_cases ht : Sha256.hex t' = Sha256.hex t
    · rw [if_pos ht, ht]
      exact hnone
    · rw [if_neg ht]
      exact (hs.payload t').congr (hothers t' ht)
  · simp only [Contents.drop]
    rw [hs.indexed hi t', ite_self]
  · exact ⟨(hs.shelf.opens_location hc ho).retained hc htended.furnished.cwd_eq hretains, hr⟩

theorem exec_saveIndex_eq (i : CacheIndex) (ds : Option Diagnostics) (h : Host) :
    exec (saveIndex i) (c.on ds h) =
      exec (writeJson c.indexPath (CacheIndex.toValue c.version i)) (c.on ds h) := by
  unfold saveIndex
  rw [exec_bind, exec_get]
  rfl

/-- **Writing a run**: it fails only if its outcome cannot be written. -/
theorem Stocked.exec_writeRun (hs : Stocked c d s h) (hc : c.location.Proper) {x : Deposit}
    (hv : x.version = c.version) {i : CacheIndex} (hi : Tidy i) (ds : Option Diagnostics) :
    ∃ r h', exec (do
        writeJson (c.payloadPath (x.mark c ++ ".json")) x.outcome.toValue
        saveIndex (Assoc.put x.name (x.entry c) i)
        match Assoc.get? x.name i with
        | none => pure ()
        | some old =>
          if old.resultFile ≠ x.mark c ++ ".json" then
            onFiles (FileOp.unlink (c.payloadPath old.resultFile).text)) (c.on ds h) = (r, c.on ds h') ∧
      Tended c d h h' ∧
      ((r = .ok () ∧ Stocked c d (s.add c x i) h') ∨
        ((∃ e, r = .error e) ∧ Stocked c d s h' ∧ ¬ Receives c d h x.outcome.toValue)) := by
  obtain ⟨r, h₁, hexec, htended₁, hretains₁, hindex₁, hothers₁, hnew₁,
      ⟨rfl, hheld₁, ho₁, hroomy⟩ | ⟨⟨e, rfl⟩, hsame₁, hnot⟩⟩ :=
    hs.shelf.exec_writePayload hc ((x.material c).toOption.getD "") x.outcome.toValue ds
  · have hexec' : exec (writeJson (c.payloadPath (x.mark c ++ ".json")) x.outcome.toValue) (c.on ds h) = _ := hexec
    obtain ⟨h₂, hsave, htended₂, hretains₂, hheld₂, hothers₂, hnew₂⟩ := htended₁.shelf.exec_writeIndex hc
      (htended₁.shelf.opens_location hc ho₁) hroomy c.version (Assoc.put x.name (x.entry c) i) ds
    have ho₂ := ho₁.retained (proper_below hc isFront_files.ordinary) htended₂.furnished.cwd_eq hretains₂
    have hwritten : Stocked c d (s.write c x i) h₂ := by
      have honly₁ := hs.only.of_noNewFile fun q _ hq => hnew₁ q (hq _)
      refine ⟨htended₂.shelf, ?_, fun t => ?_, honly₁.of_noNewFile fun q hq _ => hnew₂ q hq, fun v j hj => ?_,
        nofun, fun t _ => ?_⟩
      · simp only [Contents.write, Option.map_some, hv]
        exact hheld₂
      · simp only [Contents.write]
        by_cases ht : Sha256.hex t = x.mark c
        · rw [if_pos ht, ht]
          exact hheld₁.congr (hothers₂ _)
        · rw [if_neg ht]
          exact ((hs.payload t).congr (hothers₁ t ht)).congr (hothers₂ _)
      · simp only [Contents.write, Option.some.injEq, Prod.mk.injEq] at hj
        rw [← hj.2]
        exact hi.put c x
      · exact ⟨htended₂.shelf.opens_location hc ho₂, hroomy⟩
    rw [exec_bind, hexec']
    simp only
    rw [exec_bind, exec_saveIndex_eq, hsave, Contents.add]
    cases hold : Assoc.get? x.name i with
    | none => exact ⟨_, h₂, rfl, htended₁.trans htended₂, .inl ⟨rfl, hwritten⟩⟩
    | some old =>
      obtain ⟨t, hfp, hfile⟩ := hi.named _ _ hold
      simp only [hfile, hfp]
      by_cases hmark : Sha256.hex t = x.mark c
      · rw [if_neg (by rw [hmark]; exact not_not_intro rfl), if_pos hmark]
        exact ⟨_, h₂, rfl, htended₁.trans htended₂, .inl ⟨rfl, hwritten⟩⟩
      · have hne : Sha256.hex t ++ ".json" ≠ x.mark c ++ ".json" := fun he =>
          hmark ((String.append_left_inj _).mp he)
        rw [if_pos hne, if_neg hmark]
        obtain ⟨h₃, hunlink, htended₃, hstocked⟩ := hwritten.exec_unlinkPayload hc ho₂ hroomy t ds
        exact ⟨_, h₃, hunlink, (htended₁.trans htended₂).trans htended₃, .inl ⟨rfl, hstocked⟩⟩
  · have hexec' : exec (writeJson (c.payloadPath (x.mark c ++ ".json")) x.outcome.toValue) (c.on ds h) = _ := hexec
    rw [exec_bind, hexec']
    refine ⟨_, h₁, rfl, htended₁, .inr ⟨⟨e, rfl⟩, hs.kept hc htended₁ hretains₁ hindex₁ (fun t => ?_)
      (fun q _ hq => hnew₁ q (hq _)), hnot⟩⟩
    by_cases ht : Sha256.hex t = x.mark c
    · rw [ht]
      exact hsame₁
    · exact hothers₁ t ht

theorem Deposit.fingerprint_eq (hu : c.InUse) (x : Deposit) :
    (c.ofVersion x.version).fingerprint x.host x.name x.config x.files =
      (x.material c).map fun _ => x.mark c := by
  have hdigest : (c.ofVersion x.version).digest = Sha256.hex := hu.digest
  have hmaterial : (c.ofVersion x.version).material x.host x.name x.config x.files = x.material c := rfl
  rw [fingerprint, hdigest, hmaterial, mark]
  cases x.material c with
  | error e => rfl
  | ok text => simp only [Except.map, Except.toOption, Option.getD_some]

/-- Storing, given what reading the index has given and left. -/
theorem exec_storeEntry_of_load (hu : c.InUse) {name : String} {o : Outcome} {config : Option Config} {text : String}
    (hm : Deposit.material c ⟨c.version, name, config, o, h⟩ = .ok text) {i : CacheIndex}
    (hload : exec loadIndex (c.on ds h) = (.ok i, c.on ds h')) (hi : Tidy i) (hs : Stocked c d s h') :
    ∃ r h'', exec (storeEntry name o config) (c.on ds h) = (r, c.on ds h'') ∧ Tended c d h' h'' ∧
      ((r = .ok () ∧ Stocked c d (s.add c ⟨c.version, name, config, o, h⟩ i) h'') ∨
        ((∃ e, r = .error e) ∧ Stocked c d s h'' ∧ ¬ Receives c d h' o.toValue)) := by
  generalize hx : (⟨c.version, name, config, o, h⟩ : Deposit) = x at hm ⊢
  have hv : x.version = c.version := by rw [← hx]
  have hfp : c.fingerprint h name config (Order.sortedDistinct o.files) = .ok (x.mark c) := by
    have heq := x.fingerprint_eq hu
    rw [hm] at heq
    rwa [← hx] at heq ⊢
  have hsite : (c.on ds h).cache.fingerprint (c.on ds h).host name config (Order.sortedDistinct o.files) =
      .ok (x.mark c) := hfp
  have ho : x.outcome = o := by rw [← hx]
  obtain ⟨r, h₁, hexec, htended, hend⟩ := hs.exec_writeRun hu.proper hv hi ds
  rw [ho] at hend
  refine ⟨r, h₁, ?_, htended, hend⟩
  unfold storeEntry
  rw [exec_bind, exec_get]
  simp only
  rw [exec_bind, exec_lift, hsite]
  simp only
  rw [exec_bind, hload]
  subst hx
  exact hexec

/-- **Storing** adds the run, or fails and leaves what reading the index leaves. -/
theorem exec_storeEntry_stocked (hu : c.InUse) (hs : Stocked c d s h) (name : String)
    (o : Outcome) (config : Option Config) (ds : Option Diagnostics) :
    ∃ r h', exec (storeEntry name o config) (c.on ds h) = (r, c.on ds h') ∧ Tended c d h h' ∧
      ((r = .ok () ∧ (∃ text, Deposit.material c ⟨c.version, name, config, o, h⟩ = .ok text) ∧
          ∃ i s', s.Loaded c.version i s' ∧ Stocked c d (s'.add c ⟨c.version, name, config, o, h⟩ i) h') ∨
        ((∃ e, r = .error e) ∧ ∃ s', s.Spared c.version s' ∧ Stocked c d s' h')) := by
  generalize hx : (⟨c.version, name, config, o, h⟩ : Deposit) = x
  have hfp : c.fingerprint h name config (Order.sortedDistinct o.files) =
      (x.material c).map fun _ => x.mark c := by
    rw [← x.fingerprint_eq hu, ← hx]
    rfl
  have hsite : (c.on ds h).cache.fingerprint (c.on ds h).host name config (Order.sortedDistinct o.files) =
      (x.material c).map fun _ => x.mark c := hfp
  cases hm : x.material c with
  | error e =>
    refine ⟨.error e, h, ?_, hs.shelf.tended_refl, .inr ⟨⟨e, rfl⟩, s, .inl rfl, hs⟩⟩
    unfold storeEntry
    rw [exec_bind, exec_get]
    simp only
    rw [exec_bind, exec_lift, hsite, hm]
    rfl
  | ok text =>
    obtain ⟨r, h₁, hload, hloading⟩ := exec_loadIndex_stocked hu.proper hs ds
    cases r with
    | error e =>
      refine ⟨.error e, h₁, ?_, hloading.tended hs, .inr ⟨⟨e, rfl⟩, hloading.spared hs⟩⟩
      unfold storeEntry
      rw [exec_bind, exec_get]
      simp only
      rw [exec_bind, exec_lift, hsite, hm]
      simp only [Except.map]
      rw [exec_bind, hload]
    | ok i =>
      obtain ⟨htidy, s₁, hloaded, hstocked⟩ := hloading.loaded hs
      subst hx
      obtain ⟨r, h₂, hexec, htended, hend⟩ := exec_storeEntry_of_load hu hm hload htidy hstocked
      refine ⟨r, h₂, hexec, (hloading.tended hs).trans htended, ?_⟩
      rcases hend with ⟨rfl, hadded⟩ | ⟨he, hkept, -⟩
      · exact .inl ⟨rfl, ⟨text, rfl⟩, i, s₁, hloaded, hadded⟩
      · exact .inr ⟨he, s₁, hloaded.spared, hkept⟩

end Cache

end AgentLint
