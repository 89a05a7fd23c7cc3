import AgentLint.Proofs.Cache.Calls
import AgentLint.Proofs.Cache.Material
import AgentLint.Proofs.Cache.Tracked

/-!
# What was stored last

A `Ledger` starts without a cache directory.  From then on caches of any versions are called at that place, and
files elsewhere come, change and go; the log keeps the events, the last one first.  `Ledger.accounts` says what
holds at every point: each outcome in the directory is that of the run stored last under its name, of a version
and with an entry that the index names.

It follows that a fetch gives nothing else (`fetch_of_ledger`): the run stored last under this name, by a cache of
this version and not cleared since, with this configuration, and with files that have not changed.
-/

namespace AgentLint

-- Digests are compared here; the one that is computed is left to the kernel.
attribute [local irreducible] Sha256.hex

namespace Order

theorem mem_sortedDistinct {xs : List String} {x : String} : x ∈ sortedDistinct xs ↔ x ∈ xs := by
  rw [sortedDistinct, List.mem_mergeSort, List.mem_eraseDups]

theorem sortedDistinct_eq_nil {xs : List String} : sortedDistinct xs = [] ↔ xs = [] := by
  simp only [List.eq_nil_iff_forall_not_mem, mem_sortedDistinct]

end Order

namespace Cache

/-! ## 1. Logs -/

/-- The run stored last under a name, unless the cache was cleared since. -/
def lastStored (name : String) : List Event → Option Deposit
  | [] => none
  | .cleared :: _ => none
  | .stored x :: log => if x.name = name then some x else lastStored name log

theorem mem_of_lastStored {name : String} {x : Deposit} : ∀ {log : List Event},
    lastStored name log = some x → .stored x ∈ log ∧ x.name = name
  | .stored y :: log, h => by
    rw [lastStored] at h
    split at h
    · rename_i hy
      cases h
      exact ⟨List.mem_cons_self, hy⟩
    · obtain ⟨hmem, hname⟩ := mem_of_lastStored h
      exact ⟨List.mem_cons_of_mem _ hmem, hname⟩

/-- A change elsewhere: the path of the cache goes on leading to its directory, and nothing in it changes. -/
structure Aside (c : Cache) (d : Place) (h h' : Host) : Prop where
  seat : Seat c d h'
  kept : ∀ q, d <+: q → h'.tree.node? q = h.tree.node? q
  opens : h.Opens c.location d → h'.Opens c.location d

/-- The events so far, the last one first, and the host they have led to. -/
inductive Ledger (c : Cache) (d : Place) : List Event → Host → Prop where
  /-- There is no cache directory. -/
  | start (h : Host) (seat : Seat c d h) (vacant : Vacant h d) : Ledger c d [] h
  /-- Files change elsewhere. -/
  | change {log : List Event} {h : Host} (h' : Host) (before : Ledger c d log h) (aside : Aside c d h h') :
    Ledger c d log h'
  /-- A cache is called. -/
  | call {log : List Event} {h : Host} (a : Call) (before : Ledger c d log h) :
    Ledger c d (a.events c h ++ log) (a.host c h)

/-- An index of runs that were stored by caches of one version. -/
structure Listing (c : Cache) (log : List Event) (version : String) (i : CacheIndex) : Prop where
  ne_nil : i ≠ []
  nodup : (Assoc.keys i).Nodup
  stored : ∀ name e, Assoc.get? name i = some e →
    ∃ x, .stored x ∈ log ∧ x.name = name ∧ x.version = version ∧ x.entry c = e

/-- The data that was stored reads back: outcomes, names, and every index that can have been written. -/
structure Legible (c : Cache) (log : List Event) : Prop where
  outcome : ∀ x, .stored x ∈ log → Json.Rereads x.outcome.toValue
  name : ∀ x, .stored x ∈ log → Json.Rereads (.text x.name)
  index : ∀ version i, Listing c log version i → Json.Rereads (CacheIndex.toValue version i)

variable {c : Cache} {d : Place} {s s' : Contents} {h h' : Host} {log log' : List Event}
  {version : String} {i : CacheIndex}

theorem Listing.mono (hl : Listing c log version i) (hlog : ∀ e ∈ log, e ∈ log') :
    Listing c log' version i := by
  refine ⟨hl.ne_nil, hl.nodup, fun name e he => ?_⟩
  obtain ⟨x, hx, hrest⟩ := hl.stored name e he
  exact ⟨x, hlog _ hx, hrest⟩

theorem Legible.mono (hl : Legible c log') (hlog : ∀ e ∈ log, e ∈ log') : Legible c log :=
  ⟨fun x hx => hl.outcome x (hlog _ hx), fun x hx => hl.name x (hlog _ hx),
    fun version i hi => hl.index version i (hi.mono hlog)⟩

/-! ## 2. The contents and the log -/

theorem Deposit.mark_of_material {x : Deposit} {text : String} (hm : x.material c = .ok text) :
    x.mark c = Sha256.hex text := by
  rw [mark, hm]
  rfl

/-- What the contents have to do with the log: every run in it has a fingerprint, the index names such runs, and
an outcome is that of the run stored last under its name. -/
structure Accounts (c : Cache) (log : List Event) (s : Contents) : Prop where
  material : ∀ x, .stored x ∈ log → ∃ text, x.material c = .ok text
  index : ∀ version i, s.index = some (version, i) → Listing c log version i
  payload : ∀ t x, s.payload (Sha256.hex t) = some x → x.mark c = Sha256.hex t ∧
    lastStored x.name log = some x ∧
    ∃ i, s.index = some (x.version, i) ∧ Assoc.get? x.name i = some (x.entry c)

theorem Accounts.rereads (ha : Accounts c log s) (hl : Legible c log) : s.Rereads := by
  refine ⟨fun version i hi => hl.index version i (ha.index version i hi), fun t x hx => ?_⟩
  obtain ⟨-, hlast, -⟩ := ha.payload t x hx
  exact hl.outcome x (mem_of_lastStored hlast).1

theorem accounts_nothing (hm : ∀ x, .stored x ∈ log → ∃ text, x.material c = .ok text) :
    Accounts c log ⟨none, fun _ => none⟩ :=
  ⟨hm, fun _ _ hi => (by cases hi), fun _ _ hx => (by cases hx)⟩

theorem Accounts.emptied (ha : Accounts c log s) : Accounts c log s.emptied :=
  ⟨ha.material, ha.index, fun _ _ hx => (by cases hx)⟩

/-- Clearing is one more event, and leaves no outcome. -/
theorem Accounts.cleared (ha : Accounts c log s) (he : s' = s.emptied ∨ s' = ⟨none, fun _ => none⟩) :
    Accounts c (.cleared :: log) s' := by
  have hm : ∀ x, .stored x ∈ .cleared :: log → ∃ text, x.material c = .ok text := fun x hx =>
    ha.material x ((List.mem_cons.mp hx).resolve_left nofun)
  rcases he with rfl | rfl
  · exact ⟨hm, fun version i hi => (ha.index version i hi).mono fun e he => List.mem_cons_of_mem _ he,
      fun _ _ hx => (by cases hx)⟩
  · exact accounts_nothing hm

/-- An index of data that reads back is read as it was written. -/
theorem Accounts.found_iff (ha : Accounts c log s) (hre : s.Rereads) :
    s.Found version i ↔ ∃ i₀, s.index = some (version, i₀) ∧ i = i₀.arranged :=
  hre.found_iff fun _ _ hi => (ha.index _ _ hi).nodup

/-- The index that a run is added to. -/
theorem Accounts.loaded (ha : Accounts c log s) (hre : s.Rereads) (hl : s.Loaded version i s') :
    (Assoc.keys i).Nodup ∧ ∀ name e, Assoc.get? name i = some e →
      ∃ x, .stored x ∈ log ∧ x.name = name ∧ x.version = version ∧ x.entry c = e := by
  rcases hl with ⟨hfound, -⟩ | ⟨rfl, -⟩
  · obtain ⟨i₀, hi₀, rfl⟩ := (ha.found_iff hre).mp hfound
    have hlist := ha.index _ _ hi₀
    refine ⟨CacheIndex.nodup_arranged hlist.nodup, fun name e he => hlist.stored name e ?_⟩
    rwa [CacheIndex.get?_arranged hlist.nodup] at he
  · exact ⟨List.nodup_nil, nofun⟩

theorem Accounts.listing_add (ha : Accounts c log s) (hre : s.Rereads) (hl : s.Loaded version i s') {x : Deposit}
    (hv : x.version = version) :
    Listing c (.stored x :: log) version (Assoc.put x.name (x.entry c) i) := by
  obtain ⟨hnodup, hstored⟩ := ha.loaded hre hl
  have hput : Assoc.get? x.name (Assoc.put x.name (x.entry c) i) = some (x.entry c) := by
    rw [Assoc.get?_put, if_pos rfl]
  refine ⟨fun hnil => ?_, Assoc.nodup_keys_put hnodup _ _, fun name e he => ?_⟩
  · rw [hnil] at hput
    cases hput
  · rw [Assoc.get?_put] at he
    split at he
    · rename_i hname
      exact ⟨x, List.mem_cons_self, hname, hv, Option.some.inj he⟩
    · obtain ⟨y, hy, hrest⟩ := hstored name e he
      exact ⟨y, List.mem_cons_of_mem _ hy, hrest⟩

/-- An outcome that stays when a run is added is of another name, and was in the index that was read. -/
theorem Accounts.payload_of_add (ha : Accounts c log s) (hre : s.Rereads) (hl : s.Loaded version i s')
    {x y : Deposit} {t : String} (hne : Sha256.hex t ≠ x.mark c) (hy : (s'.add c x i).payload (Sha256.hex t) = some y) :
    s.payload (Sha256.hex t) = some y ∧ y.version = version ∧ y.name ≠ x.name ∧
      Assoc.get? y.name i = some (y.entry c) := by
  rw [Contents.payload_add_of_ne s' hne] at hy
  split at hy
  · cases hy
  · rename_i hold
    rcases hl with ⟨hfound, rfl⟩ | ⟨-, rfl, -⟩
    · obtain ⟨i₀, hi₀, rfl⟩ := (ha.found_iff hre).mp hfound
      obtain ⟨hmark, -, i₁, hi₁, hget⟩ := ha.payload t y hy
      cases hi₀.symm.trans hi₁
      rw [← CacheIndex.get?_arranged (ha.index _ _ hi₀).nodup] at hget
      refine ⟨hy, rfl, fun hname => hold ?_, hget⟩
      rw [← hname]
      exact ⟨y.entry c, hget, hmark⟩
    · cases hy

/-- **A call keeps the accounts.** -/
theorem Accounts.turn (ha : Accounts c log s) (hre : s.Rereads) {events : List Event}
    (ht : Turn c version s events s') :
    Accounts c (events ++ log) s' := by
  cases ht with
  | spared hspared =>
    rcases hspared with rfl | ⟨rfl, -⟩
    · exact ha
    · exact ha.emptied
  | cleared hempty => exact ha.cleared hempty
  | @added x i s₁ hv hm hl =>
    refine ⟨fun y hy => ?_, fun v j hj => ?_, fun t y hy => ?_⟩
    · rcases List.mem_cons.mp hy with hy | hy
      · cases hy
        exact hm
      · exact ha.material y hy
    · rw [Contents.index_add] at hj
      cases hj
      rw [hv]
      exact ha.listing_add hre hl hv
    · have hindex := Contents.index_add c x i s₁
      by_cases hmark : Sha256.hex t = x.mark c
      · rw [hmark, Contents.payload_add_self] at hy
        cases hy
        exact ⟨hmark.symm, if_pos rfl, _, hindex, by rw [Assoc.get?_put, if_pos rfl]⟩
      · obtain ⟨hold, hversion, hname, hget⟩ := ha.payload_of_add hre hl hmark hy
        obtain ⟨hymark, hlast, -⟩ := ha.payload t y hold
        refine ⟨hymark, ?_, _, by rw [hindex, hv, hversion], ?_⟩
        · rw [List.singleton_append, lastStored, if_neg fun he => hname he.symm]
          exact hlast
        · rw [Assoc.get?_put, if_neg fun he => hname he.symm]
          exact hget

/-! ## 3. The contents of a host -/

theorem stocked_nothing (hs : Seat c d h) (hv : Vacant h d) : Stocked c d ⟨none, fun _ => none⟩ h :=
  ⟨hs.shelf hv, held_none_of_vacant (hv _ (List.prefix_append d _)),
    fun _ => held_none_of_vacant (hv _ (List.prefix_append d _)), onlyStock_of_vacant hv,
    fun _ _ hi => (by cases hi), fun _ _ => rfl, fun _ ht => absurd rfl ht⟩

/-- Changes elsewhere leave the contents alone. -/
theorem Stocked.aside (hs : Stocked c d s h) (ha : Aside c d h h') : Stocked c d s h' := by
  have hsame : ∀ names, SameFile h h' (d ++ names) := fun names bytes m => by
    rw [ha.kept _ (List.prefix_append d names)]
  refine ⟨⟨ha.seat, fun q target m hq => ?_, fun names n hn => ?_⟩, hs.index.congr (hsame _),
    fun t => (hs.payload t).congr (hsame _), fun q bytes m hq hm => ?_, hs.tidy, hs.indexed, fun t ht => ?_⟩
  · rw [ha.kept q hq]
    exact hs.shelf.noLinks q target m hq
  · rw [ha.kept _ (List.prefix_append d names)] at hn
    exact hs.shelf.dirs names n hn
  · rw [ha.kept q hq] at hm
    exact hs.only q bytes m hq hm
  · obtain ⟨ho, hr⟩ := hs.reach t ht
    exact ⟨ha.opens ho, hr⟩

/-- **What every call keeps holds at every point of a ledger.** -/
theorem Ledger.exists_contents {P : List Event → Contents → Prop} (hu : c.InUse)
    (hstart : P [] ⟨none, fun _ => none⟩)
    (hcall : ∀ {log events : List Event} {s s' : Contents} {version : String},
      (∀ v i, s.index = some (v, i) → Tidy i) → P log s → Turn c version s events s' → P (events ++ log) s')
    (hl : Ledger c d log h) : ∃ s, Stocked c d s h ∧ P log s := by
  induction hl with
  | start h seat vacant => exact ⟨_, stocked_nothing seat vacant, hstart⟩
  | change h' _ aside ih =>
    obtain ⟨s, hs, hp⟩ := ih
    exact ⟨s, hs.aside aside, hp⟩
  | call a _ ih =>
    obtain ⟨s, hs, hp⟩ := ih
    obtain ⟨s', hturn, hs', -⟩ := exec_call hu hs a
    exact ⟨s', hs', hcall hs.tidy hp hturn⟩

/-- **The accounts are right at every point of a ledger.** -/
theorem Ledger.accounts (hu : c.InUse) (hl : Ledger c d log h) (hre : Legible c log) :
    ∃ s, Stocked c d s h ∧ Accounts c log s := by
  obtain ⟨s, hs, ha⟩ := hl.exists_contents (P := fun log s => Legible c log → Accounts c log s) hu
    (fun _ => accounts_nothing nofun) fun _ ha hturn hre => by
      have hre' := hre.mono fun e he => List.mem_append_right _ he
      exact (ha hre').turn ((ha hre').rereads hre') hturn
  exact ⟨s, hs, ha hre⟩

/-! ## 4. Runs that are there -/

/-- A run is there: the index names it, and its outcome is stored. -/
structure Present (c : Cache) (x : Deposit) (s : Contents) : Prop where
  index : ∃ i, s.index = some (x.version, i) ∧ Assoc.get? x.name i = some (x.entry c)
  payload : s.payload (x.mark c) = some x

theorem Present.not_spent {x : Deposit} (hp : Present c x s) (hre : s.Rereads)
    (hnd : ∀ v i, s.index = some (v, i) → (Assoc.keys i).Nodup) : ¬ s.Spent x.version := by
  intro hspent
  obtain ⟨i, hi, -⟩ := hp.index
  have hnone : s.payload (x.mark c) = none := hspent _ ((hre.found_iff hnd).mpr ⟨i, hi, rfl⟩) _
  rw [hp.payload] at hnone
  cases hnone

/-- What was just stored is there. -/
theorem Turn.present {x : Deposit} (ht : Turn c version s [.stored x] s') : Present c x s' := by
  cases ht with
  | @added _ i s₁ _ _ _ =>
    exact ⟨⟨_, Contents.index_add c x i s₁, by rw [Assoc.get?_put, if_pos rfl]⟩,
      Contents.payload_add_self c x i s₁⟩

/-- **What is there is fetched**, as long as its files have not changed. -/
theorem Stocked.fetch_of_present (hu : c.InUse) (hs : Stocked c d s h) (hre : s.Rereads) {x : Deposit}
    (hp : Present c x s) (hm : ∃ text, x.material c = .ok text) (hne : x.outcome.files ≠ [])
    (hsame : ∀ p ∈ x.outcome.files, h.mtime? p = x.host.mtime? p) (ds : Option Diagnostics) :
    (exec (fetch x.name x.config) ((c.ofVersion x.version).on ds h)).1 = .ok (some x.answer) := by
  have hu' := hu.ofVersion x.version
  have hs' := (stocked_ofVersion x.version).mpr hs
  obtain ⟨r, h', hload, hloading⟩ := exec_loadIndex_stocked hu'.proper hs' ds
  obtain ⟨stored, ds', hfetch, hiff⟩ := exec_fetch_of_load hu' x.name x.config hload
  have hnd : ∀ v i, s.index = some (v, i) → (Assoc.keys i).Nodup := fun v i hi => (hs.tidy v i hi).nodup
  rw [hfetch]
  rcases hloading with ⟨_, hfound, rfl, rfl⟩ | ⟨-, -, -, hspent⟩
  · obtain ⟨i, hi, rfl⟩ := (hre.found_iff hnd).mp hfound
    obtain ⟨i', hi', hget⟩ := hp.index
    cases hi'.symm.trans hi
    have hfiles : ∀ p ∈ Order.sortedDistinct x.files, h'.mtime? p = x.host.mtime? p := fun p hp =>
      hsame p (Order.mem_sortedDistinct.mp (Order.mem_sortedDistinct.mp hp))
    have hfp : (c.ofVersion x.version).fingerprint h' x.name x.config x.files = .ok (x.mark c) := by
      rw [fingerprint, material_congr x.name x.config hfiles, ← fingerprint, x.fingerprint_eq hu]
      obtain ⟨text, htext⟩ := hm
      rw [htext]
      rfl
    refine (hiff _).mpr ⟨i.arranged, x.entry c, rfl, ?_, ?_, hfp, ?_⟩
    · rwa [CacheIndex.get?_arranged (hs.tidy _ _ hi).nodup]
    · exact fun hnil => hne (Order.sortedDistinct_eq_nil.mp hnil)
    · exact (hs'.payload_eq_ok_iff hu'.proper hre rfl).mpr ⟨x, hp.payload, rfl⟩
  · exact absurd hspent (hp.not_spent hre hnd)

/-- The index can be read if it is of this version. -/
def Readable (c : Cache) (s : Contents) (h : Host) : Prop :=
  ∀ i, s.Found c.version i → h.isFile (c.below ["index.json"]).text = .ok true

/-- An index is found where an outcome is stored. -/
theorem Stocked.isFile_of_payload (hs : Stocked c d s h) (hc : c.location.Proper) {t : String}
    (ht : s.payload (Sha256.hex t) ≠ none) : h.isFile (c.below ["index.json"]).text = .ok true := by
  obtain ⟨ho, hroomy⟩ := hs.reach t ht
  obtain ⟨x, hx⟩ := Option.ne_none_iff_exists'.mp fun hnone => ht (hs.indexed hnone t)
  exact hs.isFile_index hc ho hroomy hx

/-- An index of this version that can be read is read. -/
theorem Stocked.exec_loadIndex_found (hs : Stocked c d s h) (hc : c.location.Proper) (hr : Readable c s h)
    (hfound : s.Found c.version i) (ds : Option Diagnostics) : exec loadIndex (c.on ds h) = (.ok i, c.on ds h) := by
  have hfile := hr i hfound
  obtain ⟨w, v, i', hjson, hfound', hholds⟩ := hs.readJson_index hc hfile
  obtain ⟨rfl, rfl⟩ := hfound'.unique hfound
  rw [exec_loadIndex_of_json hfile hjson]
  exact exec_entriesOf_of_holds hholds

/-- An index is found under its version. -/
theorem exists_found {i₀ : CacheIndex} (hi : s.index = some (version, i₀)) (hversion : Text.Whole version) :
    ∃ i, s.Found version i := by
  obtain ⟨bs, -, hshows⟩ := CacheIndex.exists_shows version i₀
  rw [Text.joined_of_whole hversion] at hshows
  exact ⟨_, _, _, hi, hshows⟩

/-- **Storing a run does not fail** where an outcome of this version is stored. -/
theorem Stocked.exec_storeEntry_ok (hs : Stocked c d s h) (hu : c.InUse) (hfound : s.Found c.version i)
    {t : String} (ht : s.payload (Sha256.hex t) ≠ none) {name text : String} {o : Outcome}
    {config : Option Config} (hm : Deposit.material c ⟨c.version, name, config, o, h⟩ = .ok text)
    (hw : ∃ text, Json.writePretty o.toValue = .ok text) (ds : Option Diagnostics) :
    (exec (storeEntry name o config) (c.on ds h)).1 = .ok () := by
  have hload := hs.exec_loadIndex_found hu.proper (fun _ _ => hs.isFile_of_payload hu.proper ht) hfound ds
  obtain ⟨r, h', hexec, -, ⟨rfl, -⟩ | ⟨-, -, hnot⟩⟩ :=
    exec_storeEntry_of_load hu hm hload (hs.tidy_of_found hfound) hs
  · rw [hexec]
  · obtain ⟨x, hx⟩ := Option.ne_none_iff_exists'.mp ht
    exact absurd ⟨hs.locate_files hu.proper hx true, (hs.reach t ht).2, hw⟩ hnot

theorem Present.there {x : Deposit} (hp : Present c x s) :
    s.payload (Sha256.hex ((x.material c).toOption.getD "")) ≠ none := by
  have hpayload : s.payload (Sha256.hex ((x.material c).toOption.getD "")) = some x := hp.payload
  rw [hpayload]
  exact Option.some_ne_none x

/-- **Where a run is there, any other one is stored.** -/
theorem Present.exec_storeEntry_ok {x : Deposit} (hp : Present c x s) (hs : Stocked c d s h) (hu : c.InUse)
    (hx : x.version = c.version) (hversion : Text.Whole c.version) {name text : String} {o : Outcome}
    {config : Option Config}
    (hm : Deposit.material c ⟨c.version, name, config, o, h⟩ = .ok text)
    (hw : ∃ text, Json.writePretty o.toValue = .ok text) (ds : Option Diagnostics) :
    (exec (storeEntry name o config) (c.on ds h)).1 = .ok () := by
  obtain ⟨i₀, hi₀, -⟩ := hp.index
  rw [hx] at hi₀
  obtain ⟨i, hfound⟩ := exists_found hi₀ hversion
  exact hs.exec_storeEntry_ok hu hfound hp.there hm hw ds

/-- **A run that is stored in the course of a ledger is there**, and nothing else changes but the directory. -/
theorem Ledger.exists_present (hu : c.InUse) (hl : Ledger c d log h) (hre : Legible c log) {a : Call}
    {x : Deposit} (ha : a.events c h = [.stored x]) :
    ∃ s, Stocked c d s (a.host c h) ∧ Accounts c (.stored x :: log) s ∧ Present c x s ∧
      Furnished c d h (a.host c h) := by
  obtain ⟨s, hs, haccounts⟩ := hl.accounts hu hre
  obtain ⟨s', hturn, hs', hf⟩ := exec_call hu hs a
  rw [ha] at hturn
  exact ⟨s', hs', haccounts.turn (haccounts.rereads hre) hturn, hturn.present, hf⟩

/-! ## 5. A small ledger -/

/-- A single run is stored in one index only. -/
theorem Listing.eq_singleton {x : Deposit} (hl : Listing c [.stored x] version i) :
    version = x.version ∧ i = [(x.name, x.entry c)] := by
  have hall : ∀ e ∈ i, x.name = e.1 ∧ x.version = version ∧ x.entry c = e.2 := by
    rintro ⟨name, e⟩ he
    obtain ⟨y, hy, hrest⟩ := hl.stored name e ((Assoc.get?_eq_some_iff hl.nodup).mpr he)
    cases List.mem_singleton.mp hy
    exact hrest
  match i, hl.ne_nil, hall, hl.nodup with
  | [e], _, hall, _ =>
    obtain ⟨hname, hversion, hentry⟩ := hall e List.mem_cons_self
    exact ⟨hversion.symm, by rw [hname, hentry]⟩
  | e :: e' :: rest, _, hall, hnodup =>
    have hsame : e.1 = e'.1 := (hall e (by simp)).1.symm.trans (hall e' (by simp)).1
    simp [Assoc.keys, hsame] at hnodup

theorem legible_singleton {x : Deposit} (ho : Json.Rereads x.outcome.toValue)
    (hn : Json.Rereads (.text x.name))
    (hi : Json.Rereads (CacheIndex.toValue x.version [(x.name, x.entry c)])) : Legible c [.stored x] := by
  refine ⟨fun y hy => ?_, fun y hy => ?_, fun version i hl => ?_⟩
  · cases List.mem_singleton.mp hy
    exact ho
  · cases List.mem_singleton.mp hy
    exact hn
  · obtain ⟨rfl, rfl⟩ := hl.eq_singleton
    exact hi

/-- Storing, once the fingerprint is known. -/
def storeMarked (c : Cache) (h : Host) (name : String) (o : Outcome) (mark : String) : Op Unit := do
  let entries ← loadIndex
  writeJson (c.payloadPath (mark ++ ".json")) o.toValue
  saveIndex (Assoc.put name ⟨mark, secondsOf h.now, mark ++ ".json", Order.sortedDistinct o.files⟩ entries)
  match Assoc.get? name entries with
  | none => pure ()
  | some old =>
    if old.resultFile ≠ mark ++ ".json" then onFiles (FileOp.unlink (c.payloadPath old.resultFile).text)

theorem exec_storeEntry_of_fingerprint (ds : Option Diagnostics) (o : Outcome) {name mark : String}
    {config : Option Config} (hfp : c.fingerprint h name config (Order.sortedDistinct o.files) = .ok mark) :
    exec (storeEntry name o config) (c.on ds h) = exec (storeMarked c h name o mark) (c.on ds h) := by
  have hsite : (c.on ds h).cache.fingerprint (c.on ds h).host name config (Order.sortedDistinct o.files) =
      .ok mark := hfp
  unfold storeEntry
  rw [exec_bind, exec_get]
  simp only
  rw [exec_bind, exec_lift, hsite]
  rfl

/-- **Storing a run does not fail** where there is no index and the directories can be made.  It does the rest to the
host on which they have been made. -/
theorem Stocked.exec_storeEntry_of_made (hs : Stocked c d s h) (hu : c.InUse) (hroomy : Roomy c)
    (hindex : h.isFile (c.below ["index.json"]).text = .ok false) {h₁ : Host}
    (hmade : exec (FileOp.makeDirs (c.below ["files"])) h = (.ok (), h₁))
    (hopens : h₁.Opens (c.below ["files"]) (d ++ ["files"])) {name text : String} {o : Outcome}
    {config : Option Config} (hm : Deposit.material c ⟨c.version, name, config, o, h⟩ = .ok text)
    (hw : ∃ text, Json.writePretty o.toValue = .ok text) (ds : Option Diagnostics) :
    ∃ h', exec (storeEntry name o config) (c.on ds h) = (.ok (), c.on ds h') ∧ Furnished c d h₁ h' := by
  generalize hx : (⟨c.version, name, config, o, h⟩ : Deposit) = x at hm
  have hsite : (c.on ds h).cache.fingerprint (c.on ds h).host name config (Order.sortedDistinct o.files) =
      .ok (x.mark c) := by
    have heq := x.fingerprint_eq hu
    rw [hm] at heq
    rwa [← hx] at heq ⊢
  have hv : x.version = c.version := by rw [← hx]
  have ho : x.outcome = o := by rw [← hx]
  have hparent : (c.payloadPath (x.mark c ++ ".json")).parent = c.below ["files"] := by
    rw [Deposit.mark_of_material hm, payloadPath_eq]
    exact parent_below c ["files"] _
  -- From the host with the directories on, nothing can fail.
  obtain ⟨htended, hretains, hsame, -⟩ := hs.shelf.tended_makeDirs hu.proper isFront_files hmade
  have hs₁ : Stocked c d s h₁ := hs.kept hu.proper htended hretains (hsame _) (fun _ => hsame _)
    fun q _ _ => (hsame q).noNewFile
  obtain ⟨r, h', hexec, htended', hend⟩ := hs₁.exec_writeRun hu.proper hv Tidy.nil ds
  have hok : r = .ok () := by
    rcases hend with ⟨hr, -⟩ | ⟨-, -, hnot⟩
    · exact hr
    · rw [ho] at hnot
      exact absurd ⟨hopens, hroomy, hw⟩ hnot
  refine ⟨h', ?_, htended'.furnished⟩
  unfold storeEntry
  rw [exec_bind, exec_get]
  simp only
  rw [exec_bind, exec_lift, hsite]
  simp only
  rw [exec_bind, exec_loadIndex_of_absent hindex]
  simp only
  have hwrite : exec (writeJson (c.payloadPath (x.mark c ++ ".json")) o.toValue) (c.on ds h) =
      exec (writeJson (c.payloadPath (x.mark c ++ ".json")) o.toValue) (c.on ds h₁) :=
    exec_writeJson_of_made (by rw [hparent]; exact proper_below hu.proper isFront_files.ordinary)
      (by rw [hparent]; exact hmade) (by rw [hparent]; exact hopens) _ ds
  have hpath : (c.on ds h).cache.payloadPath (x.mark c ++ ".json") = c.payloadPath (x.mark c ++ ".json") := rfl
  rw [exec_bind, hpath, hwrite, ← hok]
  have hn : x.name = name := by rw [← hx]
  have hentry : x.entry c =
      ⟨x.mark c, secondsOf (c.on ds h).host.now, x.mark c ++ ".json", Order.sortedDistinct o.files⟩ := by
    unfold Deposit.entry Deposit.files
    rw [ho, ← hx]
    rfl
  rw [exec_bind, ho, hn, hentry] at hexec
  -- The two writings differ only in which of two equal caches names the payload of an old entry, and there is none.
  generalize exec (writeJson (c.payloadPath (x.mark c ++ ".json")) o.toValue) (c.on ds h₁) = written at hexec ⊢
  obtain ⟨_ | _, _⟩ := written <;> exact hexec

/-- A host without files. -/
def plainHost : Host where
  tree := []
  cwd := []
  home := "/"
  accounts := []
  now := 2

/-- A cache in a directory that is not there, below one that is not there either. -/
def plainCache (dir : String) : Cache := { location := ⟨0, [dir, "c"]⟩, version := "1" }

/-- A run over a file that is not there. -/
def plainRun : Deposit := ⟨"1", "v", none, { files := ["g"] }, plainHost⟩

/-- Storing it. -/
def plainCall : Call := ⟨"1", none, .store "v" { files := ["g"] } none⟩

/-- The host after that. -/
def plainEnd (dir : String) : Host := plainCall.host (plainCache dir) plainHost

/-- The text that the fingerprint of the run condenses. -/
def plainText : String :=
  "\x7b\"config\": null, \"files\": [[\"g\", null]], \"validator\": \"v\", \"version\": \"1\"\x7d"

/-- Its fingerprint. -/
def plainMark : String := "9102dd4138319607ccf0a5700df59d761488323a92fb525cf06d9fec7c7009f2"

/-- The host once the directories of the cache are made. -/
def plainMade (dir : String) : Host :=
  (exec (FileOp.makeDirs ((plainCache dir).below ["files"])) plainHost).2

/-- What is computed of the run: the text that is condensed, and that the data reads back and can be written. -/
theorem seen_plainRun :
    (plainRun.material (plainCache "a")).toOption = some plainText ∧
      (Json.checksOut plainRun.outcome.toValue = true ∧ Json.checksOut (.float (secondsOf plainHost.now)) = true) ∧
      (Json.writePretty plainRun.outcome.toValue).toOption ≠ none := by
  decide +kernel

theorem hex_plainText : Sha256.hex plainText = plainMark := by
  rw [Sha256.hex, Utf8.encode, plainText, String.toList_ofList]
  decide +kernel

/-- What is computed of the host: what is found of the file, where the path of the cache leads, and what is there once
its directories are made, which is a directory in the place of the file if it has that name. -/
theorem seen_plainHost :
    (plainHost.mtime? "g").toOption = some none ∧
      ∀ dir ∈ ["a", "g"],
        ((∀ k ≤ 2, plainHost.land false ⟨0, [dir, "c"].take k⟩ = some ([dir, "c"].take k)) ∧
          (plainCache dir).place? plainHost = some [dir, "c"]) ∧
        (plainHost.isFile ((plainCache dir).below ["index.json"]).text).toOption = some false ∧
        (exec (FileOp.makeDirs ((plainCache dir).below ["files"])) plainHost).1.toOption = some () ∧
        ((plainMade dir).stat ((plainCache dir).below ["files"]).text).toOption =
          some ([dir, "c"] ++ ["files"], .dir 2) ∧
        (∀ q ∈ (plainMade dir).looked "g", q = ["g"]) ∧ (plainMade dir).tree.node? [dir] ≠ none ∧
        ((plainMade dir).mtime? "g").toOption = some (if dir = "g" then some 2 else none) := by
  decide +kernel

/-- The text depends on nothing of a host but the time of change of the file. -/
theorem material_plainRun_congr (dir : String) {h h' : Host} (hm : h'.mtime? "g" = h.mtime? "g") :
    ((plainCache dir).ofVersion "1").material h' "v" none plainRun.files =
      ((plainCache dir).ofVersion "1").material h "v" none plainRun.files := by
  refine material_congr "v" none fun p hp => ?_
  rw [Order.mem_sortedDistinct, Deposit.files, Order.mem_sortedDistinct] at hp
  rw [List.mem_singleton.mp hp, hm]

theorem material_plainRun (dir : String) : plainRun.material (plainCache dir) = .ok plainText := by
  have hmaterial := eq_ok_of_toOption seen_plainRun.1
  exact hmaterial

theorem mark_plainRun (dir : String) : plainRun.mark (plainCache dir) = plainMark := by
  rw [Deposit.mark_of_material (material_plainRun dir), hex_plainText]

theorem legible_plainRun (dir : String) : Legible (plainCache dir) [.stored plainRun] := by
  obtain ⟨-, ⟨houtcome, htime⟩, -⟩ := seen_plainRun
  have hname : Text.Whole plainRun.name := by decide
  have hsafe : Json.SafeText plainMark := hex_plainText ▸ Sha256.safeText_hex plainText
  refine legible_singleton (Json.rereads_of_checksOut houtcome)
    (Json.rereads_of_returns (Json.returns_text_of_whole hname) (by decide)) ?_
  refine CacheIndex.rereads_of_faithful (by decide) (by simp [Assoc.keys]) fun f hf => ?_
  rw [List.mem_singleton.mp hf, Deposit.entry, mark_plainRun]
  refine ⟨hname, Text.whole_of_safe hsafe, Text.whole_of_safe (hsafe.append (by decide)), fun p hp => ?_,
    Json.rereads_of_checksOut htime⟩
  rw [Deposit.files, Order.mem_sortedDistinct] at hp
  rw [List.mem_singleton.mp hp]
  decide

section Plain

variable {dir : String} (hdir : dir ∈ ["a", "g"])

include hdir

theorem inUse_plainCache : (plainCache dir).InUse := by
  have hname : Path.IsName dir := by
    rcases List.mem_pair.mp hdir with rfl | rfl <;> exact ⟨by decide, by decide, by decide⟩
  refine ⟨⟨Nat.zero_le 2, fun n hn => ?_⟩, rfl, rfl⟩
  rcases List.mem_pair.mp hn with rfl | rfl
  · exact hname
  · exact ⟨by decide, by decide, by decide⟩

/-- The places of the path of the cache. -/
theorem onWay_plainCache {q : Place} (hq : OnWay plainHost (plainCache dir).location q) :
    q = [] ∨ q = [dir] ∨ q = [dir, "c"] := by
  obtain ⟨-, hseen⟩ := seen_plainHost
  have hprefix : q <+: [dir, "c"] := hq.isPrefix (hseen dir hdir).1.1
  simp only [List.prefix_cons_iff, List.prefix_nil] at hprefix
  rcases hprefix with rfl | ⟨_, rfl, rfl | ⟨_, rfl, rfl⟩⟩ <;> simp

theorem ledger_plainHost : Ledger (plainCache dir) [dir, "c"] [] plainHost := by
  obtain ⟨-, hseen⟩ := seen_plainHost
  obtain ⟨⟨hland, hplace⟩, -⟩ := hseen dir hdir
  have hnothing : ∀ q, q ≠ [] → plainHost.tree.node? q = none := fun q hq => by
    simp [FileTree.node?, plainHost, hq]
  have hgrounded : plainHost.tree.Grounded := fun p n hp => absurd (hnothing _ (by simp)) hp
  have haway : ¬ [dir, "c"] <+: plainHost.cwd := by simp [plainHost]
  refine .start plainHost (.of_land hplace hland ⟨hgrounded, 0, rfl⟩ haway) ?_
  rintro q ⟨rest, rfl⟩
  exact hnothing _ (by simp)

theorem roomy_plainCache : Roomy (plainCache dir) := by
  have hfront : ∀ dir ∈ ["a", "g"], refusal? (plainCache dir).location.front = none ∧
      pathSize (plainCache dir).location.front + 80 ≤ longestPath := by
    decide
  exact roomy_of_front (hfront dir hdir).1 (hfront dir hdir).2

/-- Storing a run on this host takes effect, and makes a directory in the place of the file if that is on the way. -/
theorem exec_storeEntry_plainHost {name text : String} {o : Outcome}
    (hm : Deposit.material (plainCache dir) ⟨"1", name, none, o, plainHost⟩ = .ok text)
    (hw : ∃ text, Json.writePretty o.toValue = .ok text) :
    ∃ h', exec (storeEntry name o none) ((plainCache dir).on none plainHost) = (.ok (), (plainCache dir).on none h') ∧
      h'.mtime? "g" = .ok (if dir = "g" then some 2 else none) := by
  have hu := inUse_plainCache hdir
  obtain ⟨-, hseen⟩ := seen_plainHost
  obtain ⟨-, hindex, hmade, hopens, hlooked, hnode, hmtime⟩ := hseen dir hdir
  obtain ⟨s, hs, -⟩ := (ledger_plainHost hdir).accounts hu ((legible_plainRun dir).mono nofun)
  have hdirs : exec (FileOp.makeDirs ((plainCache dir).below ["files"])) plainHost = (.ok (), plainMade dir) :=
    Prod.ext (eq_ok_of_toOption hmade) rfl
  obtain ⟨h', hexec, hfurnished⟩ := hs.exec_storeEntry_of_made hu (roomy_plainCache hdir) (eq_ok_of_toOption hindex)
    hdirs ⟨2, Host.locate_of_stat (eq_ok_of_toOption hopens)⟩ hm hw none
  refine ⟨h', hexec, ?_⟩
  -- Once the directories are there, nothing changes outside that of the cache.
  have hnow : h'.stat "g" = (plainMade dir).stat "g" := Host.stat_congr hfurnished.cwd_eq fun q hq => by
    obtain rfl := hlooked q hq
    refine (hfurnished.outside ["g"] fun hd => ?_).resolve_right fun ⟨hway, hnone, _⟩ => ?_
    · have hlen := hd.length_le
      simp at hlen
    · have hbefore := (hs.shelf.tended_makeDirs hu.proper isFront_files hdirs).1.furnished
      obtain hq | hq | hq := onWay_plainCache hdir (hbefore.onWay_iff.mp hway)
      · cases hq
      · exact hnode (hq ▸ hnone)
      · cases hq
  rw [Host.mtime?, hnow]
  exact eq_ok_of_toOption hmtime

theorem exec_plainCall :
    (exec (storeEntry "v" { files := ["g"] } none) (((plainCache dir).ofVersion "1").on none plainHost)).1 =
        .ok () ∧
      (plainEnd dir).mtime? "g" = .ok (if dir = "g" then some 2 else none) := by
  have hw : ∃ text, Json.writePretty plainRun.outcome.toValue = .ok text := by
    obtain ⟨text, htext⟩ := Option.ne_none_iff_exists'.mp seen_plainRun.2.2
    exact ⟨text, eq_ok_of_toOption htext⟩
  obtain ⟨h', hexec, hmtime⟩ := exec_storeEntry_plainHost hdir (material_plainRun dir) hw
  have hexec' : exec (storeEntry "v" { files := ["g"] } none) (((plainCache dir).ofVersion "1").on none plainHost) =
      (.ok (), (plainCache dir).on none h') := hexec
  have hhost : plainEnd dir = _ := host_store "1" none "v" { files := ["g"] } none
    (inUse_plainCache hdir).enabled plainHost
  rw [hhost, hexec']
  exact ⟨rfl, hmtime⟩

theorem events_plainCall : plainCall.events (plainCache dir) plainHost = [.stored plainRun] :=
  events_store (exec_plainCall hdir).1

theorem ledger_plainEnd : Ledger (plainCache dir) [dir, "c"] [.stored plainRun] (plainEnd dir) := by
  have hcall := Ledger.call plainCall (ledger_plainHost hdir)
  rwa [events_plainCall hdir, List.append_nil] at hcall

end Plain

/-! ## 6. What a fetch gives -/

/-- SHA-256 tells these texts apart. -/
def ToldApart (texts : String → Prop) : Prop :=
  ∀ a b, texts a → texts b → Sha256.hex a = Sha256.hex b → a = b

/-- The texts whose digests are compared by a fetch: the materials of the stored runs, then and now. -/
def Compared (c : Cache) (log : List Event) (version name : String) (config : Option Config) (h : Host)
    (text : String) : Prop :=
  ∃ x, .stored x ∈ log ∧
    (x.material c = .ok text ∨ (c.ofVersion version).material h name config x.files = .ok text)

/-- What a fetch gives is the outcome of a run that is in the index and has the fingerprint that is asked for. -/
theorem Stocked.exists_of_fetch (hu : c.InUse) (hs : Stocked c d s h) (hre : s.Rereads)
    {name : String} {config : Option Config} {ds : Option Diagnostics} {o : Outcome}
    (hf : (exec (fetch name config) (c.on ds h)).1 = .ok (some o)) :
    ∃ i e t x, s.index = some (c.version, i) ∧ Assoc.get? name i = some e ∧ e.files ≠ [] ∧
      c.fingerprint h name config e.files = .ok e.fingerprint ∧ e.fingerprint = Sha256.hex t ∧
      s.payload (Sha256.hex t) = some x ∧ o = { x.outcome.unmended with files := e.files } := by
  obtain ⟨r, h', hload, hloading⟩ := exec_loadIndex_stocked hu.proper hs ds
  obtain ⟨stored, ds', hfetch, hiff⟩ := exec_fetch_of_load hu name config hload
  rw [hfetch] at hf
  obtain ⟨i, e, rfl, hget, hne, hfp, hpay⟩ := (hiff o).mp hf
  rcases hloading with ⟨i', hfound, hi, rfl⟩ | ⟨hnone | ⟨f, hnone⟩, -⟩
  · obtain rfl := Except.ok.inj hi
    obtain ⟨i₀, hi₀, rfl⟩ := (hre.found_iff fun v i hi => (hs.tidy v i hi).nodup).mp hfound
    have htidy := hs.tidy _ _ hi₀
    rw [CacheIndex.get?_arranged htidy.nodup] at hget
    obtain ⟨t, hmark, hfile⟩ := htidy.named name e hget
    obtain ⟨x, hx, ho⟩ := (hs.payload_eq_ok_iff hu.proper hre hfile).mp hpay
    exact ⟨i₀, e, t, x, hi₀, hget, hne, hfp, hmark, hx, ho⟩
  · rw [Except.ok.inj hnone] at hget
    cases hget
  · cases hnone

/-- **A fetch gives what was stored last**: under this name, by a cache of this version, not cleared since, with
this configuration, and with files that have the times of change that they had then. -/
theorem fetch_of_ledger (hu : c.InUse) (hl : Ledger c d log h) (hre : Legible c log)
    {version name : String} {config : Option Config} (hname : Json.Rereads (.text name))
    (hno : ToldApart (Compared c log version name config h)) {ds : Option Diagnostics} {o : Outcome}
    (hf : (exec (fetch name config) ((c.ofVersion version).on ds h)).1 = .ok (some o)) :
    ∃ x, lastStored name log = some x ∧ x.version = version ∧ x.outcome.files ≠ [] ∧
      (∃ text, Json.writeSorted (configValue x.config) = .ok text ∧
        Json.writeSorted (configValue config) = .ok text) ∧
      (∀ p ∈ x.outcome.files, h.mtime? p = x.host.mtime? p) ∧
      o = { x.outcome.unmended with files := Order.sortedDistinct x.outcome.files } := by
  obtain ⟨s, hs, ha⟩ := hl.accounts hu hre
  obtain ⟨i, e, t, x, hi, hget, hne, hfp, hmark, hx, rfl⟩ := Stocked.exists_of_fetch (hu.ofVersion version)
    ((stocked_ofVersion version).mpr hs) (ha.rereads hre) hf
  obtain ⟨hxmark, hlast, i', hi', hentry⟩ := ha.payload t x hx
  obtain ⟨hxlog, -⟩ := mem_of_lastStored hlast
  obtain ⟨before, hthen⟩ := ha.material x hxlog
  obtain rfl : x.version = version := by
    cases hi.symm.trans hi'
    rfl
  obtain rfl : i = i' := by
    cases hi.symm.trans hi'
    rfl
  -- The entry is that of a stored run, so its files are among those whose digests are compared.
  obtain ⟨y, hylog, -, -, rfl⟩ := (ha.index _ _ hi).stored name e hget
  obtain ⟨now, hnow, hnowmark⟩ := exists_material (hu.ofVersion x.version) hfp
  have hsame : now = before := by
    refine hno now before ⟨y, hylog, .inr hnow⟩ ⟨x, hxlog, .inl hthen⟩ ?_
    rw [← hnowmark, hmark, ← hxmark, Deposit.mark_of_material hthen]
  subst hsame
  have hnames : name = x.name := Json.quote_injective hname (hre.name x hxlog) (name_eq_of_material rfl hnow hthen)
  subst hnames
  have hentries : y.entry c = x.entry c := Option.some.inj (hget.symm.trans hentry)
  have hfiles : (y.entry c).files = x.files := congrArg CacheEntry.files hentries
  rw [hfiles] at hnow
  obtain ⟨⟨text, hconfig, hconfig'⟩, hstamps⟩ := config_eq_of_material rfl hthen hnow
  refine ⟨x, hlast, rfl, ?_, ⟨text, hconfig, hconfig'⟩, fun p hp => hstamps p ?_, by rw [hfiles]; rfl⟩
  · rw [hfiles] at hne
    exact fun hnil => hne (Order.sortedDistinct_eq_nil.mpr hnil)
  · rw [Order.mem_sortedDistinct, Deposit.files, Order.mem_sortedDistinct]
    exact hp

/-- Below another directory the file stays missing. -/
theorem mtime?_plainEnd : (plainEnd "a").mtime? "g" = plainHost.mtime? "g" := by
  obtain ⟨hnothing, -⟩ := seen_plainHost
  rw [(exec_plainCall List.mem_cons_self).2, eq_ok_of_toOption hnothing]
  rfl

theorem fetch_plainEnd :
    (exec (fetch "v" none) (((plainCache "a").ofVersion "1").on none (plainEnd "a"))).1 =
      .ok (some plainRun.answer) := by
  have hdir : "a" ∈ ["a", "g"] := List.mem_cons_self
  have hu := inUse_plainCache hdir
  have hre := legible_plainRun "a"
  obtain ⟨s, hs, ha, hp, -⟩ :=
    (ledger_plainHost hdir).exists_present hu (hre.mono nofun) (events_plainCall hdir)
  refine hs.fetch_of_present hu (ha.rereads hre) hp ⟨_, material_plainRun "a"⟩ (List.cons_ne_nil _ _)
    (fun p hp => ?_) none
  rw [List.mem_singleton.mp hp]
  exact mtime?_plainEnd

/-- The materials of the small ledger, then and now, are one text. -/
theorem compared_plainEnd {text : String}
    (ht : Compared (plainCache "a") [.stored plainRun] "1" "v" none (plainEnd "a") text) : text = plainText := by
  obtain ⟨x, hx, hm⟩ := ht
  cases List.mem_singleton.mp hx
  have hthen := material_plainRun "a"
  rcases hm with hm | hm
  · exact Except.ok.inj (hm.symm.trans hthen)
  · rw [material_plainRun_congr "a" mtime?_plainEnd] at hm
    exact Except.ok.inj (hm.symm.trans hthen)

theorem fetch_of_small_ledger :
    ∃ x, lastStored "v" [.stored plainRun] = some x ∧ x.version = "1" ∧ x.outcome.files ≠ [] ∧
      (∃ text, Json.writeSorted (configValue x.config) = .ok text ∧
        Json.writeSorted (configValue none) = .ok text) ∧
      (∀ p ∈ x.outcome.files, (plainEnd "a").mtime? p = x.host.mtime? p) ∧
      plainRun.answer = { x.outcome.unmended with files := Order.sortedDistinct x.outcome.files } := by
  refine fetch_of_ledger (inUse_plainCache List.mem_cons_self) (ledger_plainEnd List.mem_cons_self)
    (legible_plainRun "a") ((legible_plainRun "a").name plainRun List.mem_cons_self) (fun a b ha hb _ => ?_)
    fetch_plainEnd
  rw [compared_plainEnd ha, compared_plainEnd hb]

end Cache

end AgentLint
