import AgentLint.Proofs.Cache.Contents

/-!
# Calls of a cache

A cache is called to fetch and to store outcomes, to count its entries and to be cleared; caches of several
versions may be called at one place.  `Turn` says what a call can do to the contents of the directory and which
events it comes to, and `exec_call` that every call does that, and nothing else but make directories on the way
to its own.
-/

namespace AgentLint

-- Digests are compared but never computed here.
attribute [local irreducible] Sha256.hex

namespace Cache

variable {c : Cache} {d : Place} {s s' : Contents} {h h' : Host} {ds : Option Diagnostics}
  {name : String} {config : Option Config}

/-! ## 1. Fetching -/

/-- **Fetching**, given what reading the index has given. -/
theorem exec_fetch_of_load (hu : c.InUse) (name : String) (config : Option Config)
    {r : Except Fault CacheIndex}
    (hload : exec loadIndex (c.on ds h) = (r, c.on ds h')) :
    ∃ stored ds', exec (fetch name config) (c.on ds h) = (stored, c.on ds' h') ∧
      ∀ o, stored = .ok (some o) ↔ ∃ i e, r = .ok i ∧ Assoc.get? name i = some e ∧ e.files ≠ [] ∧
        c.fingerprint h' name config e.files = .ok e.fingerprint ∧ payload (c.on ds h') e = .ok o := by
  obtain ⟨fresh, hexec, hfresh⟩ := exec_freshEntry_of_load name config hload
  have henabled : (c.on ds h).cache.enabled = true := hu.enabled
  have hiff : ∀ o, (∃ e, fresh = .ok (some e) ∧ payload (c.on ds h') e = .ok o) ↔
      ∃ i e, r = .ok i ∧ Assoc.get? name i = some e ∧ e.files ≠ [] ∧
        c.fingerprint h' name config e.files = .ok e.fingerprint ∧ payload (c.on ds h') e = .ok o := by
    intro o
    constructor
    · rintro ⟨e, he, ho⟩
      obtain ⟨i, hi, hget, hne, hfp⟩ := (hfresh e).mp he
      exact ⟨i, e, hi, hget, hne, hfp, ho⟩
    · rintro ⟨i, e, hi, hget, hne, hfp, ho⟩
      exact ⟨e, (hfresh e).mpr ⟨i, hi, hget, hne, hfp⟩, ho⟩
  simp only [← hiff]
  unfold fetch
  rw [exec_bind, exec_get]
  simp only [henabled, Bool.not_true, Bool.false_eq_true, if_false]
  rw [exec_bind, exec_lift_run, hexec]
  cases fresh with
  | error f =>
    refine ⟨.ok none, ds.map fun ds => ds.warn ("Failed to read cache for " ++ name ++ ": " ++ f.message)
      source trouble, rfl, fun o => ⟨nofun, ?_⟩⟩
    rintro ⟨e, he, -⟩
    cases he
  | ok entry =>
    cases entry with
    | none =>
      refine ⟨.ok none, ds, rfl, fun o => ⟨nofun, ?_⟩⟩
      rintro ⟨e, he, -⟩
      cases he
    | some e =>
      simp only
      rw [exec_bind, exec_get]
      simp only [Except.ok.injEq, Option.some.injEq, exists_eq_left']
      cases hpay : payload (c.on ds h') e with
      | ok o => exact ⟨.ok (some o), ds, rfl, fun o' => by simp⟩
      | error f =>
        by_cases hpass : isPassedOver f = true
        · simp only [hpass, if_true]
          exact ⟨.ok none, ds, rfl, fun o' => by simp⟩
        · simp only [hpass]
          exact ⟨.error f, ds, rfl, fun o' => by simp⟩

/-- What is read where an outcome is kept is an outcome that is stored. -/
theorem Stocked.exists_of_readBytes (hs : Stocked c d s h) (hc : c.location.Proper) {t : String}
    {bytes : List UInt8} (hread : h.readBytes (c.below ["files", Sha256.hex t ++ ".json"]).text = .ok bytes) :
    ∃ x text, s.payload (Sha256.hex t) = some x ∧ Json.writePretty x.outcome.toValue = .ok text ∧
      bytes = Utf8.encode text := by
  obtain ⟨p, m, hstat⟩ := Host.readBytes_eq_ok_iff.mp hread
  obtain ⟨d', hd', hnode⟩ :=
    node?_of_stat_below hc hs.shelf.noLinks_holds (ordinary_payload t) (by simp) hstat
  cases hs.shelf.place.symm.trans hd'
  obtain ⟨v, text, hv, hw, rfl⟩ := (hs.payload t).exists_of_file hnode
  obtain ⟨x, hx, rfl⟩ := Option.map_eq_some_iff.mp hv
  exact ⟨x, text, hx, hw, rfl⟩

/-- **The outcome of an entry** is that of the run whose outcome is stored. -/
theorem Stocked.payload_eq_ok_iff (hs : Stocked c d s h) (hc : c.location.Proper) (hre : s.Rereads)
    {e : CacheEntry} {t : String} (he : e.resultFile = Sha256.hex t ++ ".json") {o : Outcome} :
    Cache.payload (c.on ds h) e = .ok o ↔
      ∃ x, s.payload (Sha256.hex t) = some x ∧ o = { x.outcome.unmended with files := e.files } := by
  have hpath : (c.on ds h).cache.payloadPath e.resultFile = c.below ["files", Sha256.hex t ++ ".json"] := by
    rw [he]
    exact payloadPath_eq c t
  have hhost : (c.on ds h).host = h := rfl
  have hvalue : ∀ x : Deposit, (do
      let o ← (Outcome.ofValue x.outcome.toValue).mapError Fault.shape
      pure { o with files := e.files } : Except Fault Outcome) =
        .ok { x.outcome.unmended with files := e.files } := by
    intro x
    rw [Outcome.ofValue_toValue]
    rfl
  unfold Cache.payload
  rw [hpath, hhost]
  constructor
  · intro hpay
    cases hread : h.readBytes (c.below ["files", Sha256.hex t ++ ".json"]).text with
    | error f =>
      rw [Host.readJson_of_readBytes_error hread] at hpay
      cases hpay
    | ok bytes =>
      obtain ⟨x, text, hx, hw, rfl⟩ := hs.exists_of_readBytes hc hread
      rw [Json.readJson_of_written (hre.payload _ x hx) hw hread] at hpay
      exact ⟨x, hx, Except.ok.inj (hpay.symm.trans (hvalue x))⟩
  · rintro ⟨x, hx, rfl⟩
    obtain ⟨text, hw, hbytes⟩ := hs.readBytes_payload hc hx
    rw [Json.readJson_of_written (hre.payload _ x hx) hw hbytes]
    exact hvalue x

/-! ## 2. Counting and clearing -/

/-- Counting leaves what reading the index leaves. -/
theorem exec_stats_of_load {r : Except Fault CacheIndex}
    (hload : exec loadIndex (c.on ds h) = (r, c.on ds h')) : (exec stats (c.on ds h)).2 = c.on ds h' := by
  unfold stats
  rw [exec_bind, hload]
  cases r with
  | error e => rfl
  | ok i =>
    simp only
    rw [exec_bind, exec_get]
    simp only
    rw [exec_bind, exec_lift]
    split
    · rename_i heq
      rw [← (Prod.mk.inj heq).2]
      rfl
    · rename_i heq
      rw [← (Prod.mk.inj heq).2]

theorem exec_clear (ds : Option Diagnostics) (h : Host) :
    ∃ ds', (exec clear (c.on ds h)).2 = c.on ds' (exec (FileOp.removeTree c.location) h).2 := by
  unfold clear
  rw [exec_bind, exec_get]
  simp only
  rw [exec_bind, exec_onFiles, FileOp.exec_attempt]
  have hlocation : (c.on ds h).cache.location = c.location := rfl
  rw [hlocation]
  simp only [Except.mapError]
  generalize exec (FileOp.removeTree c.location) h = removed
  obtain ⟨r, h'⟩ := removed
  simp only
  split
  · exact ⟨ds, rfl⟩
  · exact ⟨ds, rfl⟩
  · split
    · exact ⟨_, rfl⟩
    · exact ⟨ds, rfl⟩

/-- **Clearing** leaves no outcome, and no index unless it could not be reached. -/
theorem exec_clear_stocked (hc : c.location.Proper) (hs : Stocked c d s h) (ds : Option Diagnostics) :
    ∃ ds' h' s', (exec clear (c.on ds h)).2 = c.on ds' h' ∧ Tended c d h h' ∧ Stocked c d s' h' ∧
      (s' = s.emptied ∨ s' = ⟨none, fun _ => none⟩) := by
  obtain ⟨ds', hclear⟩ := exec_clear (c := c) ds h
  obtain ⟨r, h', he, ⟨htended, hvacant⟩ | ⟨rfl, hnot⟩⟩ := hs.shelf.exec_removeTree_location hc
  · rw [he] at hclear
    refine ⟨ds', h', _, hclear, htended, ⟨htended.shelf, ?_, fun t => ?_, onlyStock_of_vacant hvacant,
      fun _ _ hi => (by cases hi), fun _ _ => rfl, ?_⟩, .inr rfl⟩
    · exact held_none_of_vacant (hvacant _ (List.prefix_append d _))
    · exact held_none_of_vacant (hvacant _ (List.prefix_append d _))
    · exact fun t ht => absurd rfl ht
  · rw [he] at hclear
    refine ⟨ds', _, _, hclear, hs.shelf.tended_refl, hs.emptied_of_none fun t => ?_, .inl rfl⟩
    by_contra hne
    obtain ⟨m, hm⟩ := hs.shelf.locate_location hc (hs.reach t hne).1
    cases hnot _ _ hm

/-! ## 3. Calls -/

/-- What can be asked of a cache. -/
inductive Request where
  /-- The stored outcome of a validator. -/
  | fetch (name : String) (config : Option Config)
  /-- That the outcome of a validator be stored. -/
  | store (name : String) (o : Outcome) (config : Option Config)
  /-- The number of entries and their size. -/
  | stats
  /-- That everything be removed. -/
  | clear

/-- A call of a cache of some version. -/
structure Call where
  /-- The version. -/
  version : String
  /-- Where trouble is reported. -/
  diagnostics : Option Diagnostics
  /-- What is asked. -/
  request : Request

/-- Something that a call comes to. -/
inductive Event where
  /-- A run was stored. -/
  | stored (x : Deposit)
  /-- The cache was cleared. -/
  | cleared

namespace Call

/-- The cache that is called. -/
def site (c : Cache) (h : Host) (a : Call) : Site := (c.ofVersion a.version).on a.diagnostics h

/-- The host after a call. -/
def host (c : Cache) (h : Host) (a : Call) : Host :=
  match a.request with
  | .fetch name config => (exec (Cache.fetch name config) (a.site c h)).2.host
  | .store name o config => ((Cache.store name o config).run (a.site c h)).2.host
  | .stats => (exec Cache.stats (a.site c h)).2.host
  | .clear => (exec Cache.clear (a.site c h)).2.host

/-- The events of a call: storing is one if it takes effect, clearing always. -/
def events (c : Cache) (h : Host) (a : Call) : List Event :=
  match a.request with
  | .store name o config =>
    match (exec (storeEntry name o config) (a.site c h)).1 with
    | .ok () => [.stored ⟨a.version, name, config, o, h⟩]
    | .error _ => []
  | .clear => [.cleared]
  | _ => []

end Call

/-- What a call of a cache of some version does to the contents, with the events that it comes to. -/
inductive Turn (c : Cache) (version : String) (s : Contents) : List Event → Contents → Prop where
  /-- The index was read, if anything. -/
  | spared {s' : Contents} (h : s.Spared version s') : Turn c version s [] s'
  /-- A run was added. -/
  | added {x : Deposit} {i : CacheIndex} {s' : Contents} (hv : x.version = version)
    (hm : ∃ text, x.material c = .ok text) (hl : s.Loaded version i s') :
    Turn c version s [.stored x] (s'.add c x i)
  /-- No outcome is left. -/
  | cleared {s' : Contents} (h : s' = s.emptied ∨ s' = ⟨none, fun _ => none⟩) :
    Turn c version s [.cleared] s'

/-! ## 4. What a call does -/

section Version

variable (version : String)

theorem InUse.ofVersion (hu : c.InUse) : (c.ofVersion version).InUse := ⟨hu.proper, hu.enabled, hu.digest⟩

/-- The version of a cache has nothing to do with its directory. -/
theorem stocked_ofVersion : Stocked (c.ofVersion version) d s h ↔ Stocked c d s h := by
  have hshelf : Shelf (c.ofVersion version) d h ↔ Shelf c d h :=
    ⟨fun hs => ⟨⟨hs.place, hs.unlinked, hs.straight, hs.grounded, hs.away⟩, hs.noLinks, hs.dirs⟩,
      fun hs => ⟨⟨hs.place, hs.unlinked, hs.straight, hs.grounded, hs.away⟩, hs.noLinks, hs.dirs⟩⟩
  exact ⟨fun hs => ⟨hshelf.mp hs.shelf, hs.index, hs.payload, hs.only, hs.tidy, hs.indexed, hs.reach⟩,
    fun hs => ⟨hshelf.mpr hs.shelf, hs.index, hs.payload, hs.only, hs.tidy, hs.indexed, hs.reach⟩⟩

theorem furnished_ofVersion (hf : Furnished (c.ofVersion version) d h h') : Furnished c d h h' :=
  ⟨hf.only_tree, hf.sameLinks, hf.outside⟩

end Version

/-- A call that does not change the contents but by reading the index. -/
theorem exec_reading (hs : Stocked c d s h) {version : String} {r : Except Fault CacheIndex}
    (hl : Loading (c.ofVersion version) d s h r h') :
    ∃ s', Turn c version s [] s' ∧ Stocked c d s' h' ∧ Furnished c d h h' := by
  have hs' := (stocked_ofVersion version).mpr hs
  obtain ⟨s', hspared, hstocked⟩ := hl.spared hs'
  exact ⟨s', .spared hspared, (stocked_ofVersion version).mp hstocked,
    furnished_ofVersion version (hl.tended hs').furnished⟩

section Store

variable (version : String) (ds : Option Diagnostics) (name : String) (o : Outcome) (config : Option Config)

/-- What storing leaves, reported or not. -/
theorem host_store (he : c.enabled = true) (h : Host) :
    Call.host c h ⟨version, ds, .store name o config⟩ =
      (exec (storeEntry name o config) ((c.ofVersion version).on ds h)).2.host := by
  show ((store name o config).run ((c.ofVersion version).on ds h)).2.host = _
  rw [run_store_eq _ he]
  generalize exec (storeEntry name o config) ((c.ofVersion version).on ds h) = ended
  obtain ⟨r, s⟩ := ended
  cases r <;> rfl

variable {version ds name o config}

theorem events_store (hok : (exec (storeEntry name o config) ((c.ofVersion version).on ds h)).1 = .ok ()) :
    Call.events c h ⟨version, ds, .store name o config⟩ = [.stored ⟨version, name, config, o, h⟩] := by
  simp only [Call.events, Call.site, hok]

theorem events_store_error {e : Fault}
    (he : (exec (storeEntry name o config) ((c.ofVersion version).on ds h)).1 = .error e) :
    Call.events c h ⟨version, ds, .store name o config⟩ = [] := by
  simp only [Call.events, Call.site, he]

/-- Storing, as a call. -/
theorem exec_call_store (hu : c.InUse) (hs : Stocked c d s h) :
    ∃ s', Turn c version s (Call.events c h ⟨version, ds, .store name o config⟩) s' ∧
      Stocked c d s' (Call.host c h ⟨version, ds, .store name o config⟩) ∧
      Furnished c d h (Call.host c h ⟨version, ds, .store name o config⟩) := by
  have hu' := hu.ofVersion version
  obtain ⟨r, h₁, hexec, htended, hend⟩ :=
    exec_storeEntry_stocked hu' ((stocked_ofVersion version).mpr hs) name o config ds
  have hfurnished := furnished_ofVersion version htended.furnished
  have hends := congrArg Prod.fst hexec
  rw [host_store version ds name o config hu.enabled, hexec]
  rcases hend with ⟨rfl, hmaterial, i, s', hl, hstocked⟩ | ⟨⟨e, rfl⟩, s', hspared, hstocked⟩
  · rw [events_store hends]
    exact ⟨_, .added rfl hmaterial hl, (stocked_ofVersion version).mp hstocked, hfurnished⟩
  · rw [events_store_error hends]
    exact ⟨s', .spared hspared, (stocked_ofVersion version).mp hstocked, hfurnished⟩

end Store

/-- **Every call does to the contents what `Turn` says.** -/
theorem exec_call (hu : c.InUse) (hs : Stocked c d s h) (a : Call) :
    ∃ s', Turn c a.version s (a.events c h) s' ∧ Stocked c d s' (a.host c h) ∧
      Furnished c d h (a.host c h) := by
  obtain ⟨version, ds, request⟩ := a
  have hu' := hu.ofVersion version
  have hs' := (stocked_ofVersion version).mpr hs
  obtain ⟨r, h', hload, hloading⟩ := exec_loadIndex_stocked hu'.proper hs' ds
  cases request with
  | fetch name config =>
    obtain ⟨stored, ds', hfetch, -⟩ := exec_fetch_of_load hu' name config hload
    have hhost : Call.host c h ⟨version, ds, .fetch name config⟩ = h' := by
      show (exec (fetch name config) ((c.ofVersion version).on ds h)).2.host = h'
      rw [hfetch]
      rfl
    rw [hhost]
    exact exec_reading hs hloading
  | store name o config => exact exec_call_store hu hs
  | stats =>
    have hhost : Call.host c h ⟨version, ds, .stats⟩ = h' := by
      show (exec stats ((c.ofVersion version).on ds h)).2.host = h'
      rw [exec_stats_of_load hload]
      rfl
    rw [hhost]
    exact exec_reading hs hloading
  | clear =>
    obtain ⟨ds', h₁, s', hclear, htended, hstocked, hempty⟩ := exec_clear_stocked hu'.proper hs' ds
    have hhost : Call.host c h ⟨version, ds, .clear⟩ = h₁ := by
      show (exec clear ((c.ofVersion version).on ds h)).2.host = h₁
      rw [hclear]
      rfl
    rw [hhost]
    exact ⟨s', .cleared hempty, (stocked_ofVersion version).mp hstocked,
      furnished_ofVersion version htended.furnished⟩

end Cache

end AgentLint
