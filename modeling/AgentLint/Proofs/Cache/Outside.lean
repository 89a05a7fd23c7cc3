import AgentLint.Proofs.Cache.CallParts
import AgentLint.Proofs.Cache.Failures
import Mathlib.Logic.Function.Iterate

/-!
# What the cache leaves alone

Outside of its directory a cache changes nothing, save that storing makes the directories on the way to it.  For
fetching, counting and clearing that holds on every host.

Storing ends with removing the file of the entry that it replaces, and the index names that file.  An index may hold
any text, and a name like `../../victim` leads out of the directory.  `Strays` says what such a call removes, and
`outside_of_calls` that it removes nothing else.  A directory is `Confined` if no entry of its index leads out of
it.  Calls leave it so: what they add to an index are files named by digests.
-/

namespace AgentLint

-- Digests are compared but never computed here.
attribute [local irreducible] Sha256.hex

namespace Cache

variable {c : Cache} {h h' : Host} {ds ds' : Option Diagnostics} {name mark : String} {o : Outcome}
  {config : Option Config} {q : Place}

/-! ## 1. Calls that do not store -/

/-- The directory of the outcomes is in that of the cache. -/
theorem holds_of_locate_files (hc : c.location.Proper) {p : Place} {n : Node}
    (hl : h.locate false (c.below ["files"]).text = .ok (.at p n)) (hn : n.isDirectory = true) : c.Holds h p := by
  obtain ⟨hland, hnode⟩ := Host.land_of_locate (proper_below hc isFront_files.ordinary) hl
  have hplain : FileTree.Plain ["files"] := isFront_files.ordinary.plain
  have hchild : h.land false (c.location.child "files") = some p := hland
  obtain ⟨d, hd, rfl⟩ := Host.land_child hplain hchild fun target m' hlink => by
    cases hnode.symm.trans hlink
    cases hn
  exact ⟨d, hd, List.prefix_append d _⟩

/-- A directory that clearing removes is that of the cache. -/
theorem holds_of_locate_location (hc : c.location.Proper) {p : Place} {n : Node}
    (hl : h.locate false c.location.text = .ok (.at p n)) (hn : n.isDirectory = true) : c.Holds h p := by
  obtain ⟨hland, hnode⟩ := Host.land_of_locate hc hl
  refine ⟨p, Host.land_true_of_false hland fun target m' hlink => ?_, List.prefix_refl p⟩
  cases hnode.symm.trans hlink
  cases hn

theorem Holds.below {p : Place} (hp : c.Holds h p) (hq : p <+: q) : c.Holds h q := by
  obtain ⟨d, hd, hdp⟩ := hp
  exact ⟨d, hd, hdp.trans hq⟩

/-- What reading the index leaves: the host, or the host without the outcomes. -/
theorem exec_loadIndex_leaves (c : Cache) (ds : Option Diagnostics) (h : Host) :
    ∃ ds' h', (exec loadIndex (c.on ds h)).2 = c.on ds' h' ∧
      (h' = h ∨ h' = (exec (FileOp.removeTree (c.below ["files"])) h).2) := by
  rcases exec_loadIndex_cases c ds h with ⟨f, -, hf⟩ | ⟨i, -, hi⟩ | ⟨ds', h', hnone, hh'⟩
  · exact ⟨ds, h, by rw [hf], .inl rfl⟩
  · exact ⟨ds, h, by rw [hi], .inl rfl⟩
  · exact ⟨ds', h', by rw [hnone], hh'⟩

/-- Fetching leaves what reading the index leaves, and counting does so too. -/
theorem host_fetch (he : c.enabled = true) (name : String) (config : Option Config) (ds : Option Diagnostics)
    (h : Host) : (exec (fetch name config) (c.on ds h)).2.host = (exec loadIndex (c.on ds h)).2.host := by
  obtain ⟨ds₁, h₁, hload, -⟩ := exec_loadIndex_leaves c ds h
  obtain ⟨ds₂, hanswer⟩ := exec_answer c name config ((exec loadIndex (c.on ds h)).1.map (Assoc.get? name)) ds₁ h₁
  rw [exec_fetch_parts (c.on ds h) he, exec_entryOf, hload, hanswer]
  rfl

/-- A cache that is off gives nothing. -/
theorem exec_fetch_off (he : c.enabled = false) (name : String) (config : Option Config) (ds : Option Diagnostics)
    (h : Host) : exec (fetch name config) (c.on ds h) = (.ok none, c.on ds h) := by
  have hoff : (c.on ds h).cache.enabled = false := he
  unfold fetch
  rw [exec_bind, exec_get]
  simp only [hoff]
  rfl

theorem host_fetch_off (he : c.enabled = false) (name : String) (config : Option Config) (ds : Option Diagnostics)
    (h : Host) : (exec (fetch name config) (c.on ds h)).2.host = h := by
  rw [exec_fetch_off he]
  rfl

theorem host_stats (ds : Option Diagnostics) (h : Host) :
    (exec stats (c.on ds h)).2.host = (exec loadIndex (c.on ds h)).2.host := by
  obtain ⟨ds₁, h₁, hload, -⟩ := exec_loadIndex_leaves c ds h
  cases hr : exec loadIndex (c.on ds h) with
  | mk r s =>
    cases r with
    | error f =>
      unfold stats
      rw [exec_bind, hr]
    | ok i =>
      rw [hr] at hload
      cases hload
      rw [exec_stats_of_ok hr]
      rfl

/-- What a call does that does not store. -/
theorem host_cases (c : Cache) (h : Host) (a : Call) (hnot : ∀ name o config, a.request ≠ .store name o config) :
    a.host c h = h ∨ a.host c h = (exec (FileOp.removeTree (c.below ["files"])) h).2 ∨
      a.host c h = (exec (FileOp.removeTree c.location) h).2 := by
  obtain ⟨version, ds, request⟩ := a
  have hload : (exec loadIndex ((c.ofVersion version).on ds h)).2.host = h ∨
      (exec loadIndex ((c.ofVersion version).on ds h)).2.host =
        (exec (FileOp.removeTree (c.below ["files"])) h).2 := by
    obtain ⟨ds', h', hs, hh'⟩ := exec_loadIndex_leaves (c.ofVersion version) ds h
    rw [hs]
    exact hh'
  cases request with
  | fetch name config =>
    show (exec (fetch name config) ((c.ofVersion version).on ds h)).2.host = h ∨
      (exec (fetch name config) ((c.ofVersion version).on ds h)).2.host = _ ∨ _
    cases he : c.enabled with
    | true =>
      rw [host_fetch (c := c.ofVersion version) he name config ds h]
      exact hload.imp_right .inl
    | false => exact .inl (host_fetch_off (c := c.ofVersion version) he name config ds h)
  | stats =>
    have hhost := host_stats (c := c.ofVersion version) ds h
    show (exec stats ((c.ofVersion version).on ds h)).2.host = h ∨
      (exec stats ((c.ofVersion version).on ds h)).2.host = _ ∨ _
    rw [hhost]
    exact hload.imp_right .inl
  | clear =>
    obtain ⟨ds', hclear⟩ := exec_clear (c := c.ofVersion version) ds h
    refine .inr (.inr ?_)
    show (exec clear ((c.ofVersion version).on ds h)).2.host = _
    rw [hclear]
    rfl
  | store name o config => exact absurd rfl (hnot name o config)

/-- **A call that does not store** leaves all that is outside of the directory, on any host. -/
theorem node?_of_not_store (hc : c.location.Proper) {a : Call}
    (hnot : ∀ name o config, a.request ≠ .store name o config) (hq : ¬ c.Holds h q) :
    (a.host c h).tree.node? q = h.tree.node? q := by
  rcases host_cases c h a hnot with he | he | he
  · rw [he]
  · rw [he]
    exact FileOp.node?_removeTree fun p n hl hn hpq => hq ((holds_of_locate_files hc hl hn).below hpq)
  · rw [he]
    exact FileOp.node?_removeTree fun p n hl hn hpq => hq ((holds_of_locate_location hc hl hn).below hpq)

/-- Within the directory such a call only removes. -/
theorem effect_of_not_store (hc : c.location.Proper) (hno : c.NoLinks h) {a : Call}
    (hnot : ∀ name o config, a.request ≠ .store name o config) (written : Place → List UInt8 → Prop) :
    Effect (c.Holds h) written h (a.host c h) := by
  rcases host_cases c h a hnot with he | he | he
  · rw [he]
    exact Effect.refl h
  · rw [he]
    exact FileOp.effect_removeTree hno.region fun p n hl hn => holds_of_locate_files hc hl hn
  · rw [he]
    exact FileOp.effect_removeTree hno.region fun p n hl hn => holds_of_locate_location hc hl hn

/-! ## 2. The steps of storing -/

/-- Storing once the fingerprint is known, up to its last step; what the index had for the validator. -/
def lodge (c : Cache) (h : Host) (name : String) (o : Outcome) (mark : String) : Op (Option CacheEntry) := do
  let entries ← loadIndex
  writeJson (c.payloadPath (mark ++ ".json")) o.toValue
  saveIndex (Assoc.put name ⟨mark, secondsOf h.now, mark ++ ".json", Order.sortedDistinct o.files⟩ entries)
  pure (Assoc.get? name entries)

/-- The last step of storing: the outcome of the entry that is replaced is removed. -/
def supersede (c : Cache) (mark : String) : Option CacheEntry → Op Unit
  | none => pure ()
  | some old =>
    if old.resultFile ≠ mark ++ ".json" then onFiles (FileOp.unlink (c.payloadPath old.resultFile).text) else pure ()

theorem storeMarked_eq (c : Cache) (h : Host) (name : String) (o : Outcome) (mark : String) :
    storeMarked c h name o mark = lodge c h name o mark >>= supersede c mark := by
  unfold storeMarked lodge
  simp only [bind_assoc, pure_bind]
  refine congrArg _ (funext fun entries => congrArg _ (funext fun _ => congrArg _ (funext fun _ => ?_)))
  cases Assoc.get? name entries <;> rfl

section Steps

variable {writes : Host → Place → List UInt8 → Prop}

theorem Stores.readIndex (hc : c.location.Proper) (hno : c.NoLinks h) :
    c.Stores writes h (exec loadIndex (c.on ds h)).2 := by
  obtain ⟨ds', h', hload, rfl | rfl⟩ := exec_loadIndex_leaves c ds h
  · exact ⟨ds', h', hload, Effect.refl h'⟩
  · exact ⟨ds', _, hload, FileOp.effect_removeTree hno.region fun p n hl hn => holds_of_locate_files hc hl hn⟩

/-- **Storing up to its last step** writes to the directory only: the outcome, and an index with one more entry. -/
theorem Stores.lodge (hw : Steady writes) (hc : c.location.Proper) (hno : c.NoLinks h) (h₀ : Host) (t : String)
    (hother : ∀ names follow q bytes, Ordinary names → names ≠ [] → names ≠ ["index.json"] →
      h.land follow (c.below names) = some q → writes h q bytes)
    (hindex : ∀ i s' q text, exec loadIndex (c.on ds h) = (.ok i, s') →
      h.land false (c.below ["index.json"]) = some q → Json.writePretty (CacheIndex.toValue c.version (Assoc.put name
        ⟨Sha256.hex t, secondsOf h₀.now, Sha256.hex t ++ ".json", Order.sortedDistinct o.files⟩ i)) = .ok text →
          writes h q (Utf8.encode text)) :
    c.Stores writes h (exec (Cache.lodge c h₀ name o (Sha256.hex t)) (c.on ds h)).2 := by
  unfold Cache.lodge
  refine Stores.bind hw (Stores.readIndex hc hno) fun i ds₁ h₁ hload heff₁ => ?_
  have hno₁ := hno.effect heff₁
  rw [payloadPath_eq]
  have hpayload : c.Stores writes h₁
      (exec (Cache.writeJson (c.below (["files"] ++ [Sha256.hex t ++ ".json"])) o.toValue) (c.on ds₁ h₁)).2 := by
    have hw₁ := hw h h₁ heff₁.land_eq
    refine Stores.writeJson hw hc hno₁ ["files"] (ordinary_payload t) (fun q bytes hq => ?_) fun q text hq _ => ?_
    · rw [hw₁]
      exact hother _ _ q bytes (ordinary_payload t).beside (by simp) (by simp) ((heff₁.land_eq _ _).symm.trans hq)
    · rw [hw₁]
      exact hother _ _ q _ (ordinary_payload t) (by simp) (by simp) ((heff₁.land_eq _ _).symm.trans hq)
  refine Stores.bind hw hpayload fun _ ds₂ h₂ _ heff₂ => ?_
  have hno₂ := hno₁.effect heff₂
  have hland₂ : ∀ follow path, h₂.land follow path = h.land follow path :=
    fun follow path => (heff₂.land_eq follow path).trans (heff₁.land_eq follow path)
  have hsaved : c.Stores writes h₂ (exec (saveIndex (Assoc.put name
      ⟨Sha256.hex t, secondsOf h₀.now, Sha256.hex t ++ ".json", Order.sortedDistinct o.files⟩ i)) (c.on ds₂ h₂)).2 := by
    have hw₂ := hw h h₂ hland₂
    rw [exec_saveIndex_eq]
    refine Stores.writeJson hw hc hno₂ [] ordinary_index (fun q bytes hq => ?_) fun q text hq htext => ?_
    · rw [hw₂]
      exact hother _ _ q bytes ordinary_index.beside (by simp) (by simp) ((hland₂ _ _).symm.trans hq)
    · rw [hw₂]
      exact hindex i _ q text hload ((hland₂ _ _).symm.trans hq) htext
  exact Stores.bind hw hsaved fun _ ds₃ h₃ _ _ => Stores.of_exec (exec_pure _ _)

end Steps

/-- What the index had for the validator was in the index. -/
theorem exists_of_lodge {h₀ : Host} {old : CacheEntry} {s' : Site}
    (hexec : exec (lodge c h₀ name o mark) (c.on ds h) = (.ok (some old), s')) :
    ∃ i, IndexHolds c h i ∧ Assoc.get? name i = some old := by
  unfold lodge at hexec
  obtain ⟨i, s₁, hload, hexec⟩ := exec_bind_eq_ok_iff.mp hexec
  obtain ⟨-, s₂, -, hexec⟩ := exec_bind_eq_ok_iff.mp hexec
  obtain ⟨-, s₃, -, hexec⟩ := exec_bind_eq_ok_iff.mp hexec
  rw [exec_pure] at hexec
  have hget : Assoc.get? name i = some old := Except.ok.inj (Prod.mk.inj hexec).1
  have hne : i ≠ [] := by
    rintro rfl
    cases hget
  exact ⟨i, ((exec_loadIndex_eq_ok_iff hne).mp hload).2, hget⟩

/-! ## 3. The last step of storing -/

/-- Removing a file removes what its path leads to, unless that is a directory. -/
theorem exec_unlink_cases (path : String) (h : Host) :
    ((exec (FileOp.unlink path) h).2 = h ∧ ∀ p n, h.locate false path = .ok (.at p n) →
        n.isDirectory = true) ∨
      ∃ p n, h.locate false path = .ok (.at p n) ∧ n.isDirectory = false ∧
        (exec (FileOp.unlink path) h).2 = { h with tree := h.tree.without p } := by
  unfold FileOp.unlink
  rw [exec_bind, exec_get]
  simp only
  split
  · rename_i hl
    exact .inl ⟨rfl, fun p n hp => by cases hl.symm.trans hp⟩
  · rename_i hl
    exact .inl ⟨rfl, fun p n hp => by cases hl.symm.trans hp⟩
  · rename_i hl
    exact .inl ⟨rfl, fun p n hp => by cases hl.symm.trans hp⟩
  · rename_i p n hl
    split
    · rename_i hdir
      refine .inl ⟨rfl, fun p' n' hp => ?_⟩
      cases hl.symm.trans hp
      exact hdir
    · rename_i hdir
      exact .inr ⟨p, n, hl, Bool.eq_false_iff.mpr hdir, rfl⟩

/-- The last step removes what is found at the path of the replaced outcome, or nothing. -/
theorem supersede_cases (found : Option CacheEntry) (ds : Option Diagnostics) (h : Host) :
    ((exec (supersede c mark found) (c.on ds h)).2.host = h ∧ ∀ old p n, found = some old →
        old.resultFile ≠ mark ++ ".json" → h.locate false (c.payloadPath old.resultFile).text = .ok (.at p n) →
          n.isDirectory = true) ∨
      ∃ old p n, found = some old ∧ old.resultFile ≠ mark ++ ".json" ∧
        h.locate false (c.payloadPath old.resultFile).text = .ok (.at p n) ∧ n.isDirectory = false ∧
        (exec (supersede c mark found) (c.on ds h)).2.host = { h with tree := h.tree.without p } := by
  cases found with
  | none => exact .inl ⟨rfl, fun _ _ _ hold => by cases hold⟩
  | some old =>
    by_cases hsame : old.resultFile = mark ++ ".json"
    · refine .inl ⟨?_, fun old' _ _ hold hne => ?_⟩
      · simp only [supersede, hsame, ne_eq, not_true_eq_false, if_false]
        rfl
      · cases hold
        exact absurd hsame hne
    · have hlast : (exec (supersede c mark (some old)) (c.on ds h)).2.host =
          (exec (FileOp.unlink (c.payloadPath old.resultFile).text) h).2 := by
        rw [supersede, if_pos hsame, exec_onFiles]
        simp only [Cache.on]
      rcases exec_unlink_cases (c.payloadPath old.resultFile).text h with ⟨he, hdir⟩ | ⟨p, n, hl, hdir, he⟩
      · refine .inl ⟨hlast.trans he, fun old' p n hold _ hl => ?_⟩
        cases hold
        exact hdir p n hl
      · exact .inr ⟨old, p, n, rfl, hsame, hl, hdir, hlast.trans he⟩

/-- **A call strays to a place**: it is a store that comes to its last step, and what is removed there stands at the
place or above it. -/
def Call.Strays (c : Cache) (h : Host) (a : Call) (q : Place) : Prop :=
  ∃ name o config mark old ds h₃ p n, a.request = .store name o config ∧ c.enabled = true ∧
    (c.ofVersion a.version).fingerprint h name config (Order.sortedDistinct o.files) = .ok mark ∧
    exec (lodge (c.ofVersion a.version) h name o mark) (a.site c h) = (.ok (some old), (c.ofVersion a.version).on ds h₃) ∧
    old.resultFile ≠ mark ++ ".json" ∧ h₃.locate false (c.payloadPath old.resultFile).text = .ok (.at p n) ∧
    n.isDirectory = false ∧ p <+: q

/-- What a store strays to is settled by the entry that it replaces. -/
theorem strays_store_iff {version : String} {ds₃ : Option Diagnostics} {h₃ : Host}
    {r : Except Fault (Option CacheEntry)} (hon : c.enabled = true)
    (hfp : (c.ofVersion version).fingerprint h name config (Order.sortedDistinct o.files) = .ok mark)
    (hlodge : exec (lodge (c.ofVersion version) h name o mark) ((c.ofVersion version).on ds h) =
      (r, (c.ofVersion version).on ds₃ h₃)) :
    Call.Strays c h ⟨version, ds, .store name o config⟩ q ↔ ∃ old p n, r = .ok (some old) ∧
      old.resultFile ≠ mark ++ ".json" ∧ h₃.locate false (c.payloadPath old.resultFile).text = .ok (.at p n) ∧
      n.isDirectory = false ∧ p <+: q := by
  constructor
  · rintro ⟨_, _, _, mark', old, ds', h', p, n, hrequest, -, hfp', hlodge', hne, hl, hdir, hpq⟩
    cases hrequest
    cases hfp.symm.trans hfp'
    have hsame := hlodge.symm.trans hlodge'
    cases hsame
    exact ⟨old, p, n, rfl, hne, hl, hdir, hpq⟩
  · rintro ⟨old, p, n, rfl, hne, hl, hdir, hpq⟩
    exact ⟨name, o, config, mark, old, ds₃, h₃, p, n, rfl, hon, hfp, hlodge, hne, hl, hdir, hpq⟩

/-- What a store comes to: nothing is removed, or just what a path out of the index leads to. -/
inductive StoreEnds (c : Cache) (writes : Host → Place → List UInt8 → Prop) (h : Host) (a : Call) : Prop where
  /-- Nothing is removed in the last step, if it comes to it. -/
  | plain (he : Effect (c.Holds h) (writes h) h (a.host c h)) (hnot : ∀ q, ¬ a.Strays c h q)
  /-- The outcome of the replaced entry is removed. -/
  | removed (name : String) {h₃ : Host} {i : CacheIndex} {old : CacheEntry} {p : Place} {n : Node}
    (he : Effect (c.Holds h) (writes h) h h₃) (hi : IndexHolds (c.ofVersion a.version) h i)
    (hget : Assoc.get? name i = some old)
    (hl : h₃.locate false (c.payloadPath old.resultFile).text = .ok (.at p n)) (hdir : n.isDirectory = false)
    (hhost : a.host c h = { h₃ with tree := h₃.tree.without p }) (hstrays : ∀ q, a.Strays c h q ↔ p <+: q)

/-- Without a fingerprint nothing is stored. -/
theorem exec_storeEntry_of_no_fingerprint (ds : Option Diagnostics) (o : Outcome) {f : Fault}
    (hfp : c.fingerprint h name config (Order.sortedDistinct o.files) = .error f) :
    exec (storeEntry name o config) (c.on ds h) = (.error f, c.on ds h) := by
  have hsite : (c.on ds h).cache.fingerprint (c.on ds h).host name config (Order.sortedDistinct o.files) = .error f :=
    hfp
  unfold storeEntry
  rw [exec_bind, exec_get]
  simp only
  rw [exec_bind, exec_lift, hsite]

/-- **Storing**, whatever the index holds. -/
theorem storeEnds (version : String) (ds : Option Diagnostics) (name : String) (o : Outcome) (config : Option Config)
    {writes : Host → Place → List UInt8 → Prop} (hw : Steady writes) (hc : c.location.Proper)
    (hdigest : c.digest = Sha256.hex) (hno : c.NoLinks h)
    (hother : ∀ names follow q bytes, Ordinary names → names ≠ [] → names ≠ ["index.json"] →
      h.land follow (c.below names) = some q → writes h q bytes)
    (hindex : ∀ t i s' q text, exec loadIndex ((c.ofVersion version).on ds h) = (.ok i, s') →
      h.land false (c.below ["index.json"]) = some q → Json.writePretty (CacheIndex.toValue version (Assoc.put name
        ⟨Sha256.hex t, secondsOf h.now, Sha256.hex t ++ ".json", Order.sortedDistinct o.files⟩ i)) = .ok text →
          writes h q (Utf8.encode text)) :
    StoreEnds c writes h ⟨version, ds, .store name o config⟩ := by
  cases hon : c.enabled with
  | false =>
    have hhost : Call.host c h ⟨version, ds, .store name o config⟩ = h := by
      show ((store name o config).run ((c.ofVersion version).on ds h)).2.host = h
      rw [run_store_off _ hon]
      rfl
    refine .plain (by rw [hhost]; exact Effect.refl h) ?_
    rintro q ⟨_, _, _, _, _, _, _, _, _, -, hon', -⟩
    cases hon.symm.trans hon'
  | true =>
    have hhost := host_store version ds name o config hon h
    cases hfp : (c.ofVersion version).fingerprint h name config (Order.sortedDistinct o.files) with
    | error f =>
      have hkept : Call.host c h ⟨version, ds, .store name o config⟩ = h := by
        rw [hhost, exec_storeEntry_of_no_fingerprint ds o hfp]
        rfl
      refine .plain (by rw [hkept]; exact Effect.refl h) ?_
      rintro q ⟨_, _, _, mark, _, _, _, _, _, hrequest, -, hfp', -⟩
      cases hrequest
      cases hfp.symm.trans hfp'
    | ok mark =>
      have hu : (c.ofVersion version).InUse := ⟨hc, hon, hdigest⟩
      obtain ⟨t, -, rfl⟩ := exists_material hu hfp
      have hproper : (c.ofVersion version).location.Proper := hc
      have hlinkless : (c.ofVersion version).NoLinks h := hno
      obtain ⟨ds₃, h₃, hsite, heff⟩ := Stores.lodge hw hproper hlinkless h t hother (hindex t)
      rw [exec_storeEntry_of_fingerprint ds o hfp, storeMarked_eq, exec_bind] at hhost
      cases hlodge : exec (lodge (c.ofVersion version) h name o (Sha256.hex t)) ((c.ofVersion version).on ds h) with
      | mk r s₃ =>
        rw [hlodge] at hsite hhost
        obtain rfl : s₃ = (c.ofVersion version).on ds₃ h₃ := hsite
        cases r with
        | error f =>
          refine .plain (by rw [hhost]; exact heff) fun q hq => ?_
          obtain ⟨_, _, _, hr, -⟩ := (strays_store_iff hon hfp hlodge).mp hq
          cases hr
        | ok found =>
          rcases supersede_cases found ds₃ h₃ with ⟨hkept, hdir⟩ | ⟨old, p, n, rfl, hne, hl, hdir, hgone⟩
          · refine .plain ((hhost.trans hkept).symm ▸ heff) fun q hq => ?_
            obtain ⟨old, p, n, hr, hne, hl, hnot, -⟩ := (strays_store_iff hon hfp hlodge).mp hq
            have hthere := hdir old p n (Except.ok.inj hr) hne hl
            rw [hnot] at hthere
            cases hthere
          · obtain ⟨i, hi, hget⟩ := exists_of_lodge hlodge
            refine .removed name heff hi hget hl hdir (hhost.trans hgone) fun q => ?_
            rw [strays_store_iff hon hfp hlodge]
            constructor
            · rintro ⟨_, p', n', hr, -, hl', -, hpq⟩
              cases hr
              cases hl.symm.trans hl'
              exact hpq
            · exact fun hpq => ⟨old, p, n, rfl, hne, hl, hdir, hpq⟩

/-! ## 4. Directories that nothing leads out of -/

/-- The name of an outcome leads into the directory, if anywhere, however often it is written and read again. -/
def Inward (c : Cache) (h : Host) (resultFile : String) : Prop :=
  ∀ k p, h.land false (c.payloadPath (Text.joined^[k] resultFile)) = some p → c.Holds h p

/-- Bytes that no index can be read from, or one whose entries all lead into the directory. -/
def Tame (c : Cache) (h : Host) (bytes : List UInt8) : Prop :=
  ∀ text w version i, Utf8.decode bytes = .ok text → Json.read (Utf8.universalNewlines text) = .ok w →
    CacheIndex.Holds w version i → ∀ f ∈ i, c.Inward h f.2.resultFile

/-- What may be written to a confined directory: anything but an index with an entry that leads out of it. -/
def Tamely (c : Cache) (h : Host) (q : Place) (bytes : List UInt8) : Prop :=
  ∀ d, c.place? h = some d → q = d ++ ["index.json"] → c.Tame h bytes

/-- **A directory is confined** if no link stands in it and no entry of its index leads out of it. -/
structure Confined (c : Cache) (h : Host) : Prop where
  noLinks : c.NoLinks h
  index : c.Filled c.Tamely h

theorem steady_tamely (c : Cache) : Steady c.Tamely := by
  intro h h' hland
  have hp : c.place? h' = c.place? h := hland true c.location
  funext q bytes
  simp only [Tamely, Tame, Inward, hp, holds_congr hp, hland]

theorem Confined.effect (hconf : c.Confined h) (he : Effect (c.Holds h) (c.Tamely h) h h') : c.Confined h' :=
  ⟨hconf.noLinks.effect he, hconf.index.effect (steady_tamely c) he⟩

theorem Inward.joined {r : String} (hr : c.Inward h r) : c.Inward h (Text.joined r) := by
  intro k p hp
  rw [← Function.iterate_succ_apply] at hp
  exact hr (k + 1) p hp

/-- A name that the cache makes leads into the directory. -/
theorem inward_hex (hno : c.NoLinks h) (t : String) : c.Inward h (Sha256.hex t ++ ".json") := by
  have hwhole : Text.Whole (Sha256.hex t ++ ".json") :=
    Text.whole_of_safe ((Sha256.safeText_hex t).append (by decide))
  intro k p hp
  rw [Function.iterate_fixed (Text.joined_of_whole hwhole), payloadPath_eq] at hp
  exact holds_of_land hno (ordinary_payload t) (by simp) hp

/-- An index whose entries all lead inward does so once it is written. -/
theorem tame_of_written {version text : String} {i : CacheIndex} (hi : ∀ f ∈ i, c.Inward h f.2.resultFile)
    (hw : Json.writePretty (CacheIndex.toValue version i) = .ok text) : c.Tame h (Utf8.encode text) := by
  have hsafe : Json.SafeText text := Json.safeText_writeAt rfl _ 0 text hw
  obtain ⟨bs, hlike, w₀, hread, hholds⟩ := CacheIndex.exists_shows version i
  intro text' w version' i' hdecode hw' hholds' f hf
  rw [Json.decode_encode hsafe] at hdecode
  cases hdecode
  rw [Json.universalNewlines_of_safe hsafe, hread text hw] at hw'
  cases hw'
  obtain ⟨-, rfl⟩ := hholds.unique hholds'
  obtain ⟨b, hb, hfb⟩ := Assoc.exists_of_mem_putAll hf
  obtain ⟨a, ha, -, hres⟩ := exists_of_mem_forall₂ hlike hb
  have hmem : a ∈ i := (List.mergeSort_perm i _).mem_iff.mp ha
  rw [hfb, hres.resultFile]
  exact (hi a hmem).joined

/-- What is read as JSON stands in a file as a text. -/
theorem exists_of_readJson {path : String} {w : Value} (hw : h.readJson path = .ok w) :
    ∃ p bytes m text, h.stat path = .ok (p, .file bytes m) ∧ Utf8.decode bytes = .ok text ∧
      Json.read (Utf8.universalNewlines text) = .ok w := by
  obtain ⟨text, ht, hread⟩ := Host.readJson_eq_ok_iff.mp hw
  obtain ⟨bytes, raw, hb, hdecode, rfl⟩ := Host.readText_eq_ok_iff.mp ht
  obtain ⟨p, m, hs⟩ := Host.readBytes_eq_ok_iff.mp hb
  exact ⟨p, bytes, m, raw, hs, hdecode, hread⟩

/-- What is read of the index of a confined directory leads inward. -/
theorem Confined.inward (hconf : c.Confined h) (hc : c.location.Proper) {version : String} {i : CacheIndex}
    (hi : IndexHolds (c.ofVersion version) h i) : ∀ f ∈ i, c.Inward h f.2.resultFile := by
  obtain ⟨w, hw, hholds⟩ := hi
  have hpath : (c.ofVersion version).indexPath.text = (c.below ["index.json"]).text := rfl
  rw [hpath] at hw
  obtain ⟨p, bytes, m, text, hs, hdecode, hread⟩ := exists_of_readJson hw
  obtain ⟨d, hd, hnode⟩ := node?_of_stat_below hc hconf.noLinks ordinary_index (by simp) hs
  exact hconf.index _ bytes m ⟨d, hd, List.prefix_append d _⟩ hnode d hd rfl text w version i hdecode hread hholds

/-- A directory is confined if what is read of its index leads inward. -/
theorem confined_of_indexHolds (hc : c.location.Proper) (hno : c.NoLinks h) {i : CacheIndex} (hi : IndexHolds c h i)
    (hin : ∀ f ∈ i, c.Inward h f.2.resultFile) : c.Confined h := by
  obtain ⟨w, hw, hholds⟩ := hi
  obtain ⟨p, bytes, m, text, hs, hdecode, hread⟩ := exists_of_readJson hw
  obtain ⟨d, hd, hnode⟩ := node?_of_stat_below hc hno ordinary_index (by simp) hs
  refine ⟨hno, fun q bytes' m' _ hq d' hd' hqd text' w' version i' hdecode' hread' hholds' => ?_⟩
  cases hd.symm.trans hd'
  subst hqd
  cases hnode.symm.trans hq
  cases hdecode.symm.trans hdecode'
  cases hread.symm.trans hread'
  obtain ⟨-, rfl⟩ := hholds.unique hholds'
  exact hin

/-- **Storing leaves a confined directory confined**, and what it removes is in it. -/
theorem Confined.effect_of_store (hconf : c.Confined h) (hc : c.location.Proper) (hdigest : c.digest = Sha256.hex)
    (version : String) (ds : Option Diagnostics) (name : String) (o : Outcome) (config : Option Config) :
    Effect (c.Holds h) (c.Tamely h) h (Call.host c h ⟨version, ds, .store name o config⟩) := by
  have hno := hconf.noLinks
  have hother : ∀ names follow q bytes, Ordinary names → names ≠ [] → names ≠ ["index.json"] →
      h.land follow (c.below names) = some q → c.Tamely h q bytes := by
    rintro names follow q bytes hn hne hnot hq d hd rfl
    obtain ⟨d', hd', he⟩ := place_of_land hno hn hne hq
    cases hd.symm.trans hd'
    exact absurd (List.append_cancel_left he).symm hnot
  have hindex : ∀ t i s' q text, exec loadIndex ((c.ofVersion version).on ds h) = (.ok i, s') →
      h.land false (c.below ["index.json"]) = some q → Json.writePretty (CacheIndex.toValue version (Assoc.put name
        ⟨Sha256.hex t, secondsOf h.now, Sha256.hex t ++ ".json", Order.sortedDistinct o.files⟩ i)) = .ok text →
          c.Tamely h q (Utf8.encode text) := by
    intro t i s' q text hload _ hw _ _ _
    refine tame_of_written (fun f hf => ?_) hw
    rcases Assoc.exists_of_mem_put hf with hnew | hold
    · rw [hnew]
      exact inward_hex hno t
    · exact hconf.inward hc ((exec_loadIndex_eq_ok_iff (List.ne_nil_of_mem hold)).mp hload).2 f hold
  cases storeEnds version ds name o config (steady_tamely c) hc hdigest hno hother hindex with
  | plain he _ => exact he
  | @removed name' h₃ i old p n he hi hget hl hdir hhost _ =>
    have hproper : (c.payloadPath old.resultFile).Proper :=
      (proper_below hc isFront_files.ordinary).join (Path.proper_ofString _)
    have hland : h.land false (c.payloadPath old.resultFile) = some p := by
      rw [← he.land_eq]
      exact (Host.land_of_locate hproper hl).1
    have hp : c.Holds h p := hconf.inward hc hi (name', old) (Assoc.mem_of_get? hget) 0 p hland
    rw [hhost]
    exact he.trans ((hno.region.effect he).without hp)

/-- **A call leaves a confined directory confined**, and everything outside of it alone. -/
theorem Confined.effect_of_call (hconf : c.Confined h) (hc : c.location.Proper) (hdigest : c.digest = Sha256.hex)
    (a : Call) : Effect (c.Holds h) (c.Tamely h) h (a.host c h) := by
  obtain ⟨version, ds, request⟩ := a
  cases request with
  | store name o config => exact hconf.effect_of_store hc hdigest version ds name o config
  | fetch name config => exact effect_of_not_store hc hconf.noLinks (fun _ _ _ hr => by cases hr) _
  | stats => exact effect_of_not_store hc hconf.noLinks (fun _ _ _ hr => by cases hr) _
  | clear => exact effect_of_not_store hc hconf.noLinks (fun _ _ _ hr => by cases hr) _

/-! ## 5. Outside of the directory -/

/-- Nothing has become of a place, or a directory where nothing was. -/
def Untouched (h h' : Host) (q : Place) : Prop :=
  h'.tree.node? q = h.tree.node? q ∨ (h.tree.node? q = none ∧ h'.tree.IsDir q)

theorem Untouched.trans {h'' : Host} (h₁ : Untouched h h' q) (h₂ : Untouched h' h'' q) : Untouched h h'' q := by
  rcases h₁ with he | ⟨hnone, m, hm⟩
  · rcases h₂ with he' | ⟨hnone, hdir⟩
    · exact .inl (he'.trans he)
    · exact .inr ⟨he ▸ hnone, hdir⟩
  · rcases h₂ with he' | ⟨hnone', -⟩
    · exact .inr ⟨hnone, m, he'.trans hm⟩
    · cases hm.symm.trans hnone'

theorem untouched_of_effect {inside : Place → Prop} {written : Place → List UInt8 → Prop}
    (he : Effect inside written h h') (hq : ¬ inside q) : Untouched h h' q := by
  rcases he.node q with hsame | hdir | ⟨hin, -⟩
  · exact .inl hsame
  · exact .inr hdir
  · exact absurd hin hq

/-- The host after some calls. -/
def after (c : Cache) (h : Host) (calls : List Call) : Host := calls.foldl (fun h a => a.host c h) h

/-- **Calls of a cache whose directory is confined** leave everything outside of it alone. -/
theorem Confined.untouched (hconf : c.Confined h) (hc : c.location.Proper) (hdigest : c.digest = Sha256.hex)
    (hq : ¬ c.Holds h q) (calls : List Call) : Untouched h (c.after h calls) q := by
  induction calls generalizing h with
  | nil => exact .inl rfl
  | cons a calls ih =>
    have he := hconf.effect_of_call hc hdigest a
    have hplace : c.place? (a.host c h) = c.place? h := he.land_eq true c.location
    exact (untouched_of_effect he hq).trans (ih (hconf.effect he) (by rwa [holds_congr hplace]))

/-- **A call, wherever its index leads**: outside of the directory it removes what it strays to, and nothing else. -/
theorem untouched_of_call (hc : c.location.Proper) (hdigest : c.digest = Sha256.hex) (hno : c.NoLinks h) (a : Call)
    (hq : ¬ c.Holds h q) :
    (a.Strays c h q → (a.host c h).tree.node? q = none) ∧ (¬ a.Strays c h q → Untouched h (a.host c h) q) := by
  by_cases hstore : ∃ name o config, a.request = .store name o config
  · obtain ⟨name, o, config, hrequest⟩ := hstore
    obtain ⟨version, ds, _⟩ := a
    cases hrequest
    have hends : StoreEnds c (fun _ _ _ => True) h ⟨version, ds, .store name o config⟩ :=
      storeEnds version ds name o config (fun _ _ _ => rfl) hc hdigest hno (fun _ _ _ _ _ _ _ _ => trivial)
        fun _ _ _ _ _ _ _ _ => trivial
    cases hends with
    | plain he hnot => exact ⟨fun hstrays => absurd hstrays (hnot q), fun _ => untouched_of_effect he hq⟩
    | @removed name' h₃ i old p n he hi hget hl hdir hhost hstrays =>
      have hproper : (c.payloadPath old.resultFile).Proper :=
        (proper_below hc isFront_files.ordinary).join (Path.proper_ofString _)
      have hne : p ≠ [] := by
        rintro rfl
        have hnode : h₃.tree.node? [] = some n := (Host.land_of_locate hproper hl).2
        rw [FileTree.node?_nil] at hnode
        cases hnode
        cases hdir
      rw [hhost, hstrays]
      refine ⟨fun hpq => ?_, fun hpq => ?_⟩
      · have hqne : q ≠ [] := fun hnil => hne (List.prefix_nil.mp (hnil ▸ hpq))
        show (h₃.tree.without p).node? q = none
        rw [FileTree.node?_without _ _ _ hqne, if_pos hpq]
      · have hsame : (h₃.tree.without p).node? q = h₃.tree.node? q := FileTree.node?_without_of_not hpq
        rcases untouched_of_effect he hq with hkept | ⟨hnone, m, hm⟩
        · exact .inl (hsame.trans hkept)
        · exact .inr ⟨hnone, m, hsame.trans hm⟩
  · have hnot : ∀ name o config, a.request ≠ .store name o config := fun name o config hr => hstore ⟨name, o, config, hr⟩
    refine ⟨?_, fun _ => .inl (node?_of_not_store hc hnot hq)⟩
    rintro ⟨name, o, config, -, -, -, -, -, -, hrequest, -⟩
    exact absurd hrequest (hnot name o config)

/-- **What becomes of places outside of the directory.**  A call that does not store leaves them as they are, on any
host.  If no link stands in the directory, storing removes exactly what it strays to, and may make directories where
nothing was.  If moreover the index does not lead out of the directory, no sequence of calls does more than that. -/
theorem outside_of_calls (c : Cache) (hc : c.location.Proper) (hdigest : c.digest = Sha256.hex) (h : Host) :
    (∀ (a : Call) q, ¬ c.Holds h q → (∀ name o config, a.request ≠ .store name o config) →
      (a.host c h).tree.node? q = h.tree.node? q) ∧
    (c.NoLinks h → ∀ (a : Call) q, ¬ c.Holds h q → (a.Strays c h q → (a.host c h).tree.node? q = none) ∧
      (¬ a.Strays c h q → Untouched h (a.host c h) q)) ∧
    (c.Confined h → ∀ calls q, ¬ c.Holds h q → Untouched h (c.after h calls) q) :=
  ⟨fun _ _ hq hnot => node?_of_not_store hc hnot hq, fun hno a _ hq => untouched_of_call hc hdigest hno a hq,
    fun hconf calls _ hq => hconf.untouched hc hdigest hq calls⟩

/-- A host with a file beside the directory of a cache, and an index in it with the given entries. -/
def besideHost (entries : String) : Host :=
  ⟨[(["victim"], .file [] 1), (["c"], .dir 1), (["c", "index.json"], .file (Utf8.encode
    ("\x7b\"version\": \"1\", \"entries\": \x7b" ++ entries ++ "\x7d\x7d")) 1)], [], "/", [], 0⟩

theorem not_holds_victim (entries : String) : ¬ relativeCache.Holds (besideHost entries) ["victim"] := by
  rintro ⟨d, hd, hp⟩
  have hplace : relativeCache.place? (besideHost entries) = some ["c"] := rfl
  cases hplace.symm.trans hd
  exact absurd hp (by decide)

theorem node?_victim (entries : String) : (besideHost entries).tree.node? ["victim"] = some (.file [] 1) := rfl

theorem confined_besideHost : relativeCache.Confined (besideHost "") := by
  refine confined_of_indexHolds ⟨by decide, by decide⟩ (fun q target m _ => ?_)
    (indexHolds_of_indexParts (i := []) (by decide +kernel)) nofun
  simp only [FileTree.node?, besideHost, Assoc.get?]
  split_ifs <;> simp

/-- Storing and clearing leave the file as it is if the index has no entries. -/
theorem outside_of_store_and_clear :
    (relativeCache.after (besideHost "") [⟨"1", none, .store "v" {} none⟩, ⟨"1", none, .clear⟩]).tree.node?
      ["victim"] = some (.file [] 1) := by
  obtain ⟨-, -, hconfined⟩ := outside_of_calls relativeCache ⟨by decide, by decide⟩ rfl (besideHost "")
  rcases hconfined confined_besideHost [⟨"1", none, .store "v" {} none⟩, ⟨"1", none, .clear⟩] ["victim"]
    (not_holds_victim "") with he | ⟨hnone, -⟩
  · exact he.trans (node?_victim "")
  · cases (node?_victim "").symm.trans hnone

/-- An entry whose outcome is named by a path out of the directory. -/
def straying : String :=
  "\"v\": \x7b\"hash\": \"x\", \"result_file\": \"../../victim\", \"files\": []\x7d"

/-- The entry as it is read. -/
def strayingEntry : CacheEntry := ⟨"x", .zero false, "../../victim", []⟩

/-- The fingerprint under which an empty outcome is stored beside it. -/
def strayingMark : String := "0a61a69d64fe567aba5cfc998c5fa2366f7123adcb48c6a7d03cff6fc356d195"

theorem indexHolds_straying : IndexHolds (relativeCache.ofVersion "1") (besideHost straying) [("v", strayingEntry)] :=
  indexHolds_of_indexParts (by decide +kernel)

theorem fingerprint_straying :
    (relativeCache.ofVersion "1").fingerprint (besideHost straying) "v" none
      (Order.sortedDistinct ({} : Outcome).files) = .ok strayingMark :=
  eq_ok_of_toOption (by decide +kernel)

/-- What is left of storing once the index is read. -/
def storeOver (c : Cache) (h : Host) (name : String) (o : Outcome) (mark : String) (i : CacheIndex) : Op Unit := do
  writeJson (c.payloadPath (mark ++ ".json")) o.toValue
  saveIndex (Assoc.put name ⟨mark, secondsOf h.now, mark ++ ".json", Order.sortedDistinct o.files⟩ i)
  supersede c mark (Assoc.get? name i)

theorem exec_storeMarked_of_load {s : Site} (hload : exec loadIndex s = (.ok i, s)) :
    exec (storeMarked c h name o mark) s = exec (storeOver c h name o mark i) s := by
  rw [storeMarked_eq, lodge, bind_assoc, exec_bind, hload]
  simp only [bind_assoc, pure_bind]
  rfl

theorem node?_storeOver_straying :
    (exec (storeOver (relativeCache.ofVersion "1") (besideHost straying) "v" {} strayingMark [("v", strayingEntry)])
      ((relativeCache.ofVersion "1").on none (besideHost straying))).2.host.tree.node? ["victim"] = none :=
  Option.isNone_iff_eq_none.mp (by decide +kernel)

/-- **Storing removes a file outside of the directory** if the index names it as the outcome of the replaced entry. -/
theorem store_removes_outside :
    ¬ relativeCache.Holds (besideHost straying) ["victim"] ∧
      (besideHost straying).tree.node? ["victim"] = some (.file [] 1) ∧
      (Call.host relativeCache (besideHost straying) ⟨"1", none, .store "v" {} none⟩).tree.node? ["victim"] = none := by
  have hload : exec loadIndex ((relativeCache.ofVersion "1").on none (besideHost straying)) =
      (.ok [("v", strayingEntry)], (relativeCache.ofVersion "1").on none (besideHost straying)) :=
    exec_loadIndex_of_indexHolds _ indexHolds_straying
  refine ⟨not_holds_victim _, node?_victim _, ?_⟩
  rw [host_store "1" none "v" {} none rfl, exec_storeEntry_of_fingerprint none {} fingerprint_straying,
    exec_storeMarked_of_load hload]
  exact node?_storeOver_straying

end Cache

end AgentLint
