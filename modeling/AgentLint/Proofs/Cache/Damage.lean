import AgentLint.Proofs.Cache.Outside
import AgentLint.Proofs.FileTree.Refilling

/-!
# Entries that do not read

An index may hold anything where an entry should be.  What an entry reads as is a matter of that entry alone, and
one that does not read is left out (`CacheIndex.sound`).  There is one exception: a time that is an integer beyond
all doubles ends the reading of the whole index (`CacheIndex.Overflows`).

`entries_apart` says what follows for the calls.  Unless there is such a time, a fetch answers as if the index held
nothing but the entry that it asks for (`Reduced`), and a store writes back the entries that read, and no others.  If
there is one, in whatever entry, each fetch comes to nothing, and no store changes anything: the damaged entry stays.
-/

namespace AgentLint

-- Digests are compared but never computed here.
attribute [local irreducible] Sha256.hex

/-! ## 1. Entries one by one -/

/-- An outcome is read from three fields of a map. -/
theorem Outcome.ofValue_congr {fields fields' : Entries}
    (hsame : ∀ k ∈ ["errors", "warnings", "deprecated_rules_used"], Entries.get? k fields' = Entries.get? k fields) :
    Outcome.ofValue (.map fields') = Outcome.ofValue (.map fields) := by
  simp only [Outcome.ofValue, Value.ask, hsame "errors" (by simp), hsame "warnings" (by simp),
    hsame "deprecated_rules_used" (by simp)]

namespace CacheIndex

/-- The entries that read, each by itself. -/
def soundEntries (es : Entries) : CacheIndex :=
  es.filterMap fun e => (CacheEntry.ofValue e.2).toOption.map (Prod.mk e.1.display)

/-- The index that is left without the entries that do not read. -/
def sound (es : Entries) : CacheIndex := Assoc.putAll [] (soundEntries es)

/-- The time of an entry is too large to hold. -/
def Overflows (es : Entries) : Prop := ∃ e ∈ es, CacheEntry.ofValue e.2 = .error .tooLarge

/-- **Entries are read one by one** unless a time is too large. -/
theorem ofEntries_of_not_overflows {es : Entries} (h : ¬ Overflows es) (acc : CacheIndex) :
    ofEntries acc es = .ok (Assoc.putAll acc (soundEntries es)) := by
  induction es generalizing acc with
  | nil => rfl
  | cons e es ih =>
    obtain ⟨k, v⟩ := e
    have hrest : ¬ Overflows es := fun ⟨e, he, hv⟩ => h ⟨e, List.mem_cons_of_mem _ he, hv⟩
    unfold ofEntries
    cases hv : CacheEntry.ofValue v with
    | ok x =>
      simp only [ih hrest, soundEntries, List.filterMap_cons, hv, Except.toOption, Option.map_some]
      rfl
    | error f =>
      have hskip : soundEntries ((k, v) :: es) = soundEntries es := by
        simp [soundEntries, hv, Except.toOption]
      rw [hskip]
      cases f with
      | tooLarge => exact absurd ⟨(k, v), List.mem_cons_self, hv⟩ h
      | _ => exact ih hrest acc

/-- **An entry reads as it does without the others.** -/
theorem get?_sound_filter (name : String) (es : Entries) :
    Assoc.get? name (sound (es.filter fun e => e.1.display = name)) = Assoc.get? name (sound es) := by
  have hvalues : Assoc.valuesOf name (soundEntries (es.filter fun e => e.1.display = name)) =
      Assoc.valuesOf name (soundEntries es) := by
    unfold Assoc.valuesOf soundEntries
    rw [List.filterMap_filterMap, List.filterMap_filterMap, List.filterMap_filter]
    refine List.filterMap_congr fun e _ => ?_
    by_cases he : e.1.display = name
    · simp [he]
    · cases CacheEntry.ofValue e.2 <;> simp [he, Except.toOption]
  rw [sound, sound, Assoc.get?_putAll, Assoc.get?_putAll, hvalues]

theorem overflows_filter_or {name : String} {es : Entries} : Overflows es ↔
    Overflows (es.filter fun e => e.1.display ≠ name) ∨ Overflows (es.filter fun e => e.1.display = name) := by
  simp only [Overflows, List.mem_filter, decide_eq_true_eq]
  constructor
  · rintro ⟨e, he, hv⟩
    by_cases hname : e.1.display = name
    · exact .inr ⟨e, ⟨he, hname⟩, hv⟩
    · exact .inl ⟨e, ⟨he, hname⟩, hv⟩
  · rintro (⟨e, ⟨he, -⟩, hv⟩ | ⟨e, ⟨he, -⟩, hv⟩)
    · exact ⟨e, he, hv⟩
    · exact ⟨e, he, hv⟩

end CacheIndex

namespace Cache

open CacheIndex

variable {c : Cache} {h h' : Host} {ds ds' : Option Diagnostics} {name : String} {config : Option Config}
  {fields fields' es : Entries}

/-! ## 2. Indexes -/

/-- The index is a map of the version of the cache, and has a map of entries. -/
structure IndexMap (c : Cache) (h : Host) (fields es : Entries) : Prop where
  read : h.readJson c.indexPath.text = .ok (.map fields)
  version : Entries.get "version" fields = .text c.version
  entries : Entries.get? "entries" fields = some (.map es)

/-- The index is read as what it holds; that fails exactly if a time is too large. -/
theorem IndexMap.exec_loadIndex (hi : c.IndexMap h fields es) (ds : Option Diagnostics) :
    exec loadIndex (c.on ds h) = ((ofEntries [] es).mapError .shape, c.on ds h) := by
  rw [exec_loadIndex_of_json (isFile_of_readJson hi.read) hi.read]
  exact exec_entriesOf_of_entries hi.version (by rw [Value.map?, Option.getD_some, hi.entries]; rfl)

theorem IndexMap.exec_loadIndex_sound (hi : c.IndexMap h fields es) (ho : ¬ Overflows es) (ds : Option Diagnostics) :
    exec loadIndex (c.on ds h) = (.ok (sound es), c.on ds h) := by
  rw [hi.exec_loadIndex, ofEntries_of_not_overflows ho]
  rfl

theorem IndexMap.exec_loadIndex_overflows (hi : c.IndexMap h fields es) (ho : Overflows es) (ds : Option Diagnostics) :
    exec loadIndex (c.on ds h) = (.error (.shape .tooLarge), c.on ds h) := by
  rw [hi.exec_loadIndex, ofEntries_eq_error_iff.mpr ⟨rfl, ho⟩]
  rfl

/-- **The host on which the index holds nothing but the entry for a name**: only the bytes of the index are others,
and only its entries. -/
structure Reduced (c : Cache) (name : String) (es : Entries) (h h' : Host) : Prop where
  host : ∃ p b m bytes, h.stat c.indexPath.text = .ok (p, .file b m) ∧ h' = h.refilled p bytes
  index : ∃ fields fields', c.IndexMap h fields es ∧
    c.IndexMap h' fields' (es.filter fun e => e.1.display = name) ∧
    ∀ k, k ≠ "entries" → Entries.get? k fields' = Entries.get? k fields

/-! ## 3. Fetching -/

/-- An index that cannot be read comes to nothing. -/
theorem IndexMap.fetch_of_overflows (hi : c.IndexMap h fields es) (ho : Overflows es) (name : String)
    (config : Option Config) (ds : Option Diagnostics) : (exec (fetch name config) (c.on ds h)).1 = .ok none := by
  cases he : c.enabled with
  | false => rw [exec_fetch_off he]
  | true =>
    obtain ⟨ds', hfetch⟩ := exec_fetch_answer he (hi.exec_loadIndex_overflows ho ds) name config
    rw [hfetch]
    rfl

/-- Otherwise a fetch answers what the entry that was asked for comes to. -/
theorem IndexMap.fetch_of_sound (hi : c.IndexMap h fields es) (ho : ¬ Overflows es) (he : c.enabled = true)
    (name : String) (config : Option Config) (ds : Option Diagnostics) :
    (exec (fetch name config) (c.on ds h)).1 = answerOf c h name config (Assoc.get? name (sound es)) := by
  obtain ⟨ds', hfetch⟩ := exec_fetch_answer he (hi.exec_loadIndex_sound ho ds) name config
  rw [hfetch]
  rfl

/-- What an entry comes to does not depend on the other entries of the index, even where its outcome is said to be
the index itself. -/
theorem Reduced.outcomeOf_eq (hr : c.Reduced name es h h') (e : CacheEntry) : outcomeOf c h' e = outcomeOf c h e := by
  obtain ⟨p, b, m, bytes, hstat, rfl⟩ := hr.host
  obtain ⟨fields, fields', hi, hi', hsame⟩ := hr.index
  have hpayload : payload ⟨c, h.refilled p bytes⟩ e = payload ⟨c, h⟩ e := by
    by_cases hp : ∃ b' m', h.stat (c.payloadPath e.resultFile).text = .ok (p, .file b' m')
    · obtain ⟨b', m', hs⟩ := hp
      have hnode : b' = b := by
        have hold := (Host.landing_of_stat hs).2.symm.trans (Host.landing_of_stat hstat).2
        cases hold
        rfl
      -- The file of the outcome is the index, so both read the same before and after.
      have hread : h.readJson (c.payloadPath e.resultFile).text = .ok (.map fields) := by
        rw [← hi.read, Host.readJson, Host.readJson, Host.readText, Host.readText, Host.readBytes_of_stat hs,
          Host.readBytes_of_stat hstat, hnode]
      have hread' : (h.refilled p bytes).readJson (c.payloadPath e.resultFile).text = .ok (.map fields') := by
        rw [← hi'.read, Host.readJson, Host.readJson, Host.readText, Host.readText, Host.readBytes_refilled_self hs,
          Host.readBytes_refilled_self hstat]
      have hmap : Outcome.ofValue (.map fields') = Outcome.ofValue (.map fields) :=
        Outcome.ofValue_congr fun k hk => hsame k (by rintro rfl; simp at hk)
      unfold payload
      rw [hread, hread']
      show ((Outcome.ofValue (.map fields')).mapError Fault.shape >>= _) =
        ((Outcome.ofValue (.map fields)).mapError Fault.shape >>= _)
      rw [hmap]
    · exact payload_congr rfl rfl (Host.readBytes_refilled fun b' m' hs => hp ⟨b', m', hs⟩)
  rw [outcomeOf, outcomeOf, hpayload]

/-- **A fetch is spoiled by a time that is too large**, whosever entry it is in, and by no other entry than the one
it asks for. -/
theorem Reduced.fetch_eq (hr : c.Reduced name es h h') (config : Option Config) (ds ds' : Option Diagnostics) :
    (Overflows (es.filter fun e => e.1.display ≠ name) ∧ (exec (fetch name config) (c.on ds h)).1 = .ok none) ∨
      (¬ Overflows (es.filter fun e => e.1.display ≠ name) ∧
        (exec (fetch name config) (c.on ds h)).1 = (exec (fetch name config) (c.on ds' h')).1) := by
  obtain ⟨fields, fields', hi, hi', -⟩ := hr.index
  by_cases hothers : Overflows (es.filter fun e => e.1.display ≠ name)
  · exact .inl ⟨hothers, hi.fetch_of_overflows (overflows_filter_or.mpr (.inl hothers)) name config ds⟩
  refine .inr ⟨hothers, ?_⟩
  by_cases hown : Overflows (es.filter fun e => e.1.display = name)
  · rw [hi.fetch_of_overflows (overflows_filter_or.mpr (.inr hown)), hi'.fetch_of_overflows hown]
  have ho : ¬ Overflows es := fun ho => (overflows_filter_or.mp ho).elim hothers hown
  cases he : c.enabled with
  | false => rw [exec_fetch_off he, exec_fetch_off he]
  | true =>
    rw [hi.fetch_of_sound ho he, hi'.fetch_of_sound hown he, get?_sound_filter]
    refine (answerOf_congr name config rfl (fun e _ f _ => ?_) fun e e' hget hget' => ?_).symm
    · obtain ⟨p, b, m, bytes, -, rfl⟩ := hr.host
      exact Host.mtime?_refilled
    · cases hget.symm.trans hget'
      exact hr.outcomeOf_eq e

/-! ## 4. Storing -/

theorem exec_onFiles_eq_ok_iff {α : Type} {op : FileOp α} {a : α} {s' : Site} :
    exec (onFiles op) (c.on ds h) = (.ok a, s') ↔ ∃ h', exec op h = (.ok a, h') ∧ s' = c.on ds h' := by
  rw [exec_onFiles]
  cases exec op h with
  | mk r h' => cases r <;> simp [Except.mapError, eq_comm]

section Writing

variable {front : List String} {n : String}

/-- What was written beside a file and moved there is in the file. -/
theorem node?_of_replace (hc : c.location.Proper) (hno : c.NoLinks h) (hn : Ordinary (front ++ [n]))
    {bytes : List UInt8} {h₁ h₂ : Host}
    (hwrite : exec (FileOp.writeBytes (c.below (front ++ [n ++ ".tmp"])).text bytes) h = (.ok (), h₁))
    (hmove : exec (FileOp.move (c.below (front ++ [n ++ ".tmp"])).text (c.below (front ++ [n])).text) h₁ =
      (.ok (), h₂)) :
    ∃ d m, c.place? h = some d ∧ h₂.tree.node? (d ++ (front ++ [n])) = some (.file bytes m) := by
  have hbeside := hn.beside
  have hproper := proper_below hc hbeside
  have heff : Effect (c.Holds h) (fun _ _ => True) h h₁ := by
    have hall : Effect (c.Holds h) (fun _ _ => True) h
        (exec (FileOp.writeBytes (c.below (front ++ [n ++ ".tmp"])).text bytes) h).2 :=
      FileOp.effect_writeBytes hno.region hproper (fun q => holds_of_land hno hbeside (by simp)) bytes
        fun _ _ => trivial
    rwa [hwrite] at hall
  have hno₁ := hno.effect heff
  obtain ⟨q₀, hq₀, hnode⟩ := FileOp.node?_of_writeBytes hproper hwrite
  obtain ⟨p, node, q, hp, hpnode, hq, hqnode⟩ := FileOp.node?_of_move hproper (proper_below hc hn) hmove
  -- The paths of both files lead into the directory, so the one that was written is the one that was moved.
  obtain ⟨d, hd, rfl⟩ := place_of_land hno hbeside (by simp) hq₀
  obtain ⟨d₁, hd₁, rfl⟩ := place_of_land hno₁ hbeside (by simp) hp
  obtain ⟨d₁', hd₁', rfl⟩ := place_of_land hno₁ hn (by simp) hq
  have hplace : c.place? h₁ = c.place? h := heff.land_eq true c.location
  cases hd₁.symm.trans hd₁'
  cases hd₁.symm.trans (hplace.trans hd)
  cases hpnode.symm.trans hnode
  exact ⟨_, _, hd, hqnode⟩

/-- **If writing a value succeeds**, its text is in the file. -/
theorem node?_of_writeJson (hc : c.location.Proper) (hno : c.NoLinks h) (hn : Ordinary (front ++ [n])) {v : Value}
    {s' : Site} (hexec : exec (writeJson (c.below (front ++ [n])) v) (c.on ds h) = (.ok (), s')) :
    ∃ d text m, c.place? h = some d ∧ Json.writePretty v = .ok text ∧
      s'.host.tree.node? (d ++ (front ++ [n])) = some (.file (Utf8.encode text) m) := by
  unfold Cache.writeJson at hexec
  rw [beside_below] at hexec
  obtain ⟨_, s₁, hdirs, hexec⟩ := exec_bind_eq_ok_iff.mp hexec
  obtain ⟨text, s₂, htext, hexec⟩ := exec_bind_eq_ok_iff.mp hexec
  obtain ⟨_, s₃, hfirst, hsecond⟩ := exec_bind_eq_ok_iff.mp hexec
  obtain ⟨h₁, hmade, rfl⟩ := exec_onFiles_eq_ok_iff.mp hdirs
  rw [exec_lift, Prod.mk.injEq, mapError_eq_ok_iff] at htext
  obtain ⟨htext, rfl⟩ := htext
  obtain ⟨h₂, hwritten, rfl⟩ := exec_onFiles_eq_ok_iff.mp hfirst
  obtain ⟨h₃, hmoved, rfl⟩ := exec_onFiles_eq_ok_iff.mp hsecond
  have heff : Effect (c.Holds h) (fun _ _ => True) h h₁ := by
    have hall : Effect (c.Holds h) (fun _ _ => True) h
        (exec (FileOp.makeDirs (c.below (front ++ [n])).parent) h).2 := FileOp.effect_makeDirs _ h
    rwa [hmade] at hall
  obtain ⟨d, m, hd, hnode⟩ := node?_of_replace hc (hno.effect heff) hn hwritten hmoved
  exact ⟨d, text, m, (heff.land_eq true c.location).symm.trans hd, htext, hnode⟩

end Writing

section Index

variable {i : CacheIndex} {t : String} {o : Outcome} {s' : Site}

/-- Storing up to its last step writes an index with the entries that it has read and the one that is stored. -/
theorem index_of_lodge (hc : c.location.Proper) (hno : c.NoLinks h) {found : Option CacheEntry}
    (hload : exec loadIndex (c.on ds h) = (.ok i, c.on ds h))
    (hexec : exec (lodge c h name o (Sha256.hex t)) (c.on ds h) = (.ok found, s')) :
    found = Assoc.get? name i ∧ ∃ d text m, c.place? h = some d ∧
      Json.writePretty (CacheIndex.toValue c.version (Assoc.put name
        ⟨Sha256.hex t, secondsOf h.now, Sha256.hex t ++ ".json", Order.sortedDistinct o.files⟩ i)) = .ok text ∧
      s'.host.tree.node? (d ++ ["index.json"]) = some (.file (Utf8.encode text) m) := by
  unfold lodge at hexec
  obtain ⟨i', s₁, hread, hexec⟩ := exec_bind_eq_ok_iff.mp hexec
  rw [hload, Prod.mk.injEq, Except.ok.injEq] at hread
  obtain ⟨rfl, rfl⟩ := hread
  obtain ⟨_, s₂, hpayload, hexec⟩ := exec_bind_eq_ok_iff.mp hexec
  obtain ⟨_, s₃, hsave, hexec⟩ := exec_bind_eq_ok_iff.mp hexec
  rw [exec_pure, Prod.mk.injEq, Except.ok.injEq] at hexec
  obtain ⟨rfl, rfl⟩ := hexec
  have hsteady : Steady fun _ _ _ => True := fun _ _ _ => rfl
  have hwrite : c.Stores (fun _ _ _ => True) h
      (exec (Cache.writeJson (c.payloadPath (Sha256.hex t ++ ".json")) o.toValue) (c.on ds h)).2 := by
    rw [payloadPath_eq]
    exact Stores.writeJson hsteady hc hno ["files"] (ordinary_payload t) (fun _ _ _ => trivial) fun _ _ _ _ => trivial
  rw [hpayload] at hwrite
  obtain ⟨ds₂, h₂, rfl, heff⟩ := hwrite
  rw [exec_saveIndex_eq] at hsave
  have hordinary : Ordinary ([] ++ ["index.json"]) := ordinary_index
  obtain ⟨d, text, m, hd, htext, hnode⟩ := node?_of_writeJson hc (hno.effect heff) hordinary hsave
  exact ⟨rfl, d, text, m, (heff.land_eq true c.location).symm.trans hd, htext, hnode⟩

/-- Its last step leaves the index alone, unless the outcome that is replaced is said to be where the index is. -/
theorem index_of_storeMarked (hc : c.location.Proper) (hno : c.NoLinks h)
    (hload : exec loadIndex (c.on ds h) = (.ok i, c.on ds h))
    (hexec : exec (storeMarked c h name o (Sha256.hex t)) (c.on ds h) = (.ok (), s')) :
    ∃ d text m, c.place? h = some d ∧ Json.writePretty (CacheIndex.toValue c.version (Assoc.put name
        ⟨Sha256.hex t, secondsOf h.now, Sha256.hex t ++ ".json", Order.sortedDistinct o.files⟩ i)) = .ok text ∧
      (s'.host.tree.node? (d ++ ["index.json"]) = some (.file (Utf8.encode text) m) ∨
        ∃ old p, Assoc.get? name i = some old ∧ h.land false (c.payloadPath old.resultFile) = some p ∧
          p <+: d ++ ["index.json"]) := by
  rw [storeMarked_eq] at hexec
  obtain ⟨found, s₃, hlodge, hlast⟩ := exec_bind_eq_ok_iff.mp hexec
  obtain ⟨rfl, d, text, m, hd, htext, hnode⟩ := index_of_lodge hc hno hload hlodge
  refine ⟨d, text, m, hd, htext, ?_⟩
  have hsteps : c.Stores (fun _ _ _ => True) h (exec (lodge c h name o (Sha256.hex t)) (c.on ds h)).2 :=
    Stores.lodge (fun _ _ _ => rfl) hc hno h t (fun _ _ _ _ _ _ _ _ => trivial) fun _ _ _ _ _ _ _ => trivial
  rw [hlodge] at hsteps
  obtain ⟨ds₃, h₃, rfl, heff⟩ := hsteps
  have hsite : (exec (supersede c (Sha256.hex t) (Assoc.get? name i)) (c.on ds₃ h₃)).2 = s' := by rw [hlast]
  rw [← hsite]
  rcases supersede_cases (Assoc.get? name i) ds₃ h₃ with ⟨hkept, -⟩ | ⟨old, p, n, hold, -, hl, -, hgone⟩
  · rw [hkept]
    exact .inl hnode
  · have hproper : (c.payloadPath old.resultFile).Proper :=
      (proper_below hc isFront_files.ordinary).join (Path.proper_ofString _)
    by_cases hp : p <+: d ++ ["index.json"]
    · exact .inr ⟨old, p, hold, by rw [← heff.land_eq]; exact (Host.land_of_locate hproper hl).1, hp⟩
    · rw [hgone]
      exact .inl ((FileTree.node?_without_of_not hp).trans hnode)

/-- What a store that succeeds leaves in the index. -/
theorem index_of_storeEntry (hu : c.InUse) (hno : c.NoLinks h)
    (hload : exec loadIndex (c.on ds h) = (.ok i, c.on ds h))
    (hexec : exec (storeEntry name o config) (c.on ds h) = (.ok (), s')) :
    ∃ mark d text m, c.fingerprint h name config (Order.sortedDistinct o.files) = .ok mark ∧ c.place? h = some d ∧
      Json.writePretty (CacheIndex.toValue c.version (Assoc.put name
        ⟨mark, secondsOf h.now, mark ++ ".json", Order.sortedDistinct o.files⟩ i)) = .ok text ∧
      (s'.host.tree.node? (d ++ ["index.json"]) = some (.file (Utf8.encode text) m) ∨
        ∃ old p, Assoc.get? name i = some old ∧ h.land false (c.payloadPath old.resultFile) = some p ∧
          p <+: d ++ ["index.json"]) := by
  cases hfp : c.fingerprint h name config (Order.sortedDistinct o.files) with
  | error f =>
    rw [exec_storeEntry_of_no_fingerprint ds o hfp] at hexec
    cases hexec
  | ok mark =>
    obtain ⟨t, -, rfl⟩ := exists_material hu hfp
    rw [exec_storeEntry_of_fingerprint ds o hfp] at hexec
    obtain ⟨d, text, m, hd, htext, hend⟩ := index_of_storeMarked hu.proper hno hload hexec
    exact ⟨_, d, text, m, rfl, hd, htext, hend⟩

end Index

/-- **An index that cannot be read is not written.** -/
theorem IndexMap.host_store_of_overflows (hi : c.IndexMap h fields es) (ho : Overflows es) (name : String) (o : Outcome)
    (config : Option Config) (ds : Option Diagnostics) : ((store name o config).run (c.on ds h)).2.host = h := by
  cases he : c.enabled with
  | false =>
    rw [run_store_off _ he]
    rfl
  | true =>
    have hleft : (exec (storeEntry name o config) (c.on ds h)).2 = c.on ds h := by
      cases hfp : c.fingerprint h name config (Order.sortedDistinct o.files) with
      | error f => rw [exec_storeEntry_of_no_fingerprint ds o hfp]
      | ok mark =>
        rw [exec_storeEntry_of_fingerprint ds o hfp, storeMarked, exec_bind, hi.exec_loadIndex_overflows ho]
    rw [run_store_eq _ he]
    generalize exec (storeEntry name o config) (c.on ds h) = ended at hleft ⊢
    obtain ⟨r, s⟩ := ended
    obtain rfl : s = c.on ds h := hleft
    cases r <;> rfl

/-! ## 5. The calls -/

/-- **What the entries of an index are to each other.**  Let the index be a map of the version of the cache with a map
of entries.  If the time of no other entry is too large, a fetch answers as if the index held the entry that it asks
for alone; otherwise it comes to nothing.  A store that succeeds leaves an index of the entries that read and the one
that is stored, unless the outcome that it replaces is said to be where the index is; and with a time that is too large
a store changes nothing. -/
theorem entries_apart (c : Cache) (h : Host) (fields es : Entries) (hi : c.IndexMap h fields es) :
    (∀ name h', c.Reduced name es h h' → ∀ config ds ds',
      (Overflows (es.filter fun e => e.1.display ≠ name) ∧ (exec (fetch name config) (c.on ds h)).1 = .ok none) ∨
        (¬ Overflows (es.filter fun e => e.1.display ≠ name) ∧
          (exec (fetch name config) (c.on ds h)).1 = (exec (fetch name config) (c.on ds' h')).1)) ∧
    (Overflows es → ∀ name o config ds, ((store name o config).run (c.on ds h)).2.host = h) ∧
    (¬ Overflows es → c.InUse → c.NoLinks h → ∀ name o config ds s',
      exec (storeEntry name o config) (c.on ds h) = (.ok (), s') →
        ∃ mark d text m, c.fingerprint h name config (Order.sortedDistinct o.files) = .ok mark ∧ c.place? h = some d ∧
          Json.writePretty (CacheIndex.toValue c.version (Assoc.put name
            ⟨mark, secondsOf h.now, mark ++ ".json", Order.sortedDistinct o.files⟩ (sound es))) = .ok text ∧
          (s'.host.tree.node? (d ++ ["index.json"]) = some (.file (Utf8.encode text) m) ∨
            ∃ old p, Assoc.get? name (sound es) = some old ∧ h.land false (c.payloadPath old.resultFile) = some p ∧
              p <+: d ++ ["index.json"])) :=
  ⟨fun _ _ hr => hr.fetch_eq, fun ho => hi.host_store_of_overflows ho, fun ho hu hno _ _ _ ds _ hexec =>
    index_of_storeEntry hu hno (hi.exec_loadIndex_sound ho ds) hexec⟩

/-! ## 6. Two entries -/

/-- A host with a file, with the outcome of a run that tracks it, and with an empty file for an index. -/
def trackedHost : Host :=
  ⟨[(["g"], .file [] 1), (["c"], .dir 1), (["c", "index.json"], .file [] 1), (["c", "files"], .dir 1),
    (["c", "files", "p.json"], .file (Utf8.encode "\x7b\x7d") 1)], [], "/", [], 0⟩

/-- What the fingerprint of that run condenses. -/
def trackedText : String :=
  "\x7b\"config\": null, \"files\": [[\"g\", 1]], \"validator\": \"v\", \"version\": \"1\"\x7d"

/-- The entry for that run. -/
def trackedEntry : String × Value :=
  ("v", Entries.ofFields
    [("hash", .text (Sha256.hex trackedText)), ("result_file", .text "p.json"), ("files", .list [.text "g"])])

/-- A time beyond all doubles. -/
def farTime : Int := .ofNat (Nat.pow 10 309)

/-- An entry with that time. -/
def farEntry : String × Value := ("x", Entries.ofFields [("hash", .text ""), ("timestamp", .int farTime)])

/-- An index with some entries. -/
def listing (es : List (String × Value)) : Value :=
  Entries.ofFields [("version", .text "1"), ("entries", Entries.ofFields es)]

/-- The bytes of that index. -/
def listingBytes (es : List (String × Value)) : List UInt8 :=
  Utf8.encode ((Json.writePretty (listing es)).toOption.getD "")

/-- The host with that index. -/
def listingHost (es : List (String × Value)) : Host := trackedHost.refilled ["c", "index.json"] (listingBytes es)

/-- A field that is read back wherever it is written. -/
def ComesBack (n : Nat) (e : String × Value) : Prop :=
  Text.Whole e.1 ∧ Json.Writes ⟨some 2, false⟩ e.2 ∧ Json.Returns n e.2 e.2

theorem ComesBack.mono {m n : Nat} {e : String × Value} (h : ComesBack m e) (hle : m ≤ n) : ComesBack n e :=
  ⟨h.1, h.2.1, h.2.2.mono hle⟩

theorem comesBack_text {name s : String} (hname : Text.Whole name) (hs : Text.Whole s) : ComesBack 0 (name, .text s) :=
  ⟨hname, Json.writes_text _ _, Json.returns_text_of_whole hs⟩

/-- An integer comes back unless it has too many digits to be written. -/
theorem comesBack_int {name : String} {n : Int} (hname : Text.Whole name) (hn : Decimal.isUnwritable n = false) :
    ComesBack 0 (name, .int n) := by
  have htext : Json.integerText n = .ok (toString n) := by simp [Json.integerText, hn]
  refine ⟨hname, fun level => ⟨_, by rw [Json.Layout.writeAt, htext]⟩, fun level text hw => ?_⟩
  rw [Json.Layout.writeAt] at hw
  exact Json.readsAs_integerText hw

/-- Fields that come back make a map that does, one level deeper. -/
theorem comesBack_fields {n : Nat} {name : String} {fields : List (String × Value)} (hname : Text.Whole name)
    (hnd : (Assoc.keys fields).Nodup) (h : ∀ f ∈ fields, ComesBack n f) :
    ComesBack (n + 1) (name, Entries.ofFields fields) :=
  ⟨hname, Json.writes_fields rfl fun f hf => (h f hf).2.1,
    Json.returns_fields_of_whole hnd fun f hf => ⟨(h f hf).1, (h f hf).2.2⟩⟩

theorem comesBack_trackedEntry : ComesBack 2 trackedEntry := by
  refine comesBack_fields (by decide) (by simp [Assoc.keys]) ?_
  simp only [List.forall_mem_cons, List.not_mem_nil, false_implies, implies_true, and_true]
  refine ⟨(comesBack_text (by decide) (Text.whole_of_safe (Sha256.safeText_hex _))).mono (Nat.zero_le _),
    (comesBack_text (by decide) (by decide)).mono (Nat.zero_le _), by decide, ?_, ?_⟩
  · refine Json.writes_list ?_
    simp only [List.forall_mem_cons, List.not_mem_nil, false_implies, implies_true, and_true]
    exact Json.writes_text _ _
  · exact Json.returns_list (.cons (Json.returns_text_of_whole (by decide)) .nil)

theorem comesBack_farEntry : ComesBack 1 farEntry := by
  refine comesBack_fields (by decide) (by simp [Assoc.keys]) ?_
  simp only [List.forall_mem_cons, List.not_mem_nil, false_implies, implies_true, and_true]
  exact ⟨comesBack_text (by decide) (by decide), comesBack_int (by decide) (by decide +kernel)⟩

theorem stat_trackedHost :
    trackedHost.stat relativeCache.indexPath.text = .ok (["c", "index.json"], .file [] 1) :=
  eq_ok_of_toOption (by decide +kernel)

theorem stat_listingHost (es : List (String × Value)) : (listingHost es).stat relativeCache.indexPath.text =
    .ok (["c", "index.json"], .file (listingBytes es) 1) := by
  rw [listingHost, Host.stat_refilled, stat_trackedHost]
  rfl

theorem indexMap_listingHost {es : List (String × Value)} (hnd : (Assoc.keys es).Nodup)
    (hes : ∀ e ∈ es, ComesBack 2 e) : relativeCache.IndexMap (listingHost es)
      [(.text "version", .text "1"), (.text "entries", Entries.ofFields es)] (es.map fun e => (.text e.1, e.2)) := by
  obtain ⟨-, hwrites, hreturns⟩ : ComesBack 4 ("", listing es) := by
    refine comesBack_fields (by decide) (by simp [Assoc.keys]) ?_
    simp only [List.forall_mem_cons, List.not_mem_nil, false_implies, implies_true, and_true]
    exact ⟨(comesBack_text (by decide) (by decide)).mono (Nat.zero_le _), comesBack_fields (by decide) hnd hes⟩
  obtain ⟨text, htext⟩ : ∃ text, Json.writePretty (listing es) = .ok text := hwrites 0
  refine ⟨?_, rfl, rfl⟩
  have hbytes : (listingHost es).readBytes relativeCache.indexPath.text = .ok (Utf8.encode text) := by
    rw [Host.readBytes, stat_listingHost, listingBytes, htext]
    rfl
  exact Json.readJson_of_written (Json.rereads_of_returns hreturns (by decide)) htext hbytes

/-- Beside a host whose index has two entries: one whose index has the first of them alone. -/
theorem reduced_listingHost {e e' : String × Value} (he : ComesBack 2 e) (he' : ComesBack 2 e') (hne : e'.1 ≠ e.1) :
    relativeCache.Reduced e.1 [(.text e.1, e.2), (.text e'.1, e'.2)] (listingHost [e, e']) (listingHost [e]) := by
  have hi : relativeCache.IndexMap (listingHost [e, e']) _ ([e, e'].map fun e => (.text e.1, e.2)) :=
    indexMap_listingHost (by simp [Assoc.keys, hne.symm]) (by simp [he, he'])
  have hi' : relativeCache.IndexMap (listingHost [e]) _ ([e].map fun e => (.text e.1, e.2)) :=
    indexMap_listingHost (by simp [Assoc.keys]) (by simp [he])
  have halone : [(Value.text e.1, e.2), (.text e'.1, e'.2)].filter (fun x => x.1.display = e.1) =
      [(.text e.1, e.2)] := by simp [Value.display, hne]
  refine ⟨⟨_, _, _, listingBytes [e], stat_listingHost _, (Host.refilled_refilled _).symm⟩, _, _, hi,
    by rw [halone]; exact hi', fun k hk => ?_⟩
  by_cases hversion : k = "version"
  · rw [hversion]
    rfl
  · have hnone : ∀ v : Value, Entries.get? k [(.text "version", .text "1"), (.text "entries", v)] = none := by
      intro v
      simp [Entries.get?, Entries.find?, Value.sameKey, Ne.symm hk, Ne.symm hversion]
    rw [hnone, hnone]

/-- What the index holds is nothing to a fingerprint. -/
theorem fingerprint_listingHost (es : List (String × Value)) :
    relativeCache.fingerprint (listingHost es) "v" none ["g"] = .ok (Sha256.hex trackedText) := by
  have hmaterial : relativeCache.material trackedHost "v" none ["g"] = .ok trackedText :=
    eq_ok_of_toOption (by decide +kernel)
  have hsame : relativeCache.material (listingHost es) "v" none ["g"] =
      relativeCache.material trackedHost "v" none ["g"] :=
    material_congr "v" none fun p _ => Host.mtime?_refilled
  rw [fingerprint, hsame, hmaterial]
  rfl

/-- Nor is it to an outcome. -/
theorem exists_payload_listingHost (es : List (String × Value)) (mark : String) :
    ∃ o, payload ⟨relativeCache, listingHost es⟩ ⟨mark, .zero false, "p.json", ["g"]⟩ = .ok o := by
  have hread : (listingHost es).readBytes (relativeCache.payloadPath "p.json").text =
      trackedHost.readBytes (relativeCache.payloadPath "p.json").text := by
    refine Host.readBytes_refilled fun b m hs => ?_
    have hpath : (trackedHost.stat (relativeCache.payloadPath "p.json").text).toOption.map Prod.fst =
        some ["c", "files", "p.json"] := by decide +kernel
    rw [hs] at hpath
    simp [Except.toOption] at hpath
  have hsome : (payload ⟨relativeCache, trackedHost⟩ ⟨"", .zero false, "p.json", ["g"]⟩).toOption.isSome = true := by
    decide +kernel
  obtain ⟨o, ho⟩ := Option.isSome_iff_exists.mp hsome
  refine ⟨o, ?_⟩
  rw [← eq_ok_of_toOption ho]
  simp only [payload, Host.readJson_congr hread]

/-- The entry for the run is fresh, and its outcome is found. -/
theorem fetch_trackedEntry : ∃ o, (exec (fetch "v" none) (relativeCache.on none (listingHost [trackedEntry]))).1 =
    .ok (some o) := by
  have hi : relativeCache.IndexMap (listingHost [trackedEntry]) _ ([trackedEntry].map fun e => (.text e.1, e.2)) :=
    indexMap_listingHost (by simp [Assoc.keys]) (by simp [comesBack_trackedEntry])
  have ho : ¬ Overflows ([trackedEntry].map fun e => (.text e.1, e.2)) := by
    simp [Overflows, CacheEntry.ofValue_eq_tooLarge_iff, trackedEntry, Entries.ofFields, Entries.get?, Entries.find?,
      Value.sameKey]
  have hget : Assoc.get? "v" (sound ([trackedEntry].map fun e => (.text e.1, e.2))) =
      some ⟨Sha256.hex trackedText, .zero false, "p.json", ["g"]⟩ := rfl
  have hfresh := freshOf_of_fingerprint (e := ⟨Sha256.hex trackedText, .zero false, "p.json", ["g"]⟩)
    (List.cons_ne_nil _ _) (fingerprint_listingHost [trackedEntry])
  obtain ⟨o, hpayload⟩ := exists_payload_listingHost [trackedEntry] (Sha256.hex trackedText)
  refine ⟨o, ?_⟩
  rw [hi.fetch_of_sound ho rfl, hget, answerOf, hfresh]
  simp only
  rw [outcomeOf, hpayload, ifReadable]

/-- What an entry holds does not matter to another one: a fetch answers as if it were alone. -/
theorem fetch_beside_text :
    (exec (fetch "v" none) (relativeCache.on none (listingHost [trackedEntry, ("x", .text "")]))).1 =
      (exec (fetch "v" none) (relativeCache.on none (listingHost [trackedEntry]))).1 := by
  have htext : ComesBack 2 ("x", .text "") := (comesBack_text (by decide) (by decide)).mono (Nat.zero_le _)
  have hr := reduced_listingHost comesBack_trackedEntry htext (show "x" ≠ "v" by decide)
  obtain ⟨fields, -, hi, -, -⟩ := hr.index
  have hothers : ¬ Overflows ([(Value.text "v", trackedEntry.2), (.text "x", .text "")].filter
      fun e => e.1.display ≠ "v") := by
    simp [Overflows, CacheEntry.ofValue_eq_tooLarge_iff, Value.display]
  rcases (entries_apart relativeCache _ fields _ hi).1 "v" _ hr none none none with ⟨hspoiled, -⟩ | ⟨-, hsame⟩
  · exact absurd hspoiled hothers
  · exact hsame

/-- **One time spoils all entries**: the fetch would find its outcome if the entry that it asks for were alone. -/
theorem time_spoils_other_entry :
    relativeCache.Reduced "v" [(.text "v", trackedEntry.2), (.text "x", farEntry.2)]
      (listingHost [trackedEntry, farEntry]) (listingHost [trackedEntry]) ∧
    (exec (fetch "v" none) (relativeCache.on none (listingHost [trackedEntry, farEntry]))).1 = .ok none ∧
    ∃ o, (exec (fetch "v" none) (relativeCache.on none (listingHost [trackedEntry]))).1 = .ok (some o) := by
  have hfar : ComesBack 2 farEntry := comesBack_farEntry.mono (by decide)
  have hr : relativeCache.Reduced "v" [(.text "v", trackedEntry.2), (.text "x", farEntry.2)]
      (listingHost [trackedEntry, farEntry]) (listingHost [trackedEntry]) :=
    reduced_listingHost comesBack_trackedEntry hfar (show "x" ≠ "v" by decide)
  obtain ⟨fields, -, hi, -, -⟩ := hr.index
  have ho : Overflows [(.text "v", trackedEntry.2), (.text "x", farEntry.2)] :=
    ⟨_, List.mem_cons_of_mem _ List.mem_cons_self, CacheEntry.ofValue_eq_tooLarge_iff.mpr
      ⟨_, _, rfl, rfl, rfl, by decide +kernel⟩⟩
  exact ⟨hr, hi.fetch_of_overflows ho "v" none none, fetch_trackedEntry⟩

end Cache

end AgentLint
