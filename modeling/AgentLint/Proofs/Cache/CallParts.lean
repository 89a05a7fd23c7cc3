import AgentLint.Proofs.Cache.Additions

/-!
# The parts of a call

A lock makes two things atomic: that fetching reads the index, and that storing brings the index and the outcomes up
to date.  The rest of a call is outside of it: the files are looked at for a fingerprint before the one and after the
other, and an outcome is read at the end.  So a call has two parts, and it is the one part after the other
(`exec_fetch_parts`, `run_store_parts`).

What is fetched depends on little: the entry, the times of its files and the file of its outcome (`answerOf_congr`).
-/

namespace AgentLint

-- Digests are compared but never computed here.
attribute [local irreducible] Sha256.hex

open Text

namespace Cache

/-! ## 1. The parts of a call -/

/-- The first part of fetching: the entry of a validator. -/
def entryOf (name : String) : Op (Option CacheEntry) := do pure (Assoc.get? name (← loadIndex))

/-- The entry that was found, if its fingerprint is still the same and it tracks any file. -/
def stillFresh (name : String) (config : Option Config) (found : Except Fault (Option CacheEntry)) :
    Op (Option CacheEntry) := do
  match ← lift found with
  | none => pure none
  | some e =>
    if e.files.isEmpty then pure none
    else
      let s ← get
      let now ← lift (s.cache.fingerprint s.host name config e.files)
      pure (if now = e.fingerprint then some e else none)

/-- The outcome of an entry, if it can be read. -/
def settle (e : CacheEntry) : Op (Option Outcome) := do
  match payload (← get) e with
  | .ok o => pure (some o)
  | .error f => if isPassedOver f then pure none else throw f

/-- The rest of fetching, given what was found. -/
def answer (name : String) (config : Option Config) (found : Except Fault (Option CacheEntry)) :
    Op (Option Outcome) := do
  match ← ExceptT.lift (ExceptT.run (stillFresh name config found)) with
  | .error f =>
    ExceptT.lift (warn ("Failed to read cache for " ++ name ++ ": " ++ f.message))
    pure none
  | .ok none => pure none
  | .ok (some e) => settle e

/-- Storing, if there is a fingerprint. -/
def storeBy (name : String) (o : Outcome) : Except Fault String → Op Unit
  | .ok mark => do
    let s ← get
    storeMarked s.cache s.host name o mark
  | .error f => throw f

/-- The last part of storing, given the fingerprint. -/
def update (name : String) (o : Outcome) (mark : Except Fault String) : StateM Site Unit := do
  match ← ExceptT.run (storeBy name o mark) with
  | .ok () => pure ()
  | .error f => warn ("Failed to write cache for " ++ name ++ ": " ++ f.message)

/-- The first part of storing: the fingerprint. -/
def markOf (s : Site) (name : String) (o : Outcome) (config : Option Config) : Except Fault String :=
  s.cache.fingerprint s.host name config (Order.sortedDistinct o.files)

variable {c : Cache} {d : Place} {s s' : Contents} {h h' : Host} {ds : Option Diagnostics} {log : List Event}
  {name : String} {o : Outcome} {config : Option Config}

theorem exec_entryOf (s : Site) :
    exec (entryOf name) s = ((exec loadIndex s).1.map (Assoc.get? name), (exec loadIndex s).2) := by
  unfold entryOf
  rw [exec_bind]
  generalize exec loadIndex s = loaded
  obtain ⟨r, s₁⟩ := loaded
  cases r <;> rfl

/-- **Fetching is its two parts**, one after the other. -/
theorem exec_fetch_parts (s : Site) (he : s.cache.enabled = true) :
    exec (fetch name config) s =
      exec (answer name config (exec (entryOf name) s).1) (exec (entryOf name) s).2 := by
  have hfresh : exec (freshEntry name config) s =
      exec (stillFresh name config (exec (entryOf name) s).1) (exec (entryOf name) s).2 := by
    rw [exec_entryOf]
    unfold freshEntry stillFresh
    rw [exec_bind, exec_bind, exec_lift]
    generalize exec loadIndex s = loaded
    obtain ⟨r, s₁⟩ := loaded
    cases r with
    | error f => rfl
    | ok i =>
      cases hget : Assoc.get? name i <;> simp only [Except.map, hget]
  unfold fetch answer
  rw [exec_bind, exec_get]
  simp only [he, Bool.not_true, Bool.false_eq_true, if_false]
  rw [exec_bind, exec_bind, exec_lift_run, exec_lift_run, hfresh]
  generalize exec (stillFresh name config (exec (entryOf name) s).1) (exec (entryOf name) s).2 = fresh
  obtain ⟨r, s₁⟩ := fresh
  cases r with
  | error f => rfl
  | ok entry =>
    cases entry with
    | none => rfl
    | some e => cases hp : payload s₁ e <;> simp only [settle, exec_bind, exec_get, hp]

theorem run_update_eq (s : Site) (mark : Except Fault String) :
    (update name o mark).run s = match exec (storeBy name o mark) s with
      | (.ok (), s') => ((), s')
      | (.error f, s') =>
        (warn ("Failed to write cache for " ++ name ++ ": " ++ f.message)).run s' := by
  unfold update
  rw [StateT.run_bind]
  show (exec (storeBy name o mark) s >>= _ : Id _) = _
  cases exec (storeBy name o mark) s with
  | mk r s' => cases r <;> rfl

theorem exec_storeEntry_parts (s : Site) :
    exec (storeEntry name o config) s = exec (storeBy name o (markOf s name o config)) s := by
  cases hm : markOf s name o config with
  | ok mark =>
    have hs : s = s.cache.on s.cache.diagnostics s.host := rfl
    rw [hs, exec_storeEntry_of_fingerprint s.cache.diagnostics o hm]
    unfold storeBy
    rw [exec_bind, exec_get]
    rfl
  | error f =>
    have hsite : s.cache.fingerprint s.host name config (Order.sortedDistinct o.files) = .error f := hm
    unfold storeEntry
    rw [exec_bind, exec_get]
    simp only
    rw [exec_bind, exec_lift, hsite]
    rfl

/-- **Storing is its two parts**, one after the other. -/
theorem run_store_parts (s : Site) (he : s.cache.enabled = true) :
    (store name o config).run s = (update name o (markOf s name o config)).run s := by
  refine (run_store_eq s he o).trans ?_
  rw [exec_storeEntry_parts]
  exact (run_update_eq s _).symm

theorem payload_on (ds : Option Diagnostics) (h : Host) (e : CacheEntry) :
    payload (c.on ds h) e = payload ⟨c, h⟩ e := by
  unfold payload
  rfl

/-- An entry, if it is still fresh. -/
def freshOf (c : Cache) (h : Host) (name : String) (config : Option Config) :
    Option CacheEntry → Except Fault (Option CacheEntry)
  | none => .ok none
  | some e =>
    if e.files = [] then .ok none
    else (c.fingerprint h name config e.files).map fun now => if now = e.fingerprint then some e else none

theorem freshOf_of_fingerprint {e : CacheEntry} (hne : e.files ≠ [])
    (hfp : c.fingerprint h name config e.files = .ok e.fingerprint) :
    freshOf c h name config (some e) = .ok (some e) := by
  rw [freshOf, if_neg hne, hfp, Except.map, if_pos rfl]

/-- An outcome that was read, or nothing if it could not be read. -/
def ifReadable : Except Fault Outcome → Except Fault (Option Outcome)
  | .ok o => .ok (some o)
  | .error f => if isPassedOver f then .ok none else .error f

/-- What a fresh entry comes to. -/
def outcomeOf (c : Cache) (h : Host) (e : CacheEntry) : Except Fault (Option Outcome) := ifReadable (payload ⟨c, h⟩ e)

/-- What an entry comes to. -/
def answerOf (c : Cache) (h : Host) (name : String) (config : Option Config) (entry : Option CacheEntry) :
    Except Fault (Option Outcome) :=
  match freshOf c h name config entry with
  | .ok (some e) => outcomeOf c h e
  | _ => .ok none

theorem exec_stillFresh (found : Except Fault (Option CacheEntry)) (ds : Option Diagnostics) (h : Host) :
    exec (stillFresh name config found) (c.on ds h) = (found.bind (freshOf c h name config), c.on ds h) := by
  unfold stillFresh
  rw [exec_bind, exec_lift]
  cases found with
  | error f => rfl
  | ok entry =>
    cases entry with
    | none => rfl
    | some e =>
      by_cases hempty : e.files = []
      · simp only [Except.bind, freshOf, hempty, List.isEmpty_nil, if_true]
        rfl
      · have hne : e.files.isEmpty = false := by simpa using hempty
        simp only [Except.bind, freshOf, hne, hempty, Bool.false_eq_true, if_false]
        rw [exec_bind, exec_get]
        simp only
        rw [exec_bind, exec_lift]
        have hsite : (c.on ds h).cache.fingerprint (c.on ds h).host name config e.files =
            c.fingerprint h name config e.files := rfl
        rw [hsite]
        cases c.fingerprint h name config e.files <;> rfl

theorem exec_settle (e : CacheEntry) (ds : Option Diagnostics) (h : Host) :
    exec (settle e) (c.on ds h) = (outcomeOf c h e, c.on ds h) := by
  unfold settle outcomeOf
  rw [← payload_on ds, exec_bind, exec_get]
  simp only
  cases payload (c.on ds h) e with
  | ok o => rfl
  | error f =>
    simp only [ifReadable]
    split
    · rfl
    · rfl

/-- The rest of fetching may report trouble, and does nothing else. -/
theorem exec_answer (c : Cache) (name : String) (config : Option Config) (found : Except Fault (Option CacheEntry))
    (ds : Option Diagnostics) (h : Host) :
    ∃ ds', exec (answer name config found) (c.on ds h) =
      ((found.toOption.map (answerOf c h name config)).getD (.ok none), c.on ds' h) := by
  unfold answer
  rw [exec_bind, exec_lift_run, exec_stillFresh]
  cases found with
  | error f => exact ⟨_, rfl⟩
  | ok entry =>
    simp only [Except.bind, Except.toOption, Option.map_some, Option.getD_some, answerOf]
    cases freshOf c h name config entry with
    | error f => exact ⟨_, rfl⟩
    | ok fresh =>
      cases fresh with
      | none => exact ⟨ds, rfl⟩
      | some e =>
        exact ⟨ds, exec_settle e ds h⟩

theorem exec_entryOf_of_load {loaded : Except Fault CacheIndex}
    (hload : exec loadIndex (c.on ds h) = (loaded, c.on ds h')) (name : String) :
    exec (entryOf name) (c.on ds h) = (loaded.map (Assoc.get? name), c.on ds h') := by
  rw [exec_entryOf, hload]

/-- **What a fetch answers**, given what reading the index has given. -/
theorem exec_fetch_answer (he : c.enabled = true) {loaded : Except Fault CacheIndex}
    (hload : exec loadIndex (c.on ds h) = (loaded, c.on ds h')) (name : String) (config : Option Config) :
    ∃ ds', exec (fetch name config) (c.on ds h) =
      ((loaded.toOption.map fun i => answerOf c h' name config (Assoc.get? name i)).getD (.ok none), c.on ds' h') := by
  obtain ⟨ds', hanswer⟩ := exec_answer c name config (loaded.map (Assoc.get? name)) ds h'
  refine ⟨ds', ?_⟩
  rw [exec_fetch_parts (c.on ds h) he, exec_entryOf_of_load hload name, hanswer]
  cases loaded <;> rfl

/-! ## 2. What is fetched -/

/-- The outcome of an entry is what its file holds, and the files that were checked. -/
theorem payload_congr {e e' : CacheEntry} (hfile : e'.resultFile = e.resultFile) (hfiles : e'.files = e.files)
    (hread : h'.readBytes (c.payloadPath e.resultFile).text = h.readBytes (c.payloadPath e.resultFile).text) :
    payload ⟨c, h'⟩ e' = payload ⟨c, h⟩ e := by
  simp only [payload, hfile, hfiles, Host.readJson_congr hread]

/-- What an entry comes to depends on the file of its outcome alone. -/
theorem outcomeOf_congr {e e' : CacheEntry} (hsame : e'.untimed = e.untimed)
    (hread : h'.readBytes (c.payloadPath e.resultFile).text = h.readBytes (c.payloadPath e.resultFile).text) :
    outcomeOf c h' e' = outcomeOf c h e := by
  obtain ⟨-, hfile, hfiles⟩ := CacheEntry.untimed_eq_iff.mp hsame
  rw [outcomeOf, outcomeOf, payload_congr hfile hfiles hread]

/-- Without its outcome an entry comes to nothing. -/
theorem outcomeOf_of_readBytes_error {e : CacheEntry} {f : FileFault}
    (hread : h.readBytes (c.payloadPath e.resultFile).text = .error f) : outcomeOf c h e = .ok none := by
  have hpayload : payload ⟨c, h⟩ e = .error (.file f) := by
    simp only [payload, Host.readJson_of_readBytes_error hread]
    rfl
  rw [outcomeOf, hpayload]
  rfl

/-- **What an entry comes to** where the same outcome is stored. -/
theorem Stocked.outcomeOf_eq (hs : Stocked c d s h) (hs' : Stocked c d s' h') (hc : c.location.Proper)
    {e e' : CacheEntry} {t : String} (hfile : e.resultFile = Sha256.hex t ++ ".json") (hsame : e'.untimed = e.untimed)
    (hpayload : (s'.payload (Sha256.hex t)).map Deposit.outcome = (s.payload (Sha256.hex t)).map Deposit.outcome) :
    outcomeOf c h' e' = outcomeOf c h e := by
  have hpath : c.payloadPath e.resultFile = c.below ["files", Sha256.hex t ++ ".json"] := by
    rw [hfile, payloadPath_eq]
  cases hx : s.payload (Sha256.hex t) with
  | none =>
    rw [hx, Option.map_none, Option.map_eq_none_iff] at hpayload
    have hnone : ∀ {s : Contents} {h : Host} {e : CacheEntry}, Stocked c d s h → s.payload (Sha256.hex t) = none →
        c.payloadPath e.resultFile = c.below ["files", Sha256.hex t ++ ".json"] → outcomeOf c h e = .ok none := by
      intro s h e hs hx hpath
      cases hread : h.readBytes (c.payloadPath e.resultFile).text with
      | error f => exact outcomeOf_of_readBytes_error hread
      | ok bytes =>
        rw [hpath] at hread
        obtain ⟨x, -, hx', -⟩ := hs.exists_of_readBytes hc hread
        rw [hx] at hx'
        cases hx'
    have hpath' : c.payloadPath e'.resultFile = c.below ["files", Sha256.hex t ++ ".json"] := by
      rw [(CacheEntry.untimed_eq_iff.mp hsame).2.1, hpath]
    rw [hnone hs hx hpath, hnone hs' hpayload hpath']
  | some x =>
    rw [hx, Option.map_some] at hpayload
    obtain ⟨x', hx', hout⟩ := Option.map_eq_some_iff.mp hpayload
    obtain ⟨text, hw, hread⟩ := hs.readBytes_payload hc hx
    obtain ⟨text', hw', hread'⟩ := hs'.readBytes_payload hc hx'
    rw [hout] at hw'
    obtain rfl : text = text' := Except.ok.inj (hw.symm.trans hw')
    exact outcomeOf_congr hsame (by rw [hpath, hread, hread'])

/-- **A fetch**, where the index can be read. -/
theorem Stocked.exec_fetch_served (hs : Stocked c d s h) (hu : c.InUse) (hr : Readable c s h)
    (ds : Option Diagnostics) (name : String) (config : Option Config) :
    ∃ h' i s', Serves c.version s i s' ∧ Tidy i ∧ Furnished c d h h' ∧ Stocked c d s' h' ∧
      (exec (fetch name config) (c.on ds h)).1 = answerOf c h' name config (Assoc.get? name i) := by
  obtain ⟨loaded, h', i, s', hload, hserves, htidy, hf, hs', -, hloaded⟩ := hs.exec_loadIndex_served hu.proper hr ds
  obtain ⟨ds', hfetch⟩ := exec_fetch_answer hu.enabled hload name config
  refine ⟨h', i, s', hserves, htidy, hf, hs', ?_⟩
  rw [hfetch]
  rcases hloaded with rfl | ⟨rfl, e, rfl⟩ <;> rfl

/-- What is fetched, if files, the entry and its outcome are the same. -/
theorem answerOf_congr (name : String) (config : Option Config) {entry entry' : Option CacheEntry}
    (hsame : entry'.map CacheEntry.untimed = entry.map CacheEntry.untimed)
    (hfiles : ∀ e, entry = some e → ∀ p ∈ e.files, h'.mtime? p = h.mtime? p)
    (houtcome : ∀ e e', entry = some e → entry' = some e' → outcomeOf c h' e' = outcomeOf c h e) :
    answerOf c h' name config entry' = answerOf c h name config entry := by
  cases entry with
  | none =>
    rw [Option.map_none, Option.map_eq_none_iff] at hsame
    rw [hsame]
    rfl
  | some e =>
    rw [Option.map_some] at hsame
    obtain ⟨e', rfl, huntimed⟩ := Option.map_eq_some_iff.mp hsame
    obtain ⟨hmark, -, hpaths⟩ := CacheEntry.untimed_eq_iff.mp huntimed
    have hmaterial : c.material h' name config e.files = c.material h name config e.files :=
      material_congr name config fun p hp => hfiles e rfl p (Order.mem_sortedDistinct.mp hp)
    have hfp : c.fingerprint h' name config e.files = c.fingerprint h name config e.files := by
      rw [fingerprint, fingerprint, hmaterial]
    unfold answerOf freshOf
    simp only [hpaths, hmark, hfp]
    by_cases hempty : e.files = []
    · simp only [hempty, if_true]
    · simp only [hempty, if_false]
      cases c.fingerprint h name config e.files with
      | error f => rfl
      | ok now =>
        by_cases hnow : now = e.fingerprint
        · simp only [hnow, Except.map, if_true]
          exact houtcome e e' rfl rfl
        · simp only [hnow, Except.map, if_false]

end Cache

end AgentLint
