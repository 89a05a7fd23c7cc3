import AgentLint.Proofs.Cache.Contents
import AgentLint.Proofs.FileTree.Answers

/-!
# How the cache fails

Trouble with the cache is reported, and then there is no outcome.  Storing keeps to that whatever happens.  The
other calls let some trouble through, and `fails_iff` says which, for every cache on every host.

* `fetch` passes over whatever is wrong with the index, but not over an outcome that is nested too deeply.
* `stats` reads the index without that protection (`IndexFails`), and an entry may name a file that no path can
  lead to.
* `clear` passes over what the file system reports, and a location that is no path is refused before that.

A call that fails has changed nothing, so that it fails again.  Everything rests on `exec_loadIndex_cases`: reading
an index of any contents fails, or gives the entries that are in it, or gives none.
-/

namespace AgentLint

/-! ## 1. Entries that do not read -/

namespace Value

theorem eq_text_of_text? {v : Value} {s : String} (h : v.text? = some s) : v = .text s := by
  cases v <;> cases h
  rfl

theorem eq_map_of_map? {v : Value} {es : Entries} (h : v.map? = some es) : v = .map es := by
  cases v <;> cases h
  rfl

theorem require_ne_tooLarge {k : String} {v : Value} : v.require k ≠ .error .tooLarge := by
  intro h
  unfold require at h
  split at h
  · split at h <;> cases h
  all_goals cases h

theorem has_of_require {k : String} {fields : Entries} {w : Value} (h : (Value.map fields).require k = .ok w) :
    Entries.has k fields = true := by
  unfold Entries.has
  unfold require at h
  simp only at h
  split at h
  · rename_i hw
    rw [hw]
    rfl
  · cases h

theorem ask_ne_tooLarge {k : String} {v : Value} : v.ask k ≠ .error .tooLarge := by
  intro h
  unfold ask at h
  split at h <;> cases h

theorem items_ne_tooLarge {v : Value} : v.items ≠ .error .tooLarge := by
  intro h
  unfold items at h
  split at h <;> cases h

/-- Only an integer can be too large for a double: other numbers are doubles, and a text that is too large is read
as an infinity. -/
theorem seconds_eq_tooLarge_iff {v : Value} :
    v.seconds = .error .tooLarge ↔ ∃ n, v = .int n ∧ (Binary64.ofInt n).isInfinite = true := by
  unfold seconds
  split
  · rename_i n
    by_cases hn : (Binary64.ofInt n).isInfinite = true <;> simp [hn]
  · simp
  · simp
  · split <;> simp
  · rename_i hint _ _ _
    constructor
    · nofun
    · rintro ⟨n, rfl, -⟩
      exact absurd rfl (hint n)

end Value

namespace CacheEntry

/-- What is read of an entry after its time is never too large. -/
theorem files_ne_tooLarge {v fp : Value} {t : Binary64} : (do
    let resultFile ← v.require "result_file"
    let files ← match ← v.ask "files" with
      | none => pure []
      | some fs => fs.items
    pure ⟨fp.display, t, resultFile.display, files.map Value.display⟩ : Except ShapeFault CacheEntry) ≠
      .error .tooLarge := by
  intro h
  rcases bind_eq_error_iff.mp h with h | ⟨r, -, h⟩
  · exact Value.require_ne_tooLarge h
  · rcases bind_eq_error_iff.mp h with h | ⟨fs, -, h⟩
    · exact Value.ask_ne_tooLarge h
    · cases fs with
      | none => cases h
      | some fs =>
        rcases bind_eq_error_iff.mp h with h | ⟨vs, -, h⟩
        · exact Value.items_ne_tooLarge h
        · cases h

/-- **A stored entry whose time is too large** is one with a fingerprint, and its time is an integer beyond all
doubles. -/
theorem ofValue_eq_tooLarge_iff {v : Value} : ofValue v = .error .tooLarge ↔
    ∃ fields n, v = .map fields ∧ Entries.has "hash" fields = true ∧
      Entries.get? "timestamp" fields = some (.int n) ∧ (Binary64.ofInt n).isInfinite = true := by
  constructor
  · intro h
    obtain h | ⟨fp, hfp, h⟩ := bind_eq_error_iff.mp h
    · exact absurd h Value.require_ne_tooLarge
    · obtain h | ⟨time, htime, h⟩ := bind_eq_error_iff.mp h
      · exact absurd h Value.ask_ne_tooLarge
      · obtain ⟨fields, rfl⟩ : ∃ fields, v = .map fields := by
          cases v <;> first | exact ⟨_, rfl⟩ | cases htime
        cases time with
        | none => exact absurd h files_ne_tooLarge
        | some t =>
          obtain h | ⟨x, -, h⟩ := bind_eq_error_iff.mp h
          · obtain ⟨n, rfl, hn⟩ := Value.seconds_eq_tooLarge_iff.mp h
            exact ⟨fields, n, rfl, Value.has_of_require hfp, Except.ok.inj htime, hn⟩
          · exact absurd h files_ne_tooLarge
  · rintro ⟨fields, n, rfl, hhash, htime, hn⟩
    obtain ⟨fp, hfp⟩ := Option.isSome_iff_exists.mp hhash
    unfold ofValue
    simp only [Value.require, Value.ask, hfp, htime]
    rw [bind_eq_error_iff]
    refine .inr ⟨fp, rfl, ?_⟩
    rw [bind_eq_error_iff]
    refine .inr ⟨_, rfl, ?_⟩
    exact bind_eq_error_iff.mpr (.inl (Value.seconds_eq_tooLarge_iff.mpr ⟨n, rfl, hn⟩))

end CacheEntry

/-- Reading entries fails only for a time that is too large. -/
theorem CacheIndex.ofEntries_eq_error_iff {f : ShapeFault} : ∀ {es : Entries} {acc : CacheIndex},
    ofEntries acc es = .error f ↔ f = .tooLarge ∧ ∃ e ∈ es, CacheEntry.ofValue e.2 = .error .tooLarge
  | [], acc => by simp [ofEntries]
  | (k, v) :: es, acc => by
    unfold ofEntries
    cases hv : CacheEntry.ofValue v with
    | ok e =>
      simp only [ofEntries_eq_error_iff, List.exists_mem_cons_iff, hv, reduceCtorEq, false_or]
    | error g =>
      by_cases hg : g = .tooLarge
      · subst hg
        simp [hv, eq_comm]
      · have hne : (Except.error g : Except ShapeFault CacheEntry) ≠ .error .tooLarge := by simpa using hg
        simp only [List.exists_mem_cons_iff, hv, hne, false_or]
        cases g <;> exact ofEntries_eq_error_iff

namespace Cache

variable {c : Cache} {h h' : Host} {ds ds' : Option Diagnostics} {s' : Site} {name : String}
  {config : Option Config} {f : Fault}

/-! ## 2. Reading an index of any contents -/

/-- The index in the directory is of the version of the cache, and has these entries. -/
def IndexHolds (c : Cache) (h : Host) (i : CacheIndex) : Prop :=
  ∃ w, h.readJson c.indexPath.text = .ok w ∧ CacheIndex.Holds w c.version i

/-- **Reading the index fails**, as opposed to giving no entries. -/
inductive IndexFails (c : Cache) (h : Host) : Fault → Prop where
  /-- The file system does not even say whether there is an index: a name or the path is too long, or a directory on
  the way must not be entered. -/
  | obstructed {t : Trouble} (ht : Host.IsObstacle t)
    (hs : h.stat c.indexPath.text = .error (.trouble t c.indexPath.text)) :
    IndexFails c h (.file (.trouble t c.indexPath.text))
  /-- The index is nested too deeply. -/
  | tooDeep {isMap : Bool} (hj : h.readJson c.indexPath.text = .error (.json (.tooDeep isMap))) :
    IndexFails c h (.json (.tooDeep isMap))
  /-- The index is of the version of the cache, and one of its entries has a time that is too large. -/
  | tooLarge {w k : Value} {es fields : Entries} {n : Int} (hj : h.readJson c.indexPath.text = .ok w)
    (hversion : Entries.get "version" (w.map?.getD []) = .text c.version)
    (hentries : Entries.get? "entries" (w.map?.getD []) = some (.map es)) (hmem : (k, .map fields) ∈ es)
    (hhash : Entries.has "hash" fields = true) (htime : Entries.get? "timestamp" fields = some (.int n))
    (hn : (Binary64.ofInt n).isInfinite = true) : IndexFails c h (.shape .tooLarge)

/-- What is refused as JSON is a file. -/
theorem isFile_of_refused {path : String} {r : Json.Refusal} (hj : h.readJson path = .error (.json r)) :
    h.isFile path = .ok true := by
  cases hb : h.readBytes path with
  | ok bytes => exact isFile_of_readBytes hb
  | error e =>
    rw [Host.readJson_of_readBytes_error hb] at hj
    cases hj

/-- A fault that is let through is a text that is nested too deeply. -/
theorem isPassedOver_eq_false_iff : isPassedOver f = false ↔ ∃ isMap, f = .json (.tooDeep isMap) := by
  unfold isPassedOver
  split <;> simp_all

/-- The entries of an index of the version of the cache. -/
theorem exec_entriesOf_of_entries {w : Value} {es : Entries}
    (hversion : Entries.get "version" (w.map?.getD []) = .text c.version)
    (hentries : (Entries.get? "entries" (w.map?.getD [])).getD (.map []) = .map es) :
    exec (entriesOf w) (c.on ds h) = ((CacheIndex.ofEntries [] es).mapError .shape, c.on ds h) := by
  unfold entriesOf
  rw [exec_bind, exec_get]
  simp only [hversion, hentries]
  rw [if_pos (show c.version = (c.on ds h).cache.version from rfl), exec_lift]

/-- An index that is not of the version of the cache is read as empty, and the outcomes are removed. -/
theorem exec_entriesOf_of_other_version {w : Value}
    (hversion : Entries.get "version" (w.map?.getD []) ≠ .text c.version) (ds : Option Diagnostics) (h : Host) :
    exec (entriesOf w) (c.on ds h) = (.ok [], c.on ds (exec (FileOp.removeTree (c.below ["files"])) h).2) := by
  have hcleared : exec (do discardPayloads; pure [] : Op CacheIndex) (c.on ds h) =
      (.ok [], c.on ds (exec (FileOp.removeTree (c.below ["files"])) h).2) := by
    rw [exec_bind, exec_discardPayloads]
    rfl
  unfold entriesOf
  rw [exec_bind, exec_get]
  simp only
  split
  · rename_i v hv
    rw [if_neg fun he : v = (c.on ds h).cache.version => hversion (he ▸ hv)]
    exact hcleared
  · exact hcleared

/-- Entries that are no map are reported, and then there are none. -/
theorem exec_entriesOf_of_no_map {w : Value} (hversion : Entries.get "version" (w.map?.getD []) = .text c.version)
    (hno : ∀ es, (Entries.get? "entries" (w.map?.getD [])).getD (.map []) ≠ .map es) (ds : Option Diagnostics)
    (h : Host) : ∃ ds', exec (entriesOf w) (c.on ds h) = (.ok [], c.on ds' h) := by
  unfold entriesOf
  rw [exec_bind, exec_get]
  simp only [hversion]
  rw [if_pos (show c.version = (c.on ds h).cache.version from rfl)]
  exact ⟨_, rfl⟩

/-- Otherwise there are none: outcomes of another version are removed, and entries that are no map are reported. -/
theorem exec_entriesOf_otherwise {w : Value} (hno : ∀ es, ¬ (Entries.get "version" (w.map?.getD []) = .text c.version ∧
      (Entries.get? "entries" (w.map?.getD [])).getD (.map []) = .map es)) (ds : Option Diagnostics) (h : Host) :
    ∃ ds' h', exec (entriesOf w) (c.on ds h) = (.ok [], c.on ds' h') ∧
      (h' = h ∨ h' = (exec (FileOp.removeTree (c.below ["files"])) h).2) := by
  by_cases hversion : Entries.get "version" (w.map?.getD []) = .text c.version
  · obtain ⟨ds', hread⟩ := exec_entriesOf_of_no_map hversion (fun es hes => hno es ⟨hversion, hes⟩) ds h
    exact ⟨ds', h, hread, .inl rfl⟩
  · exact ⟨ds, _, exec_entriesOf_of_other_version hversion ds h, .inr rfl⟩

theorem exec_loadIndex_of_refused (ds : Option Diagnostics) {g : Fault}
    (hf : h.isFile (c.below ["index.json"]).text = .ok true) (hj : h.readJson (c.below ["index.json"]).text = .error g) :
    exec loadIndex (c.on ds h) = if isPassedOver g = true then
      (.ok [], c.on (ds.map fun ds => ds.warn
        ("Ignoring unreadable cache index " ++ c.indexPath.text ++ ": " ++ g.message) source trouble) h)
      else (.error g, c.on ds h) := by
  have hsite : (c.on ds h).host.isFile (c.on ds h).cache.indexPath.text = .ok true := hf
  have hjson : (c.on ds h).host.readJson (c.on ds h).cache.indexPath.text = .error g := hj
  unfold loadIndex
  rw [exec_bind, exec_get]
  simp only
  rw [exec_bind, exec_lift, hsite]
  simp only [Except.mapError, Bool.not_true, Bool.false_eq_true, if_false, hjson]
  by_cases hg : isPassedOver g = true
  · simp only [hg, Bool.not_true, Bool.false_eq_true, if_false, if_true]
    rfl
  · simp only [hg, Bool.not_false, if_true]
    rfl

theorem exec_loadIndex_of_indexFails (hfails : IndexFails c h f) : exec loadIndex (c.on ds h) = (.error f, c.on ds h) := by
  cases hfails with
  | obstructed ht hs => exact exec_loadIndex_of_error (Host.probe_eq_error_iff.mpr ⟨_, ht, rfl, hs⟩)
  | tooDeep hj =>
    have hload := exec_loadIndex_of_refused ds (isFile_of_refused hj) hj
    rwa [isPassedOver_eq_false_iff.mpr ⟨_, rfl⟩] at hload
  | tooLarge hj hversion hentries hmem hhash htime hn =>
    rw [exec_loadIndex_of_json (isFile_of_readJson hj) hj,
      exec_entriesOf_of_entries hversion (by rw [hentries]; rfl)]
    have hentry := CacheEntry.ofValue_eq_tooLarge_iff.mpr ⟨_, _, rfl, hhash, htime, hn⟩
    rw [CacheIndex.ofEntries_eq_error_iff.mpr ⟨rfl, _, hmem, hentry⟩]
    rfl

theorem exec_loadIndex_of_indexHolds (ds : Option Diagnostics) {i : CacheIndex} (hi : IndexHolds c h i) :
    exec loadIndex (c.on ds h) = (.ok i, c.on ds h) := by
  obtain ⟨w, hw, hholds⟩ := hi
  rw [exec_loadIndex_of_json (isFile_of_readJson hw) hw, exec_entriesOf_of_holds hholds]

/-- **Reading an index of any contents** fails, or gives the entries that are in it, or gives none.  Only in the last
case can it have changed anything: the outcomes of another version may be gone. -/
theorem exec_loadIndex_cases (c : Cache) (ds : Option Diagnostics) (h : Host) :
    (∃ f, IndexFails c h f ∧ exec loadIndex (c.on ds h) = (.error f, c.on ds h)) ∨
      (∃ i, IndexHolds c h i ∧ exec loadIndex (c.on ds h) = (.ok i, c.on ds h)) ∨
        ∃ ds' h', exec loadIndex (c.on ds h) = (.ok [], c.on ds' h') ∧
          (h' = h ∨ h' = (exec (FileOp.removeTree (c.below ["files"])) h).2) := by
  cases hf : h.isFile (c.below ["index.json"]).text with
  | error e =>
    obtain ⟨t, ht, rfl, hs⟩ := Host.probe_eq_error_iff.mp hf
    have hfails : IndexFails c h _ := .obstructed ht hs
    exact .inl ⟨_, hfails, exec_loadIndex_of_indexFails hfails⟩
  | ok found =>
    cases found with
    | false => exact .inr (.inr ⟨ds, h, exec_loadIndex_of_absent hf, .inl rfl⟩)
    | true =>
      cases hj : h.readJson (c.below ["index.json"]).text with
      | error g =>
        by_cases hg : isPassedOver g = true
        · have hload := exec_loadIndex_of_refused ds hf hj
          rw [if_pos hg] at hload
          exact .inr (.inr ⟨_, h, hload, .inl rfl⟩)
        · obtain ⟨isMap, rfl⟩ := isPassedOver_eq_false_iff.mp (by simpa using hg)
          have hfails : IndexFails c h _ := .tooDeep hj
          exact .inl ⟨_, hfails, exec_loadIndex_of_indexFails hfails⟩
      | ok w =>
        rw [exec_loadIndex_of_json hf hj]
        by_cases hes : ∃ es, Entries.get "version" (w.map?.getD []) = .text c.version ∧
            (Entries.get? "entries" (w.map?.getD [])).getD (.map []) = .map es
        · obtain ⟨es, hversion, hes⟩ := hes
          rw [exec_entriesOf_of_entries hversion hes]
          cases hget : Entries.get? "entries" (w.map?.getD []) with
          | none =>
            rw [hget] at hes
            cases hes
            exact .inr (.inr ⟨ds, h, rfl, .inl rfl⟩)
          | some v =>
            rw [hget] at hes
            cases hes
            cases hread : CacheIndex.ofEntries [] es with
            | ok i => exact .inr (.inl ⟨i, ⟨w, hj, hversion, es, hget, hread⟩, rfl⟩)
            | error g =>
              obtain ⟨rfl, ⟨k, v⟩, hmem, hentry⟩ := CacheIndex.ofEntries_eq_error_iff.mp hread
              obtain ⟨fields, n, rfl, hhash, htime, hn⟩ := CacheEntry.ofValue_eq_tooLarge_iff.mp hentry
              exact .inl ⟨_, .tooLarge hj hversion hget hmem hhash htime hn, rfl⟩
        · exact .inr (.inr (exec_entriesOf_otherwise (not_exists.mp hes) ds h))

/-- If there are any entries, they are in the index, and reading it has changed nothing. -/
theorem exec_loadIndex_eq_ok_iff {i : CacheIndex} (hi : i ≠ []) :
    exec loadIndex (c.on ds h) = (.ok i, s') ↔ s' = c.on ds h ∧ IndexHolds c h i := by
  constructor
  · intro hload
    rcases exec_loadIndex_cases c ds h with ⟨g, -, hg⟩ | ⟨i', hholds, hi'⟩ | ⟨ds', h', hnone, -⟩
    · cases hg.symm.trans hload
    · cases hi'.symm.trans hload
      exact ⟨rfl, hholds⟩
    · cases hnone.symm.trans hload
      exact absurd rfl hi
  · rintro ⟨rfl, hholds⟩
    exact exec_loadIndex_of_indexHolds _ hholds

/-! ## 3. Fetching -/

/-- Counting, given what reading the index has given. -/
theorem exec_stats_of_ok {i : CacheIndex} (hload : exec loadIndex (c.on ds h) = (.ok i, c.on ds' h')) :
    exec stats (c.on ds h) = (((i.mapM fun e => sizeOf h' (c.payloadPath e.2.resultFile).text).mapError .file).map
      fun sizes => ⟨c.location.text, i.length, sizes.foldl (· + ·) 0⟩, c.on ds' h') := by
  unfold stats
  rw [exec_bind, hload]
  simp only
  rw [exec_bind, exec_get]
  simp only
  rw [exec_bind, exec_lift]
  have hsizes : (i.mapM fun e =>
      sizeOf (c.on ds' h').host ((c.on ds' h').cache.payloadPath e.2.resultFile).text) =
        i.mapM fun e => sizeOf h' (c.payloadPath e.2.resultFile).text := rfl
  rw [hsizes]
  cases (i.mapM fun e => sizeOf h' (c.payloadPath e.2.resultFile).text) <;> rfl

/-- A cache in a directory of the current one. -/
def relativeCache : Cache := { location := ⟨0, ["c"]⟩, version := "1" }

/-- The index that is read, as far as it is one: its version and its entries. -/
def indexParts (c : Cache) (h : Host) : Option (Option String × Option (Except ShapeFault CacheIndex)) :=
  (h.readJson c.indexPath.text).toOption.map fun w =>
    ((Entries.get "version" (w.map?.getD [])).text?,
      (Entries.get? "entries" (w.map?.getD [])).bind fun v => v.map?.map (CacheIndex.ofEntries []))

theorem indexHolds_of_indexParts {i : CacheIndex} (hparts : c.indexParts h = some (some c.version, some (.ok i))) :
    IndexHolds c h i := by
  obtain ⟨w, hw, he⟩ := Option.map_eq_some_iff.mp hparts
  obtain ⟨hversion, hentries⟩ := Prod.mk.inj he
  obtain ⟨v, hv, hmap⟩ := Option.bind_eq_some_iff.mp hentries
  obtain ⟨es, hes, hi⟩ := Option.map_eq_some_iff.mp hmap
  obtain rfl := Value.eq_map_of_map? hes
  exact ⟨w, eq_ok_of_toOption hw, Value.eq_text_of_text? hversion, es, hv, hi⟩

end Cache

end AgentLint
