import AgentLint.Proofs.Cache.Interleaving
import Mathlib.Data.List.Nodup

/-!
# Validators are independent

Calls of different validators do not get in each other's way (`validators_independent`): it makes no difference to
the directory which of two outcomes is stored first, none to a fetch whether the outcome of another validator has
been stored, and none to the directory how the parts of many calls are interleaved.  Times of entries aside, that is.

What it takes is that there are no faults, that names and versions are told apart by JSON and materials by SHA-256,
and that files are clear of the cache.  It is not enough that they are outside its directory
(`stores_differ_at_made_directory`), as storing the one outcome may make a directory in the place of a missing file
that the other is about.

There are no faults in storing once an outcome of the same version is there (`Present.undisturbed`).
-/

namespace AgentLint

-- Digests are compared but never computed here.
attribute [local irreducible] Sha256.hex

open Text

namespace Cache

variable {c : Cache} {d : Place} {s s' : Contents} {h h' : Host} {ds : Option Diagnostics} {log : List Event}
  {name : String} {o : Outcome} {config : Option Config}

/-! ## 1. Whole calls -/

/-- Time has passed. -/
def later (now : Int) (s : Site) : Site := { s with host := { s.host with now } }

/-- There is no fault in storing an outcome: it goes through if there is a fingerprint. -/
def Undisturbed (name : String) (o : Outcome) (config : Option Config) (s : Site) : Prop :=
  s.cache.enabled = true → ∀ mark, markOf s name o config = .ok mark → (exec (storeEntry name o config) s).1 = .ok ()

/-- The calls of each validator. -/
def callsOf (calls : List (String × Job)) (name : String) : List Job :=
  calls.filterMap fun call => if call.1 = name then some call.2 else none

section Calls

variable {S : System} {todo : List Job} {a b : String} {o₁ o₂ : Outcome} {config₁ config₂ : Option Config}

theorem System.tasks_move_self (S : System) (s : Site) (name : String) (t : Task) : (S.move s name t).tasks name = t :=
  Function.update_self ..

theorem System.tasks_move_of_ne (S : System) (s : Site) {a b : String} (hne : b ≠ a) (t : Task) :
    (S.move s a t).tasks b = S.tasks b := Function.update_of_ne hne ..

theorem System.move_move (S : System) (s s' : Site) (name : String) (t t' : Task) :
    (S.move s name t).move s' name t' = S.move s' name t' := by
  simp only [System.move, Function.update_idem]

/-- A fetch is a run of steps. -/
theorem steps_fetch (he : S.site.cache.enabled = true) (htask : S.tasks name = ⟨.ready, .get config :: todo⟩) :
    Steps S (S.move (exec (fetch name config) S.site).2 name ⟨.ready, todo⟩) := by
  have hlook := Step.look htask he
  have hanswer := Step.answer (S.tasks_move_self (exec (entryOf name) S.site).2 name
    ⟨.looked config (exec (entryOf name) S.site).1, todo⟩)
  rw [System.move_move] at hanswer
  rw [exec_fetch_parts S.site he]
  exact .tail (.single hlook) hanswer

/-- **Storing is a run of steps**, if there is no fault. -/
theorem steps_store (hun : Undisturbed name o config S.site)
    (htask : S.tasks name = ⟨.ready, .set o config :: todo⟩) :
    Steps S (S.move (afterStore name o config S.site) name ⟨.ready, todo⟩) := by
  cases he : S.site.cache.enabled with
  | false =>
    rw [afterStore, run_store_off S.site he]
    exact .single (.skip htask he)
  | true =>
    have hmark := Step.mark htask he
    have hupdate := Step.update (S.tasks_move_self S.site name ⟨.marked o config (markOf S.site name o config), todo⟩)
      fun m hm => by
        have hok := hun he m hm
        rwa [exec_storeEntry_parts] at hok
    rw [System.move_move] at hupdate
    rw [afterStore, run_store_parts S.site he]
    exact .tail (.single hmark) hupdate

theorem mem_callsOf {calls : List (String × Job)} {job : Job} : job ∈ callsOf calls name ↔ (name, job) ∈ calls := by
  simp only [callsOf, List.mem_filterMap]
  constructor
  · rintro ⟨⟨n, j⟩, hmem, hjob⟩
    split at hjob
    · rename_i hn
      cases hn
      cases hjob
      exact hmem
    · cases hjob
  · exact fun hmem => ⟨_, hmem, if_pos rfl⟩

theorem callsOf_swap (hne : a ≠ b) (j j' : Job) : callsOf [(a, j), (b, j')] = callsOf [(b, j'), (a, j)] := by
  funext n
  by_cases ha : a = n
  · have hb : b ≠ n := fun hb => hne (ha.trans hb.symm)
    simp [callsOf, ha, hb]
  · by_cases hb : b = n <;> simp [callsOf, ha, hb]

theorem Orderly.mono {jobs jobs' : String → List Job} (hj : Orderly c d log h jobs)
    (hsub : ∀ name, ∀ job ∈ jobs' name, job ∈ jobs name) : Orderly c d log h jobs' := by
  refine ⟨fun n j hmem => hj.whole n j (hsub n j hmem), fun n j hmem => hj.clear n j (hsub n j hmem), ?_⟩
  have htexts : ∀ text, Texts c log h jobs' text → Texts c log h jobs text := fun text ht =>
    ht.imp id fun ⟨n, o, config, hmem, hm⟩ => ⟨n, o, config, hsub n _ hmem, hm⟩
  exact fun a b ha hb => hj.toldApart a b (htexts a ha) (htexts b hb)

/-- **Two stores are a run of steps**, if there is no fault. -/
theorem exists_steps_stores (s : Site) (hne : a ≠ b) (now : Int) (ha : Undisturbed a o₁ config₁ s)
    (hb : Undisturbed b o₂ config₂ (later now (afterStore a o₁ config₁ s))) :
    ∃ S, Steps (System.start s (callsOf [(a, .set o₁ config₁), (b, .set o₂ config₂)])) S ∧ S.Done ∧
      S.site = afterStore b o₂ config₂ (later now (afterStore a o₁ config₁ s)) := by
  have hcalls : ∀ n, callsOf [(a, .set o₁ config₁), (b, .set o₂ config₂)] n =
      (if a = n then [.set o₁ config₁] else []) ++ (if b = n then [.set o₂ config₂] else []) := by
    intro n
    by_cases ha : a = n <;> by_cases hb : b = n <;> simp [callsOf, ha, hb]
  generalize callsOf [(a, .set o₁ config₁), (b, .set o₂ config₂)] = jobs at hcalls
  have hfirst : (System.start s jobs).tasks a = ⟨.ready, .set o₁ config₁ :: []⟩ := by
    simp [System.start, hcalls, hne.symm]
  have hstore := steps_store (S := System.start s jobs) ha hfirst
  generalize hS : (System.start s jobs).move (afterStore a o₁ config₁ (System.start s jobs).site) a ⟨.ready, []⟩ = S
    at hstore
  have hsite : S.site = afterStore a o₁ config₁ s := by rw [← hS]; rfl
  have hsecond : S.tasks b = ⟨.ready, .set o₂ config₂ :: []⟩ := by
    rw [← hS, System.tasks_move_of_ne _ _ hne.symm]
    simp [System.start, hcalls, hne]
  have hwait := Step.wait S now
  have hstore' := steps_store (S := { S with site := later now S.site }) (by rwa [hsite]) hsecond
  refine ⟨_, (hstore.tail hwait).trans hstore', fun n => ?_, by rw [hsite]; rfl⟩
  by_cases hnb : n = b
  · rw [hnb, System.tasks_move_self]
  · rw [System.tasks_move_of_ne _ _ hnb, ← hS]
    by_cases hna : n = a
    · rw [hna, System.tasks_move_self]
    · rw [System.tasks_move_of_ne _ _ hna]
      simp [System.start, hcalls, Ne.symm hna, Ne.symm hnb]

end Calls

/-! ## 2. No faults -/

section Faultless

variable {x : Deposit} {o₂ : Outcome}

theorem Present.undisturbed (hp : Present c x s) (hs : Stocked c d s h) (hu : c.InUse) (hx : x.version = c.version)
    (hversion : Whole c.version) (hw : ∃ text, Json.writePretty o.toValue = .ok text) (name : String)
    (config : Option Config) (ds : Option Diagnostics) : Undisturbed name o config (c.on ds h) := by
  intro _ mark hmark
  obtain ⟨text, hm, -⟩ := exists_material hu hmark
  exact hp.exec_storeEntry_ok hs hu hx hversion hm hw ds

/-- Storing goes on with a ledger. -/
theorem Ledger.exists_afterStore (hu : c.InUse) (hl : Ledger c d log h)
    (hok : (exec (storeEntry name o config) (c.on ds h)).1 = .ok ()) :
    ∃ h' s', afterStore name o config (c.on ds h) = c.on ds h' ∧
      Ledger c d (.stored ⟨c.version, name, config, o, h⟩ :: log) h' ∧ Stocked c d s' h' ∧
      Present c ⟨c.version, name, config, o, h⟩ s' := by
  obtain ⟨s, hs, -⟩ := hl.exists_contents (P := fun _ _ => True) hu trivial fun _ _ _ => trivial
  obtain ⟨r, h', hexec, -⟩ := exec_storeEntry_stocked hu hs name o config ds
  obtain rfl : r = .ok () := by rwa [hexec] at hok
  have hhost : Call.host c h ⟨c.version, ds, .store name o config⟩ = h' :=
    (host_store c.version ds name o config hu.enabled h).trans (congrArg (fun r => r.2.host) hexec)
  have hevents : Call.events c h ⟨c.version, ds, .store name o config⟩ = [.stored ⟨c.version, name, config, o, h⟩] :=
    events_store hok
  obtain ⟨s', hturn, hs', -⟩ := exec_call hu hs ⟨c.version, ds, .store name o config⟩
  have hcall := Ledger.call ⟨c.version, ds, .store name o config⟩ hl
  rw [hevents] at hturn hcall
  rw [hhost] at hs' hcall
  exact ⟨h', s', afterStore_of_ok hu.enabled hexec, hcall, hs', hturn.present⟩

/-- Once a run has been stored, there is no fault in storing another. -/
theorem Ledger.undisturbed_later (hu : c.InUse) (hl : Ledger c d log h) (hversion : Whole c.version)
    (hok : (exec (storeEntry name o config) (c.on ds h)).1 = .ok ())
    (hw : ∃ text, Json.writePretty o₂.toValue = .ok text) (now : Int) (b : String) (config₂ : Option Config) :
    Undisturbed b o₂ config₂ (later now (afterStore name o config (c.on ds h))) := by
  obtain ⟨h', s', hafter, -, hs', hp'⟩ := hl.exists_afterStore hu hok
  rw [hafter]
  exact hp'.undisturbed (hs'.waiting now) hu rfl hversion hw b config₂ ds

/-- Its outcome is in the directory. -/
theorem Present.exists_hasBytes (hp : Present c x s) (hs : Stocked c d s h) :
    ∃ bytes, HasBytes h (payloadPlace d (x.mark c)) bytes := by
  have hheld : Held h (payloadPlace d (x.mark c)) ((s.payload (x.mark c)).map fun x => x.outcome.toValue) :=
    hs.payload _
  rw [hp.payload] at hheld
  obtain ⟨text, m, -, hm⟩ := hheld
  exact ⟨_, m, hm⟩

/-- Every outcome in the directory has the fingerprint of a run that was stored. -/
theorem Ledger.exists_of_hasBytes (hu : c.InUse) (hl : Ledger c d log h) (hw : AllWhole log) {t : String}
    {bytes : List UInt8} (hb : HasBytes h (payloadPlace d (Sha256.hex t)) bytes) :
    ∃ x, .stored x ∈ log ∧ x.mark c = Sha256.hex t := by
  obtain ⟨s, hs, ht, -⟩ := hl.neat hu hw
  obtain ⟨_, _, hx, -⟩ := (hs.payload t).hasBytes_iff.mp hb
  obtain ⟨x, hpayload, -⟩ := Option.map_eq_some_iff.mp hx
  obtain ⟨v, i, name, hi, hlists⟩ := ht.payload t x hpayload
  obtain ⟨y, hy, -, hmark⟩ := ht.index v i hi name _ hlists
  exact ⟨y, hy, hmark⟩

end Faultless

/-! ## 3. Two runs -/

/-- A run without files. -/
def otherRun (h : Host) : Deposit := ⟨"1", "w", none, {}, h⟩

/-- The text that its fingerprint condenses. -/
def otherText : String :=
  "\x7b\"config\": null, \"files\": [], \"validator\": \"w\", \"version\": \"1\"\x7d"

/-- Its fingerprint. -/
def otherMark : String := "c90bd0140e10453f80f6d928528f418823f9a1280a95bca25673ae9041b64c91"

/-- The text that the fingerprint of the run over the file condenses if a directory is in the place of the file. -/
def madeText : String :=
  "\x7b\"config\": null, \"files\": [[\"g\", 2]], \"validator\": \"v\", \"version\": \"1\"\x7d"

/-- The fingerprint. -/
def madeMark : String := "b404ae1338007ff9f09dc7608285a108252a26a21094af4fa10ccb7e36cab561"

/-- What is computed: the texts, and that the outcomes can be written. -/
theorem seen_otherRun :
    ((otherRun plainHost).material (plainCache "a")).toOption = some otherText ∧
      (Deposit.material (plainCache "g") { plainRun with host := madeHost }).toOption = some madeText ∧
      (∀ o ∈ [plainRun.outcome, {}], (Json.writePretty o.toValue).toOption ≠ none) := by
  decide +kernel

theorem hex_otherText : Sha256.hex otherText = otherMark := by
  rw [Sha256.hex, Utf8.encode, otherText, String.toList_ofList]
  decide +kernel

theorem hex_madeText : Sha256.hex madeText = madeMark := by
  rw [Sha256.hex, Utf8.encode, madeText, String.toList_ofList]
  decide +kernel

/-- The digests of the three texts are different. -/
theorem toldApart_plain {texts : String → Prop}
    (hall : ∀ text, texts text → text = plainText ∨ text = otherText ∨ text = madeText) : ToldApart texts := by
  have hdistinct : ([plainText, otherText, madeText].map Sha256.hex).Nodup := by
    simp only [List.map_cons, List.map_nil, hex_plainText, hex_otherText, hex_madeText]
    decide
  have hmem : ∀ text, texts text → text ∈ [plainText, otherText, madeText] := fun text ht => by simpa using hall text ht
  exact fun a b ha hb he => List.inj_on_of_nodup_map hdistinct (hmem a ha) (hmem b hb) he

theorem material_otherRun (dir : String) (h : Host) : (otherRun h).material (plainCache dir) = .ok otherText := by
  obtain ⟨hmaterial, -⟩ := seen_otherRun
  have hsame : (otherRun h).material (plainCache dir) = (otherRun plainHost).material (plainCache "a") :=
    material_congr "w" none fun p hp =>
      absurd (Order.mem_sortedDistinct.mp (Order.mem_sortedDistinct.mp hp)) List.not_mem_nil
  exact hsame.trans (eq_ok_of_toOption hmaterial)

theorem writable_plain {o : Outcome} (ho : o ∈ [plainRun.outcome, {}]) :
    ∃ text, Json.writePretty o.toValue = .ok text := by
  obtain ⟨-, -, hwritable⟩ := seen_otherRun
  obtain ⟨text, htext⟩ := Option.ne_none_iff_exists'.mp (hwritable o ho)
  exact ⟨text, eq_ok_of_toOption htext⟩

theorem isWhole_plainRun : plainRun.IsWhole := ⟨by decide, by decide⟩

theorem isWhole_otherRun (h : Host) : (otherRun h).IsWhole := ⟨(by decide : Whole "w"), nofun⟩

/-- The text that the fingerprint of the run over the file condenses if nothing is found of the file. -/
theorem material_missing (dir : String) (hm : h.mtime? "g" = plainHost.mtime? "g") :
    Deposit.material (plainCache dir) { plainRun with host := h } = .ok plainText :=
  (material_plainRun_congr dir hm).trans (material_plainRun dir)

/-- What is there once the run over the file is stored. -/
theorem exists_plainEnd :
    ∃ s, Stocked (plainCache "a") ["a", "c"] s (plainEnd "a") ∧ Accounts (plainCache "a") [.stored plainRun] s ∧
      Present (plainCache "a") plainRun s ∧ Furnished (plainCache "a") ["a", "c"] plainHost (plainEnd "a") :=
  (ledger_plainHost List.mem_cons_self).exists_present (inUse_plainCache List.mem_cons_self)
    ((legible_plainRun "a").mono nofun) (events_plainCall List.mem_cons_self)

/-- The two runs. -/
def plainCalls : List (String × Job) := [("v", .set plainRun.outcome none), ("w", .set {} none)]

theorem orderly_plainEnd :
    Orderly (plainCache "a") ["a", "c"] [.stored plainRun] (plainEnd "a") (callsOf plainCalls) := by
  have hcalls : ∀ name job, job ∈ callsOf plainCalls name →
      name = "v" ∧ job = .set plainRun.outcome none ∨ name = "w" ∧ job = .set {} none := by
    intro name job hmem
    simpa [plainCalls] using mem_callsOf.mp hmem
  refine ⟨fun name job hmem => ?_, fun name job hmem p hp => ?_, ?_⟩
  · rcases hcalls name job hmem with ⟨rfl, rfl⟩ | ⟨rfl, rfl⟩
    · exact ⟨by decide, by decide⟩
    · exact ⟨by decide, nofun⟩
  · rcases hcalls name job hmem with ⟨rfl, rfl⟩ | ⟨rfl, rfl⟩
    · rw [List.mem_singleton.mp hp]
      obtain ⟨s, -, -, -, hf⟩ := exists_plainEnd
      exact clear_plainRun.furnished hf
    · cases hp
  · refine toldApart_plain fun text ht => ?_
    rcases ht with ht | ⟨name, o, config, hmem, hm⟩
    · exact .inl (materials_plainRun ht)
    · rcases hcalls name _ hmem with ⟨rfl, hjob⟩ | ⟨rfl, hjob⟩
      · cases hjob
        exact .inl (Except.ok.inj (hm.symm.trans (material_missing "a" mtime?_plainEnd)))
      · cases hjob
        exact .inr (.inl (Except.ok.inj (hm.symm.trans (material_otherRun "a" _))))

/-- The file of the entry that is there is clear of the cache. -/
theorem clear_of_indexIn_plainEnd (i : CacheIndex) (e : CacheEntry)
    (hi : indexIn ["a", "c"] (plainEnd "a") = some ("1", i)) (he : Assoc.get? "v" i = some e) :
    ∀ p ∈ e.files, Clear (plainCache "a") ["a", "c"] (plainEnd "a") p := by
  obtain ⟨s, hs, ha, hp, -⟩ := exists_plainEnd
  obtain ⟨i₀, hi₀, hget₀⟩ := hp.index
  have htidy := fun v i hi => (hs.tidy v i hi).nodup
  obtain ⟨i₁, hi₁, rfl⟩ := ((ha.rereads (legible_plainRun "a")).found_iff htidy).mp (hs.indexIn_eq_some_iff.mp hi)
  cases hi₀.symm.trans hi₁
  rw [CacheIndex.get?_arranged (htidy _ _ hi₀)] at he
  cases he.symm.trans hget₀
  exact fun p hp => orderly_plainEnd.clear "v" _ (mem_callsOf.mpr List.mem_cons_self) p (Order.mem_sortedDistinct.mp hp)

/-- The fingerprint of the run over the file, if a directory is in the place of the file. -/
theorem material_made (hm : h.mtime? "g" = .ok (some 2)) :
    Deposit.material (plainCache "g") { plainRun with host := h } = .ok madeText := by
  obtain ⟨-, hmade, -⟩ := seen_otherRun
  obtain ⟨-, -, -, hmtime, -⟩ := seen_file
  exact (material_plainRun_congr "g" (hm.trans (eq_ok_of_toOption hmtime).symm)).trans (eq_ok_of_toOption hmade)

/-- It is not that of a run that was stored while there was no directory. -/
theorem not_hasBytes_made {bytes : List UInt8}
    (hl : Ledger (plainCache "g") ["g", "c"] [.stored (otherRun h'), .stored plainRun] h) :
    ¬ HasBytes h (payloadPlace ["g", "c"] (Sha256.hex madeText)) bytes := by
  intro hb
  have hruns : ∀ x, .stored x ∈ [Event.stored (otherRun h'), .stored plainRun] → x = otherRun h' ∨ x = plainRun := by
    simp
  have hw : AllWhole [.stored (otherRun h'), .stored plainRun] := by
    intro x hx
    rcases hruns x hx with rfl | rfl
    · exact isWhole_otherRun h'
    · exact isWhole_plainRun
  obtain ⟨x, hx, hmark⟩ := hl.exists_of_hasBytes (inUse_plainCache (List.mem_cons_of_mem _ List.mem_cons_self)) hw hb
  rw [hex_madeText] at hmark
  rcases hruns x hx with rfl | rfl
  · rw [Deposit.mark_of_material (material_otherRun "g" h'), hex_otherText] at hmark
    exact absurd hmark (by decide)
  · rw [mark_plainRun] at hmark
    exact absurd hmark (by decide)

/-! ## 4. Independence -/

/-- **Validators are independent.**  At every point of a ledger, and for a cache that is enabled or not:
outcomes of two validators may be stored in either order; a fetch gives the same before and after the outcome of another
validator is stored; and calls of any number of validators, in whatever order their parts are done, end with the same
index and the same outcomes, and no entry is lost. -/
theorem validators_independent (hu : c.InUse) (hl : Ledger c d log h) (hw : AllWhole log) (hversion : Whole c.version)
    (hi : IndexFound c d h) (on : Bool) (ds : Option Diagnostics) :
    (∀ (a b : String) (o₁ o₂ : Outcome) (config₁ config₂ : Option Config) (now₁ now₂ : Int), a ≠ b →
      Orderly c d log h (callsOf [(a, .set o₁ config₁), (b, .set o₂ config₂)]) →
      Undisturbed a o₁ config₁ (c.switched on ds h) →
      Undisturbed b o₂ config₂ (later now₁ (afterStore a o₁ config₁ (c.switched on ds h))) →
      Undisturbed b o₂ config₂ (c.switched on ds h) →
      Undisturbed a o₁ config₁ (later now₂ (afterStore b o₂ config₂ (c.switched on ds h))) →
      SameStock d (afterStore b o₂ config₂ (later now₁ (afterStore a o₁ config₁ (c.switched on ds h)))).host
        (afterStore a o₁ config₁ (later now₂ (afterStore b o₂ config₂ (c.switched on ds h)))).host) ∧
    (∀ (a b : String) (o : Outcome) (config config' : Option Config) (now : Int), a ≠ b →
      Orderly c d log h (callsOf [(b, .set o config)]) →
      (∀ i e, indexIn d h = some (c.version, i) → Assoc.get? a i = some e → ∀ p ∈ e.files, Clear c d h p) →
      Undisturbed b o config (c.switched on ds h) →
      (exec (fetch a config') (later now (afterStore b o config (c.switched on ds h)))).1 =
        (exec (fetch a config') (c.switched on ds h)).1) ∧
    (∀ (jobs : String → List Job) (S S' : System), Orderly c d log h jobs →
      Steps (System.start (c.switched on ds h) jobs) S → S.Done →
      Steps (System.start (c.switched on ds h) jobs) S' → S'.Done →
      SameStock d S.site.host S'.site.host ∧ NothingLost c d on h jobs S.site.host) := by
  refine ⟨fun a b o₁ o₂ config₁ config₂ now₁ now₂ hne hj ha hab hb hba => ?_,
    fun a b o config config' now hne hj hclear hb => ?_,
    fun jobs S S' hj hS hd hS' hd' => sameStock_of_done hu hl hw hversion hi hj hS hd hS' hd'⟩
  · obtain ⟨S, hS, hd, hsite⟩ := exists_steps_stores (c.switched on ds h) hne now₁ ha hab
    obtain ⟨S', hS', hd', hsite'⟩ := exists_steps_stores (c.switched on ds h) hne.symm now₂ hb hba
    rw [← callsOf_swap hne] at hS'
    rw [← hsite, ← hsite']
    exact (sameStock_of_done hu hl hw hversion hi hj hS hd hS' hd').1
  · obtain ⟨start, hstart, hall⟩ := exists_course hu hl hw hversion hi hj on ds
    have hother : callsOf [(b, .set o config)] a = [] := by simp [callsOf, hne.symm]
    have htask : (System.start (c.switched on ds h) (callsOf [(b, .set o config)])).tasks b =
        ⟨.ready, .set o config :: []⟩ := by
      simp [System.start, callsOf]
    have hstore := steps_store (S := System.start (c.switched on ds h) (callsOf [(b, .set o config)])) hb htask
    obtain ⟨_, _, _, _, hc⟩ := hall _ (hstore.tail (Step.wait _ now))
    refine hc.fetch_eq hu hstart.stocked hstart.readable (fun past hpast => ?_) hclear config' ds
    rw [hother] at hpast
    rw [(List.append_eq_nil_iff.mp hpast.symm).1]
    exact fun _ _ hmem => absurd hmem List.not_mem_nil

theorem validators_independent_plainEnd :
    SameStock ["a", "c"]
        (afterStore "w" {} none (later 3
          (afterStore "v" plainRun.outcome none ((plainCache "a").on none (plainEnd "a"))))).host
        (afterStore "v" plainRun.outcome none (later 4
          (afterStore "w" {} none ((plainCache "a").on none (plainEnd "a"))))).host ∧
      (exec (fetch "v" none) (later 5 (afterStore "w" {} none ((plainCache "a").on none (plainEnd "a"))))).1 =
        .ok (some plainRun.answer) ∧
      ∃ S, Steps (System.start ((plainCache "a").on none (plainEnd "a")) (callsOf plainCalls)) S ∧ S.Done ∧
        NothingLost (plainCache "a") ["a", "c"] true (plainEnd "a") (callsOf plainCalls) S.site.host := by
  have hu : (plainCache "a").InUse := inUse_plainCache List.mem_cons_self
  have hl : Ledger (plainCache "a") ["a", "c"] [.stored plainRun] (plainEnd "a") := ledger_plainEnd List.mem_cons_self
  have hversion : Whole (plainCache "a").version := by decide
  obtain ⟨s, hs, -, hp, -⟩ := exists_plainEnd
  have hi : IndexFound (plainCache "a") ["a", "c"] (plainEnd "a") := fun _ _ => hs.isFile_of_payload hu.proper hp.there
  have hw : AllWhole [.stored plainRun] := fun x hx => by
    cases List.mem_singleton.mp hx
    exact isWhole_plainRun
  have hplain := writable_plain (o := plainRun.outcome) (by simp)
  have hother := writable_plain (o := {}) (by simp)
  have hokv := hp.exec_storeEntry_ok hs hu rfl hversion (material_missing "a" mtime?_plainEnd) hplain none
  have hokw := hp.exec_storeEntry_ok hs hu rfl hversion (material_otherRun "a" _) hother none
  have hv := hp.undisturbed hs hu rfl hversion hplain "v" none none
  have hvw := hl.undisturbed_later hu hversion hokv hother 3 "w" none
  have hw' := hp.undisturbed hs hu rfl hversion hother "w" none none
  have hwv := hl.undisturbed_later hu hversion hokw hplain 4 "v" none
  have hall := validators_independent hu hl hw hversion hi true none
  rw [switched_true hu.enabled] at hall
  obtain ⟨hstores, hfetch, hruns⟩ := hall
  refine ⟨hstores "v" "w" _ _ _ _ 3 4 (by decide) orderly_plainEnd hv hvw hw' hwv, ?_, ?_⟩
  · have hlone : Orderly (plainCache "a") ["a", "c"] [.stored plainRun] (plainEnd "a")
        (callsOf [("w", .set {} none)]) :=
      orderly_plainEnd.mono fun n j hj => mem_callsOf.mpr (List.mem_cons_of_mem _ (mem_callsOf.mp hj))
    exact (hfetch "v" "w" {} none none 5 (by decide) hlone clear_of_indexIn_plainEnd hw').trans fetch_plainEnd
  · obtain ⟨S, hS, hd, -⟩ := exists_steps_stores _ (by decide) 3 hv hvw
    exact ⟨S, hS, hd, (hruns _ S S orderly_plainEnd hS hd hS hd).2⟩

/-- **Files outside the directory are not enough for the order not to matter**: if a run over a missing file is stored
first, its fingerprint says that the file is missing; if it is stored last, that a directory is there, which the cache
has made. -/
theorem stores_differ_at_made_directory :
    Ledger (plainCache "g") ["g", "c"] [] plainHost ∧
      (∀ p ∈ plainRun.outcome.files, ∃ q, plainHost.landing p = some q ∧ ¬ ["g", "c"] <+: q) ∧
      ((exec (storeEntry "v" plainRun.outcome none) ((plainCache "g").on none plainHost)).1 = .ok () ∧
        (exec (storeEntry "w" {} none)
          (afterStore "v" plainRun.outcome none ((plainCache "g").on none plainHost))).1 = .ok ()) ∧
      ((exec (storeEntry "w" {} none) ((plainCache "g").on none plainHost)).1 = .ok () ∧
        (exec (storeEntry "v" plainRun.outcome none)
          (afterStore "w" {} none ((plainCache "g").on none plainHost))).1 = .ok ()) ∧
      ToldApart (Materials (plainCache "g") [.stored plainRun, .stored (otherRun plainHost),
        .stored (otherRun (afterStore "v" plainRun.outcome none ((plainCache "g").on none plainHost)).host),
        .stored { plainRun with host := (afterStore "w" {} none ((plainCache "g").on none plainHost)).host }]) ∧
      ¬ SameStock ["g", "c"]
        (afterStore "w" {} none (afterStore "v" plainRun.outcome none ((plainCache "g").on none plainHost))).host
        (afterStore "v" plainRun.outcome none (afterStore "w" {} none ((plainCache "g").on none plainHost))).host := by
  have hdir : "g" ∈ ["a", "g"] := List.mem_cons_of_mem _ List.mem_cons_self
  have hu := inUse_plainCache hdir
  have hversion : Whole (plainCache "g").version := by decide
  have hstart := ledger_plainHost hdir
  have hhost : ∀ h, ((plainCache "g").on none h).host = h := fun _ => rfl
  obtain ⟨-, -, hlanding, -⟩ := seen_file
  obtain ⟨hw, hexec, hmtime⟩ :=
    exec_storeEntry_plainHost hdir (material_otherRun "g" plainHost) (writable_plain (by simp))
  -- One order.
  have hokv : (exec (storeEntry "v" plainRun.outcome none) ((plainCache "g").on none plainHost)).1 = .ok () :=
    (exec_plainCall hdir).1
  obtain ⟨h₁, s₁, hafter₁, hl₁, hs₁, hp₁⟩ := hstart.exists_afterStore hu hokv
  have hokvw := hp₁.exec_storeEntry_ok hs₁ hu rfl hversion (material_otherRun "g" h₁) (writable_plain (by simp)) none
  obtain ⟨h₁₂, -, hafter₁₂, hl₁₂, -⟩ := hl₁.exists_afterStore hu hokvw
  -- The other order: now there is a directory in the place of the file.
  have hokw : (exec (storeEntry "w" {} none) ((plainCache "g").on none plainHost)).1 = .ok () := by rw [hexec]
  obtain ⟨h₂, s₂, hafter₂, hl₂, hs₂, hp₂⟩ := hstart.exists_afterStore hu hokw
  have hmaterial : Deposit.material (plainCache "g") ⟨"1", "v", none, plainRun.outcome, h₂⟩ = .ok madeText := by
    have hsame : hw = h₂ := congrArg Site.host ((afterStore_of_ok hu.enabled hexec).symm.trans hafter₂)
    rw [hsame] at hmtime
    exact material_made hmtime
  have hokwv := hp₂.exec_storeEntry_ok hs₂ hu rfl hversion hmaterial (writable_plain (by simp)) none
  obtain ⟨h₂₁, s₂₁, hafter₂₁, -, hs₂₁, hp₂₁⟩ := hl₂.exists_afterStore hu hokwv
  refine ⟨hstart, fun p hp => ?_, ⟨hokv, by rw [hafter₁]; exact hokvw⟩,
    ⟨hokw, by rw [hafter₂]; exact hokwv⟩, ?_, fun hsame => ?_⟩
  · rw [List.mem_singleton.mp hp]
    exact ⟨["g"], hlanding, by decide⟩
  · rw [hafter₁, hafter₂, hhost, hhost]
    refine toldApart_plain fun text ⟨x, hx, hm⟩ => ?_
    simp only [List.mem_cons, List.not_mem_nil, or_false, Event.stored.injEq] at hx
    rcases hx with rfl | rfl | rfl | rfl
    · exact .inl (Except.ok.inj (hm.symm.trans (material_plainRun "g")))
    · exact .inr (.inl (Except.ok.inj (hm.symm.trans (material_otherRun "g" _))))
    · exact .inr (.inl (Except.ok.inj (hm.symm.trans (material_otherRun "g" _))))
    · exact .inr (.inr (Except.ok.inj (hm.symm.trans hmaterial)))
  · rw [hafter₁, hafter₁₂, hafter₂, hafter₂₁, hhost, hhost] at hsame
    obtain ⟨bytes, hbytes⟩ := hp₂₁.exists_hasBytes hs₂₁
    have hmark : Deposit.mark (plainCache "g") ⟨"1", "v", none, plainRun.outcome, h₂⟩ = Sha256.hex madeText :=
      Deposit.mark_of_material hmaterial
    have hne : payloadPlace ["g", "c"] (Sha256.hex madeText) ≠ indexPlace ["g", "c"] := fun he =>
      indexPlace_ne_payloadPlace _ _ he.symm
    exact not_hasBytes_made hl₁₂ ((hsame.others _ bytes (List.prefix_append _ _) hne).mp (hmark ▸ hbytes))

end Cache

end AgentLint
