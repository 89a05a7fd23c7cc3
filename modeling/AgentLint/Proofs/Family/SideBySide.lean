import AgentLint.Proofs.Cache.History
import AgentLint.Proofs.Cache.Independence
import AgentLint.Proofs.Cache.Outside

/-!
# Families side by side

`lintAllCached` checks one family after the other.  Where they are checked side by side, the calls of each family come
in the order they have here, and parts of the calls of others come between them in any order.  The run in order is one
of these (`Runs.steps`), so it stands for all of them: they leave the same index and the same outcomes, no entry is
lost, and a family is answered alike in each of them (`lintAllCached_side_by_side`).

`Runs` is a run in order with the calls that it makes.  That storing does not fail is part of it, as it is part of
`Step`.
-/

namespace AgentLint

-- Digests are compared but never computed here.
attribute [local irreducible] Sha256.hex

namespace Family

open Cache
open Printout (Outcomes)
open Text (Whole)

variable {registry : Registry} {config : Option Config} {acc os : Outcomes} {s s' : Site}
  {jobs : List (Family × List String)} {calls : List (String × Job)}

/-! ## 1. In order -/

/-- Families are checked one after the other; each of them is answered from the cache, or checked and stored. -/
inductive Runs (registry : Registry) (config : Option Config) :
    Outcomes → Site → List (Family × List String) → List (String × Job) → Outcomes → Site → Prop
  /-- No family is left. -/
  | done (os : Outcomes) (s : Site) : Runs registry config os s [] [] os s
  /-- The stored outcome is good. -/
  | hit {acc os : Outcomes} {s s₁ s' : Site} {f : Family} {files : List String} {jobs : List (Family × List String)}
    {calls : List (String × Job)} {stored : Option Outcome} {o : Outcome}
    (fetched : exec (fetch f.name config) s = (.ok stored, s₁))
    (good : (stored.filter fun o => sameFiles o.files files) = some o)
    (rest : Runs registry config (Assoc.put f.name o acc) s₁ jobs calls os s') :
    Runs registry config acc s ((f, files) :: jobs) ((f.name, .get config) :: calls) os s'
  /-- There is none that is, and the files are checked. -/
  | miss {acc os : Outcomes} {s s₁ s' : Site} {f : Family} {files : List String} {jobs : List (Family × List String)}
    {calls : List (String × Job)} {stored : Option Outcome} {o : Outcome}
    (fetched : exec (fetch f.name config) s = (.ok stored, s₁))
    (bad : (stored.filter fun o => sameFiles o.files files) = none)
    (checked : f.lint s₁.host registry config files = .ok o) (faultless : Undisturbed f.name o config s₁)
    (rest : Runs registry config (Assoc.put f.name o acc) (afterStore f.name o config s₁) jobs calls os s') :
    Runs registry config acc s ((f, files) :: jobs) ((f.name, .get config) :: (f.name, .set o config) :: calls) os s'

/-- **That is how families are checked.** -/
theorem Runs.exec_foldlM (hr : Runs registry config acc s jobs calls os s') :
    exec (jobs.foldlM (fun acc (f, files) => do
      let o ← f.lintCached registry config files
      pure (Assoc.put f.name o acc)) acc : Cache.Op Outcomes) s = (.ok os, s') := by
  induction hr with
  | done os s => rfl
  | hit hfetch hgood _ ih =>
    rw [List.foldlM_cons, exec_bind, exec_bind, exec_lintCached_of_hit hfetch hgood]
    exact ih
  | miss hfetch hbad hchecked _ _ ih =>
    rw [List.foldlM_cons, exec_bind, exec_bind, exec_lintCached_of_miss hfetch hbad hchecked]
    exact ih

theorem Runs.exec_lintAllCached {families : List Family} {files : List String}
    (hjobs : Family.jobs families config files = .ok jobs) (hr : Runs registry config [] s jobs calls os s') :
    exec (lintAllCached families registry config files) s = (.ok os, s') := by
  unfold lintAllCached
  rw [exec_bind, hjobs]
  exact hr.exec_foldlM

/-! ## 2. Step by step -/

theorem callsOf_cons_self (name : String) (job : Job) (calls : List (String × Job)) :
    callsOf ((name, job) :: calls) name = job :: callsOf calls name := by simp [callsOf]

theorem callsOf_cons_of_ne {name other : String} (hne : name ≠ other) (job : Job) (calls : List (String × Job)) :
    callsOf ((name, job) :: calls) other = callsOf calls other := by simp [callsOf, hne]

/-- Everybody has these calls still to do, and nobody has begun one. -/
def About (S : System) (calls : List (String × Job)) : Prop := ∀ name, S.tasks name = ⟨.ready, callsOf calls name⟩

/-- One has done a call. -/
theorem About.move {S : System} {name : String} {job : Job} (ha : About S ((name, job) :: calls)) (s : Site) :
    About (S.move s name ⟨.ready, callsOf calls name⟩) calls := by
  intro other
  by_cases hne : other = name
  · rw [hne, System.tasks_move_self]
  · rw [System.tasks_move_of_ne _ _ hne, ha other, callsOf_cons_of_ne (Ne.symm hne)]

/-- A fetch, whether the cache is enabled or not. -/
theorem About.fetch {S : System} {name : String} (ha : About S ((name, .get config) :: calls)) :
    ∃ S', Steps S S' ∧ About S' calls ∧ S'.site = (exec (Cache.fetch name config) S.site).2 := by
  have htask : S.tasks name = ⟨.ready, .get config :: callsOf calls name⟩ := by rw [ha name, callsOf_cons_self]
  refine ⟨_, ?_, ha.move (exec (Cache.fetch name config) S.site).2, rfl⟩
  cases hon : S.site.cache.enabled with
  | true => exact steps_fetch hon htask
  | false =>
    have hoff : exec (Cache.fetch name config) S.site = (.ok none, S.site) :=
      exec_fetch_off hon name config S.site.cache.diagnostics S.site.host
    rw [hoff]
    exact .single (.skip htask hon)

/-- A store that does not fail. -/
theorem About.store {S : System} {name : String} {o : Outcome} (ha : About S ((name, .set o config) :: calls))
    (hun : Undisturbed name o config S.site) :
    ∃ S', Steps S S' ∧ About S' calls ∧ S'.site = afterStore name o config S.site := by
  have htask : S.tasks name = ⟨.ready, .set o config :: callsOf calls name⟩ := by rw [ha name, callsOf_cons_self]
  exact ⟨_, steps_store hun htask, ha.move (afterStore name o config S.site), rfl⟩

/-- **A run in order is a run of steps.** -/
theorem Runs.steps (hr : Runs registry config acc s jobs calls os s') : ∀ {S : System}, S.site = s → About S calls →
    ∃ S', Steps S S' ∧ S'.Done ∧ S'.site = s' := by
  induction hr with
  | done os s => exact fun hs ha => ⟨_, .refl, ha, hs⟩
  | @hit acc os s s₁ s' f files jobs calls stored o hfetch _ _ ih =>
    rintro S rfl ha
    obtain ⟨S₁, hfirst, ha₁, hs₁⟩ := ha.fetch
    rw [hfetch] at hs₁
    obtain ⟨S', hrest, hend⟩ := ih hs₁ ha₁
    exact ⟨S', hfirst.trans hrest, hend⟩
  | @miss acc os s s₁ s' f files jobs calls stored o hfetch _ _ hun _ ih =>
    rintro S rfl ha
    obtain ⟨S₁, hfirst, ha₁, hs₁⟩ := ha.fetch
    rw [hfetch] at hs₁
    obtain ⟨S₂, hsecond, ha₂, hs₂⟩ := ha₁.store (by rw [hs₁]; exact hun)
    rw [hs₁] at hs₂
    obtain ⟨S', hrest, hend⟩ := ih hs₂ ha₂
    exact ⟨S', (hfirst.trans hsecond).trans hrest, hend⟩

/-! ## 3. Side by side -/

/-- **Families may be checked side by side.**  However the parts of their calls come, the directory ends up as after
the run in order, and no entry is lost; and as long as a family has done none of its calls, it is answered as it would
have been at the beginning, if the files of its entry are clear of the cache. -/
theorem lintAllCached_side_by_side {c : Cache} {d : Place} {log : List Event} {h : Host} {on : Bool}
    {ds : Option Diagnostics} {families : List Family} {files : List String} (hu : c.InUse) (hl : Ledger c d log h)
    (hw : AllWhole log) (hversion : Whole c.version) (hi : IndexFound c d h)
    (hjobs : Family.jobs families config files = .ok jobs)
    (hr : Runs registry config [] (c.switched on ds h) jobs calls os s') (hj : Orderly c d log h (callsOf calls)) :
    exec (lintAllCached families registry config files) (c.switched on ds h) = (.ok os, s') ∧
      ∀ S, Steps (System.start (c.switched on ds h) (callsOf calls)) S →
        (S.Done → SameStock d S.site.host s'.host ∧ NothingLost c d on h (callsOf calls) S.site.host) ∧
        ∀ name, S.tasks name = ⟨.ready, callsOf calls name⟩ →
          (∀ i e, indexIn d h = some (c.version, i) → Assoc.get? name i = some e → ∀ p ∈ e.files, Clear c d h p) →
            (exec (fetch name config) S.site).1 = (exec (fetch name config) (c.switched on ds h)).1 := by
  refine ⟨hr.exec_lintAllCached hjobs, fun S hS => ⟨fun hd => ?_, fun name htask hclear => ?_⟩⟩
  · obtain ⟨S', hS', hd', rfl⟩ := hr.steps (S := System.start (c.switched on ds h) (callsOf calls)) rfl fun _ => rfl
    exact sameStock_of_done hu hl hw hversion hi hj hS hd hS' hd'
  · obtain ⟨start, hstart, hall⟩ := exists_course hu hl hw hversion hi hj on ds
    obtain ⟨_, _, _, _, hc⟩ := hall S hS
    refine hc.fetch_eq hu hstart.stocked hstart.readable (fun past hpast => ?_) hclear config ds
    rw [htask] at hpast
    rw [List.self_eq_append_left.mp hpast]
    exact fun _ _ hmem => absurd hmem List.not_mem_nil

end Family

end AgentLint
