import AgentLint.Proofs.Cache.Consistency
import AgentLint.Proofs.Family.Locality

/-!
# Runs with a cache and changes in between

A `History` starts without a cache directory.  From then on files outside of it come, change and go, and the
files of a family are checked with the cache.  The one condition on the changes is that a path never leads
to another file with a time of change that it has had before.

`History.invariant` says what holds at every point of it: the directory of the cache is consistent, and a file
with a known time of change is the file that is known.  From this, `History.answer` gives the outcome of every
run: it is what the run finds now, or what a stored run has found in files that read the same.
-/

namespace AgentLint

namespace Cache

/-! ## 1. Changes -/

/-- A path leads to a file outside the cache, as far as the directories on its way are there. -/
def Leads (c : Cache) (h : Host) (path : String) (bytes : List UInt8) (mtime : Int) : Prop :=
  ∃ q, h.landing path = some q ∧ ¬ c.Holds h q ∧ h.tree.node? q = some (.file bytes mtime)

theorem Leads.unique {c : Cache} {h : Host} {path : String} {bs bs' : List UInt8} {m m' : Int}
    (hl : c.Leads h path bs m) (hl' : c.Leads h path bs' m') : bs' = bs := by
  obtain ⟨q, hq, -, hnode⟩ := hl
  obtain ⟨q', hq', -, hnode'⟩ := hl'
  cases hq.symm.trans hq'
  cases hnode.symm.trans hnode'
  rfl

/-- A change outside the cache.  A path that leads to another file afterwards, or to a file again, gives it a
time of change that it had on none of the hosts before. -/
structure Change (c : Cache) (past : List Host) (h h' : Host) : Prop where
  place : c.place? h' = c.place? h
  kept : ∀ q, c.Holds h q → h'.tree.node? q = h.tree.node? q
  fresh : ∀ path bytes m, c.Leads h' path bytes m →
    c.Leads h path bytes m ∨ ∀ g ∈ past, ∀ bs, ¬ c.Leads g path bs m

/-- Files outside the cache can always be removed. -/
theorem Change.remove {c : Cache} {h : Host} {p : Place} (hno : h.tree.NoLinkBelow p)
    (hout : ∀ q, c.Holds h q → ¬ p <+: q) (past : List Host) :
    c.Change past h { h with tree := h.tree.without p } := by
  have hlinks := FileTree.SameLinks.without hno
  generalize hh : ({ h with tree := h.tree.without p } : Host) = h'
  have hcwd : h'.cwd = h.cwd := by rw [← hh]
  have htree : h'.tree = h.tree.without p := by rw [← hh]
  rw [← htree] at hlinks
  have hplace : c.place? h' = c.place? h := Host.land_eq hcwd hlinks true c.location
  refine ⟨hplace, fun q hq => ?_, ?_⟩
  · rw [htree, FileTree.node?_without_of_not (hout q hq)]
  · rintro path bytes m ⟨q, hq, hheld, hnode⟩
    rw [Host.landing_eq hcwd hlinks] at hq
    rw [holds_congr hplace] at hheld
    rw [htree] at hnode
    exact .inl ⟨q, hq, hheld, FileTree.node?_of_without hnode⟩

/-- Files that can be checked: in order, each once, and all of them regular files outside the cache. -/
structure Checkable (c : Cache) (h : Host) (files : List String) : Prop where
  sorted : Order.Sorted files
  nameable : Nameable files
  regular : ∀ path ∈ files, ∃ q bytes m, h.stat path = .ok (q, .file bytes m) ∧ ¬ c.Holds h q

/-- The texts whose digests are compared: the materials of the stored runs, then and now. -/
def Condensed (c : Cache) (name : String) (config : Option Config) (records : List Record) (h : Host)
    (text : String) : Prop :=
  ∃ r ∈ records, c.material r.host name config r.files = .ok text ∨
    c.material h name config r.files = .ok text

/-- SHA-256 tells these texts apart. -/
def NoCollision (c : Cache) (name : String) (config : Option Config) (records : List Record)
    (h : Host) : Prop :=
  ∀ a b, c.Condensed name config records h a → c.Condensed name config records h b →
    Sha256.hex a = Sha256.hex b → a = b

end Cache

namespace Family

open Cache

/-- What a run adds to the cache: itself, unless a stored outcome is used or a rule fails. -/
def recorded (f : Family) (registry : Registry) (config : Option Config) (files : List String)
    (s : Site) : List Record :=
  match (exec (fetch f.name config) s).1 with
  | .error _ => []
  | .ok stored =>
    match stored.filter fun o => sameFiles o.files files, f.lint s.host registry config files with
    | none, .ok o => [⟨s.host, files, o⟩]
    | _, _ => []

/-- The hosts so far, the runs that were stored, and where this has led. -/
inductive History (f : Family) (registry : Registry) (config : Option Config) (c : Cache) :
    List Host → List Record → Site → Prop where
  /-- There is no cache directory. -/
  | start (ds : Option Diagnostics) (h : Host) (vacant : ∀ q, c.Holds h q → h.tree.node? q = none) :
    History f registry config c [h] [] (c.on ds h)
  /-- Files change; the next run may report its trouble elsewhere. -/
  | change {past : List Host} {records : List Record} {s : Site} (ds : Option Diagnostics) (h' : Host)
    (before : History f registry config c past records s) (changes : c.Change past s.host h') :
    History f registry config c (h' :: past) records (c.on ds h')
  /-- Files are checked. -/
  | run {past : List Host} {records : List Record} {s : Site} (files : List String)
    (before : History f registry config c past records s) (checkable : c.Checkable s.host files) :
    History f registry config c ((exec (f.lintCached registry config files) s).2.host :: past)
      (f.recorded registry config files s ++ records)
      (exec (f.lintCached registry config files) s).2

/-! ## 2. One run -/

section Run

variable {f : Family} {registry : Registry} {config : Option Config} {c : Cache} {records : List Record}
  {h : Host}

/-- The outcome of a run: found now, or taken from the cache. -/
def Answers (f : Family) (registry : Registry) (config : Option Config) (c : Cache)
    (records : List Record) (h : Host) (files : List String) (answer : Except Fault Outcome) : Prop :=
  answer = f.lint h registry config files ∨
    ∃ o, answer = .ok o ∧ sameFiles o.files files = true ∧ c.Reusable f.name config records h o

theorem files_of_lint {files : List String} {o : Outcome} (ho : f.lint h registry config files = .ok o) :
    o.files = files := by
  obtain ⟨r, o₁, -, -, rfl⟩ := lint_eq_ok_iff.mp ho
  rfl

section Steps

variable {s s' : Site} {files : List String} {around : Nat}

/-- A run that finds its outcome in the cache gives that. -/
theorem exec_lintCached_of_hit {stored : Option Outcome}
    (hfetch : exec (fetch f.name config) s = (.ok stored, s')) {o : Outcome}
    (ho : (stored.filter fun o => sameFiles o.files files) = some o) :
    exec (f.lintCached registry config files around) s = (.ok o, s') := by
  unfold lintCached
  rw [exec_bind, hfetch]
  simp only [ho]
  rfl

/-- A run that does not find its outcome there, and fails. -/
theorem exec_lintCached_of_error {stored : Option Outcome}
    (hfetch : exec (fetch f.name config) s = (.ok stored, s'))
    (hnone : (stored.filter fun o => sameFiles o.files files) = none) {e : Fault}
    (hlint : f.lint s'.host registry config files around = .error e) :
    exec (f.lintCached registry config files around) s = (.error e, s') := by
  unfold lintCached
  rw [exec_bind, hfetch]
  simp only [hnone]
  rw [exec_bind, exec_get]
  simp only
  rw [exec_bind, hlint]
  rfl

/-- A run that does not find its outcome there stores what it finds. -/
theorem exec_lintCached_of_miss {stored : Option Outcome}
    (hfetch : exec (fetch f.name config) s = (.ok stored, s'))
    (hnone : (stored.filter fun o => sameFiles o.files files) = none) {o : Outcome}
    (hlint : f.lint s'.host registry config files around = .ok o) :
    exec (f.lintCached registry config files around) s = (.ok o, ((store f.name o config).run s').2) := by
  unfold lintCached
  rw [exec_bind, hfetch]
  simp only [hnone]
  rw [exec_bind, exec_get]
  simp only
  rw [exec_bind, hlint]
  rfl

/-- What such a run leaves. -/
theorem site_lintCached_of_miss {stored : Option Outcome}
    (hfetch : exec (fetch f.name config) s = (.ok stored, s'))
    (hnone : (stored.filter fun o => sameFiles o.files files) = none) {o : Outcome}
    (hlint : f.lint s'.host registry config files around = .ok o) :
    (exec (f.lintCached registry config files around) s).2 = ((store f.name o config).run s').2 := by
  rw [exec_lintCached_of_miss hfetch hnone hlint]

end Steps

/-- **One run with a cache** keeps the directory consistent and every file outside of it. -/
theorem exec_lintCached (registry : Registry) (hu : c.InUse) (hc : c.Consistent f.name config records h)
    (hre : c.Rereads f.name config records) {files : List String} (hsorted : Order.Sorted files)
    (ds : Option Diagnostics) :
    ∃ answer ds' h' written, exec (f.lintCached registry config files) (c.on ds h) = (answer, c.on ds' h') ∧
      Effect (c.Holds h) written h h' ∧
      c.Consistent f.name config (f.recorded registry config files (c.on ds h) ++ records) h' ∧
      Answers f registry config c records h files answer := by
  obtain ⟨stored, ds₁, hfetch, hstored, -⟩ := exec_fetch hu hc hre ds
  have hrec : f.recorded registry config files (c.on ds h) =
      match stored.filter fun o => sameFiles o.files files, f.lint h registry config files with
      | none, .ok o => [⟨h, files, o⟩]
      | _, _ => [] := by
    unfold recorded
    rw [hfetch]
    rfl
  rw [hrec]
  cases hfilter : stored.filter fun o => sameFiles o.files files with
  | some o =>
    obtain ⟨hsome, hsame⟩ := Option.filter_eq_some_iff.mp hfilter
    rw [exec_lintCached_of_hit hfetch hfilter]
    exact ⟨_, ds₁, h, fun _ _ => False, rfl, Effect.refl h, hc, .inr ⟨o, rfl, hsame, hstored o hsome⟩⟩
  | none =>
    cases hlint : f.lint h registry config files with
    | error e =>
      rw [exec_lintCached_of_error hfetch hfilter hlint]
      exact ⟨_, ds₁, h, fun _ _ => False, rfl, Effect.refl h, hc, .inl hlint.symm⟩
    | ok o =>
      have hfiles := files_of_lint hlint
      obtain ⟨ds₂, h₂, written, hstore, heff, hc₂⟩ := run_store hu hc hre (o := o)
        (by rw [hfiles]; exact hsorted.sortedDistinct_eq) ds₁
      rw [hfiles] at hc₂
      rw [exec_lintCached_of_miss hfetch hfilter hlint, hstore]
      exact ⟨.ok o, ds₂, h₂, written, rfl, heff, hc₂, .inl hlint.symm⟩

end Run

/-! ## 3. All runs -/

/-- What holds at every point of a history.  `told` is the point of the condition on changes: a time of
change tells which file it is. -/
structure Invariant (f : Family) (registry : Registry) (config : Option Config) (c : Cache)
    (past : List Host) (records : List Record) (s : Site) : Prop where
  site : ∃ ds, s = c.on ds s.host
  consistent : c.Consistent f.name config records s.host
  present : s.host ∈ past
  told : ∀ g ∈ past, ∀ path bs bs' m, c.Leads g path bs m → c.Leads s.host path bs' m → bs' = bs
  recorded : ∀ r ∈ records, r.host ∈ past ∧ c.Checkable r.host r.files ∧
    f.lint r.host registry config r.files = .ok r.outcome

variable {f : Family} {registry : Registry} {config : Option Config} {c : Cache} {past : List Host}
  {records : List Record} {s : Site}

theorem Invariant.start (ds : Option Diagnostics) {h : Host}
    (vacant : ∀ q, c.Holds h q → h.tree.node? q = none) :
    Invariant f registry config c [h] [] (c.on ds h) := by
  refine ⟨⟨ds, rfl⟩, Consistent.vacant vacant, List.mem_singleton.mpr rfl, ?_, fun r hr => by cases hr⟩
  intro g hg path bs bs' m hl hl'
  rw [List.mem_singleton.mp hg] at hl
  exact hl.unique hl'

theorem Invariant.change (hi : Invariant f registry config c past records s) (ds : Option Diagnostics)
    {h' : Host} (hch : c.Change past s.host h') :
    Invariant f registry config c (h' :: past) records (c.on ds h') := by
  refine ⟨⟨ds, rfl⟩, hi.consistent.kept hch.place hch.kept, List.mem_cons_self, ?_, ?_⟩
  · intro g hg path bs bs' m hl hl'
    rcases List.mem_cons.mp hg with rfl | hg
    · exact hl.unique hl'
    · rcases hch.fresh path bs' m hl' with hbefore | hnew
      · exact hi.told g hg path bs bs' m hl hbefore
      · exact absurd hl (hnew g hg bs)
  · intro r hr
    obtain ⟨hmem, hrest⟩ := hi.recorded r hr
    exact ⟨List.mem_cons_of_mem h' hmem, hrest⟩

/-- A run changes no file that a path leads to outside the cache. -/
theorem leads_of_effect {written : Place → List UInt8 → Prop} {h h' : Host}
    (he : Effect (c.Holds h) written h h') {path : String} {bs : List UInt8} {m : Int}
    (hl : c.Leads h' path bs m) : c.Leads h path bs m := by
  obtain ⟨q, hq, hout, hnode⟩ := hl
  rw [he.landing_eq] at hq
  rw [holds_congr (he.land_eq true c.location)] at hout
  exact ⟨q, hq, hout, (he.file_iff hout bs m).mp hnode⟩

/-- A run that is recorded has found its outcome. -/
theorem mem_recorded {files : List String} {r : Record} (hr : r ∈ f.recorded registry config files s) :
    r.host = s.host ∧ r.files = files ∧ f.lint s.host registry config files = .ok r.outcome := by
  unfold recorded at hr
  split at hr
  · cases hr
  · split at hr
    · rename_i o _ hlint
      rw [List.mem_singleton.mp hr]
      exact ⟨rfl, rfl, hlint⟩
    · cases hr

theorem Invariant.run (hu : c.InUse) (hi : Invariant f registry config c past records s)
    (hre : c.Rereads f.name config records) {files : List String} (hf : c.Checkable s.host files) :
    Invariant f registry config c ((exec (f.lintCached registry config files) s).2.host :: past)
      (f.recorded registry config files s ++ records) (exec (f.lintCached registry config files) s).2 := by
  obtain ⟨ds, hs⟩ := hi.site
  obtain ⟨answer, ds', h', written, hexec, heff, hcons, -⟩ :=
    exec_lintCached registry hu hi.consistent hre hf.sorted ds
  rw [← hs] at hexec hcons
  rw [hexec]
  refine ⟨⟨ds', rfl⟩, hcons, List.mem_cons_self, ?_, ?_⟩
  · intro g hg path bs bs' m hl hl'
    have hbefore := leads_of_effect heff hl'
    rcases List.mem_cons.mp hg with rfl | hg
    · exact hl.unique hl'
    · exact hi.told g hg path bs bs' m hl hbefore
  · intro r hr
    rcases List.mem_append.mp hr with hr | hr
    · obtain ⟨hhost, hfiles, hlint⟩ := mem_recorded hr
      rw [hhost, hfiles]
      exact ⟨List.mem_cons_of_mem _ hi.present, hf, hlint⟩
    · obtain ⟨hmem, hrest⟩ := hi.recorded r hr
      exact ⟨List.mem_cons_of_mem _ hmem, hrest⟩

/-- **The invariant holds throughout a history.** -/
theorem History.invariant (hu : c.InUse) (hist : History f registry config c past records s)
    (hre : c.Rereads f.name config records) : Invariant f registry config c past records s := by
  induction hist with
  | start ds h vacant => exact Invariant.start ds vacant
  | change ds h' _ changes ih => exact (ih hre).change ds changes
  | run files _ checkable ih =>
    have hre' := fun r hr => hre r (List.mem_append_right _ hr)
    exact (ih hre').run hu hre' checkable

/-! ## 4. What a stored outcome is good for -/

/-- Files with the same times of change have the same bytes. -/
theorem Invariant.readBytes_eq (hi : Invariant f registry config c past records s) {g : Host}
    (hg : g ∈ past) {files : List String} (hf : c.Checkable s.host files) (hf' : c.Checkable g files)
    {path : String} (hp : path ∈ files) (hm : s.host.mtime? path = g.mtime? path) :
    s.host.readBytes path = g.readBytes path := by
  obtain ⟨q, bs, m, hs, hout⟩ := hf.regular path hp
  obtain ⟨q', bs', m', hs', hout'⟩ := hf'.regular path hp
  have hland := Host.landing_of_stat hs
  have hland' := Host.landing_of_stat hs'
  rw [Host.mtime?, Host.mtime?, hs, hs'] at hm
  obtain rfl : m = m' := Option.some.inj (Except.ok.inj hm)
  have hbs := hi.told g hg path bs' bs m ⟨q', hland'.1, hout', hland'.2⟩ ⟨q, hland.1, hout, hland.2⟩
  rw [Host.readBytes_of_stat hs, Host.readBytes_of_stat hs', hbs]

theorem mem_iff_of_sameFiles {a b : List String} (h : sameFiles a b = true) (p : String) :
    p ∈ a ↔ p ∈ b := by
  unfold sameFiles at h
  simp only [Bool.and_eq_true, List.all_eq_true, List.contains_eq_mem, decide_eq_true_eq] at h
  exact ⟨h.1 p, h.2 p⟩

/-- An outcome that may be used again is that of a stored run over files that read the same now. -/
theorem Invariant.reusable (hu : c.InUse) (hi : Invariant f registry config c past records s)
    (hno : c.NoCollision f.name config records s.host) {files : List String}
    (hf : c.Checkable s.host files) {o : Outcome} (ho : c.Reusable f.name config records s.host o)
    (hsame : sameFiles o.files files = true) :
    ∃ r ∈ records, f.lint r.host registry config files = .ok r.outcome ∧
      (∀ path ∈ files, s.host.readBytes path = r.host.readBytes path) ∧ o = r.outcome.unmended := by
  obtain ⟨r₀, hr₀, r₁, hr₁, fp, hfp₀, hfp₁, hnow, rfl⟩ := ho
  obtain ⟨-, hf₀, -⟩ := hi.recorded r₀ hr₀
  obtain ⟨hpast₁, hf₁, hlint₁⟩ := hi.recorded r₁ hr₁
  obtain rfl : r₀.files = files := hf₀.sorted.eq_of_mem_iff hf.sorted (mem_iff_of_sameFiles hsame)
  -- All three have one fingerprint, so their materials are one text.
  obtain ⟨m₀, hm₀, rfl⟩ := exists_material hu hfp₀
  obtain ⟨m₁, hm₁, hhex₁⟩ := exists_material hu hfp₁
  obtain ⟨m, hm, hhex⟩ := exists_material hu hnow
  obtain rfl : m₀ = m₁ := hno _ _ ⟨r₀, hr₀, .inl hm₀⟩ ⟨r₁, hr₁, .inl hm₁⟩ hhex₁
  obtain rfl : m₀ = m := hno _ _ ⟨r₀, hr₀, .inl hm₀⟩ ⟨r₀, hr₀, .inr hm⟩ hhex
  have hn₁ : Nameable (Order.sortedDistinct r₁.files) := by
    rw [hf₁.sorted.sortedDistinct_eq]
    exact hf₁.nameable
  have hn : Nameable (Order.sortedDistinct r₀.files) := by
    rw [hf.sorted.sortedDistinct_eq]
    exact hf.nameable
  obtain ⟨hfiles, hstamps⟩ := stamps_eq_of_material rfl hn₁ hn hm₁ hm
  rw [hf₁.sorted.sortedDistinct_eq, hf.sorted.sortedDistinct_eq] at hfiles
  rw [hf₁.sorted.sortedDistinct_eq] at hstamps
  rw [hfiles] at hf ⊢
  refine ⟨r₁, hr₁, hlint₁, fun path hp => hi.readBytes_eq hpast₁ hf hf₁ hp (hstamps path hp), ?_⟩
  rw [← files_of_lint hlint₁]
  rfl

/-- **Every run of a history** gives what it finds now, or what a stored run has found in files that read
the same. -/
theorem History.answer (hu : c.InUse) (hist : History f registry config c past records s)
    (hre : c.Rereads f.name config records) (hno : c.NoCollision f.name config records s.host)
    {files : List String} (hf : c.Checkable s.host files) :
    (exec (f.lintCached registry config files) s).1 = f.lint s.host registry config files ∨
      ∃ r ∈ records, f.lint r.host registry config files = .ok r.outcome ∧
        (∀ path ∈ files, s.host.readBytes path = r.host.readBytes path) ∧
        (exec (f.lintCached registry config files) s).1 = .ok r.outcome.unmended := by
  have hi := hist.invariant hu hre
  obtain ⟨ds, hs⟩ := hi.site
  obtain ⟨answer, ds', h', written, hexec, -, -, hanswer⟩ :=
    exec_lintCached registry hu hi.consistent hre hf.sorted ds
  rw [← hs] at hexec
  rw [hexec]
  rcases hanswer with hnow | ⟨o, rfl, hsame, ho⟩
  · exact .inl hnow
  · obtain ⟨r, hr, hlint, hread, rfl⟩ := hi.reusable hu hno hf ho hsame
    exact .inr ⟨r, hr, hlint, hread, rfl⟩

end Family

end AgentLint
