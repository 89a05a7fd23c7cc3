import AgentLint.Proofs.Cache.CallParts

/-!
# Validators side by side

Several validators use one cache at the same time: each of them does its calls one after the other, and the parts of
the calls come in any order (`Step`).  `Course` is what is known all the while: what the directory holds, which runs
have been stored, and what each validator has still to do.  Every step keeps it (`Course.step`).

So all ways to do the calls end with the same index and the same outcomes, and no entry is lost
(`sameStock_of_done`); and a validator that stores nothing is answered the same all the time (`Course.fetch_eq`).
-/

namespace AgentLint

-- Digests are compared but never computed here.
attribute [local irreducible] Sha256.hex

open Text

namespace Cache

variable {c : Cache} {d : Place} {s s' : Contents} {h h' : Host} {ds : Option Diagnostics} {log : List Event}
  {name : String} {o : Outcome} {config : Option Config}

/-! ## 1. The directory meanwhile -/

/-- What is known of the directory while runs are added to contents: what it holds, that its index can be read, and
what the runs add up to.  The texts are those whose digests are told apart. -/
structure Stands (c : Cache) (d : Place) (texts : String → Prop) (start : Contents)
    (last : String → Option Deposit) (read : Prop) (known : List Event) (s : Contents) (h : Host) : Prop where
  stocked : Stocked c d s h
  readable : Readable c s h
  neat : Neat s
  tallies : Tallies c known s
  whole : AllWhole known
  texts : ∀ text, Materials c known text → texts text
  addsUp : AddsUp c start last read s

section Stands

variable {texts : String → Prop} {start : Contents} {last : String → Option Deposit} {read : Prop}
  {known : List Event}

/-- The index can be read if there is no fault: it is found where it is. -/
def IndexFound (c : Cache) (d : Place) (h : Host) : Prop :=
  ∀ bytes, HasBytes h (indexPlace d) bytes → h.isFile c.indexPath.text = .ok true

theorem Stocked.readable (hs : Stocked c d s h) (hi : IndexFound c d h) : Readable c s h := by
  rintro i ⟨v, i₀, hsome, -⟩
  have hheld := hs.index
  rw [hsome] at hheld
  obtain ⟨text, m, -, hm⟩ := hheld
  exact hi _ ⟨m, hm⟩

/-- At the beginning. -/
theorem Ledger.stands (hu : c.InUse) (hl : Ledger c d log h) (hw : AllWhole log) (hi : IndexFound c d h)
    (htexts : ∀ text, Materials c log text → texts text) :
    ∃ s, Stands c d texts s (fun _ => none) False log s h := by
  obtain ⟨s, hs, ht, hn⟩ := hl.neat hu hw
  exact ⟨s, hs, hs.readable hi, hn, ht, hw, htexts, AddsUp.refl c s⟩

/-- Time passes. -/
theorem Stocked.waiting (hs : Stocked c d s h) (now : Int) : Stocked c d s { h with now } := by
  have hseat := hs.shelf.toSeat
  exact hs.aside
    ⟨⟨hseat.place, hseat.unlinked, hseat.straight, ⟨hseat.grounded.tree, hseat.grounded.cwd⟩, hseat.away⟩,
      fun _ _ => rfl, id⟩

theorem Stands.waiting (hs : Stands c d texts start last read known s h) (now : Int) :
    Stands c d texts start last read known s { h with now } :=
  ⟨hs.stocked.waiting now, hs.readable, hs.neat, hs.tallies, hs.whole, hs.texts, hs.addsUp⟩

/-- **The index is read.** -/
theorem Stands.reading (hs : Stands c d texts start last read known s h) (hu : c.InUse) (ds : Option Diagnostics) :
    ∃ loaded h' i s', exec loadIndex (c.on ds h) = (loaded, c.on ds h') ∧ Serves c.version s i s' ∧
      Furnished c d h h' ∧ Stands c d texts start last True known s' h' ∧
      (loaded = .ok i ∨ (i = [] ∧ ∃ e, loaded = .error e)) := by
  obtain ⟨loaded, h', i, s', hload, hserves, -, hf, hs', hr', hloaded⟩ :=
    hs.stocked.exec_loadIndex_served hu.proper hs.readable ds
  have hsame : Tallies c known s' ∧ Neat s' := by
    cases hserves with
    | found _ => exact ⟨hs.tallies, hs.neat⟩
    | lost _ => exact ⟨hs.tallies.emptied, hs.neat⟩
  exact ⟨loaded, h', i, s', hload, hserves, hf,
    ⟨hs', hr', hsame.2, hsame.1, hs.whole, hs.texts, hs.addsUp.reading hserves⟩, hloaded⟩

/-- **A run is stored.** -/
theorem Stands.storing (hs : Stands c d texts start last read known s h) (hu : c.InUse) (hversion : Whole c.version)
    (hno : ToldApart texts) {x y : Deposit} (hx : x = ⟨c.version, name, config, o, h⟩) (hw : x.IsWhole)
    (htext : ∀ text, x.material c = .ok text → texts text) (he : x.Echoes c y)
    (hok : (exec (storeEntry name o config) (c.on ds h)).1 = .ok ()) :
    ∃ h' s', exec (storeEntry name o config) (c.on ds h) = (.ok (), c.on ds h') ∧ Furnished c d h h' ∧
      Stands c d texts start (Function.update last name (some y)) read (.stored x :: known) s' h' := by
  obtain ⟨h', i, s', text, hexec, hserves, htidy, hf, hm, hs', hr'⟩ :=
    hs.stocked.exec_storeEntry_served hu hs.readable hok
  rw [← hx] at hm hs' hr'
  have hname : x.name = name := by rw [hx]
  have hv : x.version = c.version := by rw [hx]
  have hwhole : AllWhole (.stored x :: known) := by
    intro z hz
    rcases List.mem_cons.mp hz with hz | hz
    · cases hz
      exact hw
    · exact hs.whole z hz
  have htexts : ∀ text, Materials c (.stored x :: known) text → texts text := by
    rintro text ⟨z, hz, hzm⟩
    rcases List.mem_cons.mp hz with hz | hz
    · cases hz
      exact htext text hzm
    · exact hs.texts text ⟨z, hz, hzm⟩
  have hapart : Apart c x i := hs.tallies.apart hwhole hs.neat hserves ⟨text, hm⟩
    fun a b ha hb => hno a b (htexts a ha) (htexts b hb)
  have hplain : Plain i := by
    cases hserves with
    | found hfound => exact hs.neat.plain_of_found hfound
    | lost _ => exact Plain.nil
  have hadds := hs.addsUp.storing hserves htidy hplain hw hapart he hv hversion
  rw [hname] at hadds
  have htallies : Tallies c (.stored x :: known) (s'.add c x i) :=
    hs.tallies.turn (fun z hz => (hs.whole z hz).name) (fun v i hi => (hs.neat v i hi).1)
      (.added hv ⟨text, hm⟩ hserves.loaded)
  exact ⟨h', s'.add c x i, hexec, hf, hs', hr', Neat.add s' htidy hplain hw, htallies, hwhole, htexts, hadds⟩

end Stands

/-! ## 2. Validators -/

/-- A call of a validator. -/
inductive Job where
  /-- The stored outcome is asked for. -/
  | get (config : Option Config)
  /-- An outcome is to be stored. -/
  | set (o : Outcome) (config : Option Config)

/-- Where a validator is. -/
inductive Stage where
  /-- It is between two calls. -/
  | ready
  /-- It fetches, and the index has been read. -/
  | looked (config : Option Config) (found : Except Fault (Option CacheEntry))
  /-- It stores, and the fingerprint has been taken. -/
  | marked (o : Outcome) (config : Option Config) (mark : Except Fault String)

/-- A validator: where it is, and the calls that it has still to begin. -/
structure Task where
  /-- Where it is. -/
  stage : Stage
  /-- The calls to come. -/
  todo : List Job

/-- Validators by their names, and the cache that they share. -/
structure System where
  /-- The cache on its host. -/
  site : Site
  /-- The validators. -/
  tasks : String → Task

namespace System

/-- All validators are about to begin. -/
def start (s : Site) (jobs : String → List Job) : System := ⟨s, fun name => ⟨.ready, jobs name⟩⟩

/-- All calls are done. -/
def Done (S : System) : Prop := ∀ name, S.tasks name = ⟨.ready, []⟩

/-- One validator has gone on. -/
def move (S : System) (s : Site) (name : String) (t : Task) : System := ⟨s, Function.update S.tasks name t⟩

end System

/-- What happens at a time: time passes, or one validator does one part of a call.  That the update goes through if
there is a fingerprint means that there is no fault. -/
inductive Step : System → System → Prop
  /-- Time passes. -/
  | wait (S : System) (now : Int) : Step S { S with site := { S.site with host := { S.site.host with now } } }
  /-- A cache that is not enabled does nothing. -/
  | skip {S : System} {name : String} {job : Job} {todo : List Job} (task : S.tasks name = ⟨.ready, job :: todo⟩)
    (off : S.site.cache.enabled = false) : Step S (S.move S.site name ⟨.ready, todo⟩)
  /-- The index is read for a fetch. -/
  | look {S : System} {name : String} {config : Option Config} {todo : List Job}
    (task : S.tasks name = ⟨.ready, .get config :: todo⟩) (on : S.site.cache.enabled = true) :
    Step S (S.move (exec (entryOf name) S.site).2 name ⟨.looked config (exec (entryOf name) S.site).1, todo⟩)
  /-- The fetch is answered. -/
  | answer {S : System} {name : String} {config : Option Config} {found : Except Fault (Option CacheEntry)}
    {todo : List Job} (task : S.tasks name = ⟨.looked config found, todo⟩) :
    Step S (S.move (exec (Cache.answer name config found) S.site).2 name ⟨.ready, todo⟩)
  /-- The fingerprint of a run is taken. -/
  | mark {S : System} {name : String} {o : Outcome} {config : Option Config} {todo : List Job}
    (task : S.tasks name = ⟨.ready, .set o config :: todo⟩) (on : S.site.cache.enabled = true) :
    Step S (S.move S.site name ⟨.marked o config (markOf S.site name o config), todo⟩)
  /-- The index and the outcomes are brought up to date. -/
  | update {S : System} {name : String} {o : Outcome} {config : Option Config} {mark : Except Fault String}
    {todo : List Job} (task : S.tasks name = ⟨.marked o config mark, todo⟩)
    (faultless : ∀ m, mark = .ok m → (exec (storeBy name o mark) S.site).1 = .ok ()) :
    Step S (S.move ((Cache.update name o mark).run S.site).2 name ⟨.ready, todo⟩)

/-- Any number of steps. -/
abbrev Steps : System → System → Prop := Relation.ReflTransGen Step

namespace Job

/-- The files of a call. -/
def files : Job → List String
  | .get _ => []
  | .set o _ => o.files

/-- The run that a call stores: one with a fingerprint, and only if the cache is enabled. -/
def run? (c : Cache) (on : Bool) (h : Host) (name : String) : Job → Option Deposit
  | .get _ => none
  | .set o config =>
    match on, c.fingerprint h name config (Order.sortedDistinct o.files) with
    | true, .ok _ => some ⟨c.version, name, config, o, h⟩
    | _, _ => none

end Job

/-- The run that is stored last by some calls. -/
def lastRun (c : Cache) (on : Bool) (h : Host) (name : String) : List Job → Option Deposit
  | [] => none
  | job :: jobs => (lastRun c on h name jobs).or (job.run? c on h name)

theorem lastRun_eq_none {on : Bool} : ∀ {jobs : List Job}, (∀ o config, .set o config ∉ jobs) →
    lastRun c on h name jobs = none
  | [], _ => rfl
  | job :: jobs, hno => by
    have hrun : job.run? c on h name = none := by
      cases job with
      | get config => rfl
      | set o config => exact absurd List.mem_cons_self (hno o config)
    rw [lastRun, lastRun_eq_none fun o config hmem => hno o config (List.mem_cons_of_mem _ hmem), hrun]
    rfl

theorem lastRun_append {on : Bool} : ∀ {jobs jobs' : List Job},
    lastRun c on h name (jobs ++ jobs') = (lastRun c on h name jobs').or (lastRun c on h name jobs)
  | [], jobs' => by rw [List.nil_append, lastRun, Option.or_none]
  | job :: jobs, jobs' => by rw [List.cons_append, lastRun, lastRun_append, Option.or_assoc, lastRun]

namespace Task

/-- The calls that have not had their effect yet: a fetch has had it once the index has been read. -/
def ahead (t : Task) : List Job :=
  match t.stage with
  | .marked o config _ => .set o config :: t.todo
  | _ => t.todo

/-- What is known of a validator in the course of its calls: those that have had their effect and those that have
not make up all that it had to do, the run that is stored last is that of the former, and the index was read if there
was a fetch among them. -/
structure OnCourse (c : Cache) (on : Bool) (h : Host) (name : String) (all : List Job) (last : Option Deposit)
    (read : Prop) (t : Task) : Prop where
  split : ∃ past, all = past ++ t.ahead ∧ last = lastRun c on h name past
  marked : ∀ o config mark, t.stage = .marked o config mark →
    on = true ∧ mark = c.fingerprint h name config (Order.sortedDistinct o.files)
  gets : on = true → ∀ config, .get config ∈ all → read ∨ .get config ∈ t.ahead

variable {on : Bool} {all : List Job} {last last' : Option Deposit} {read read' : Prop} {t t' : Task}

theorem OnCourse.start (c : Cache) (on : Bool) (h : Host) (name : String) (all : List Job) (read : Prop) :
    OnCourse c on h name all none read ⟨.ready, all⟩ :=
  ⟨⟨[], rfl, rfl⟩, fun _ _ _ he => (by cases he), fun _ _ hget => .inr hget⟩

theorem OnCourse.subset (ht : OnCourse c on h name all last read t) : ∀ job ∈ t.ahead, job ∈ all := by
  obtain ⟨past, rfl, -⟩ := ht.split
  exact fun _ hjob => List.mem_append_right past hjob

/-- A call less to be done, and the run that it stores, if any, is the last one now. -/
theorem OnCourse.drop (ht : OnCourse c on h name all last read t) {job : Job} (hahead : t.ahead = job :: t'.ahead)
    (hmarked : ∀ o config mark, t'.stage ≠ .marked o config mark)
    (hlast : (job.run? c on h name).or last = last') (hread : read → read')
    (hget : on = true → ∀ config, job = .get config → read') : OnCourse c on h name all last' read' t' := by
  obtain ⟨past, hall, hpast⟩ := ht.split
  refine ⟨⟨past ++ [job], ?_, ?_⟩, fun o config mark he => absurd he (hmarked o config mark), fun hon config hc => ?_⟩
  · rw [hall, hahead, List.append_assoc, List.singleton_append]
  · rw [lastRun_append, ← hpast, ← hlast, lastRun, lastRun, Option.none_or]
  · rcases ht.gets hon config hc with hr | hmem
    · exact .inl (hread hr)
    · rw [hahead] at hmem
      rcases List.mem_cons.mp hmem with he | hmem
      · exact .inl (hget hon config he.symm)
      · exact .inr hmem

end Task

/-! ## 3. The course of the calls -/

/-- A cache that is enabled or not, on a host. -/
def switched (c : Cache) (on : Bool) (diagnostics : Option Diagnostics) (h : Host) : Site :=
  ⟨{ c with enabled := on, diagnostics }, h⟩

theorem switched_true (he : c.enabled = true) (ds : Option Diagnostics) (h : Host) :
    c.switched true ds h = c.on ds h := by
  rw [switched, ← he]
  rfl

/-- The texts whose digests are compared: the materials of the runs that were stored, and of those to be stored. -/
def Texts (c : Cache) (log : List Event) (h : Host) (jobs : String → List Job) (text : String) : Prop :=
  Materials c log text ∨
    ∃ name o config, .set o config ∈ jobs name ∧ Deposit.material c ⟨c.version, name, config, o, h⟩ = .ok text

/-- Calls of validators whose names and files JSON gives back, over files that are clear of the cache, with
fingerprints that tell them apart. -/
structure Orderly (c : Cache) (d : Place) (log : List Event) (h : Host) (jobs : String → List Job) : Prop where
  whole : ∀ name, ∀ job ∈ jobs name, Whole name ∧ ∀ p ∈ job.files, Settles p
  clear : ∀ name, ∀ job ∈ jobs name, ∀ p ∈ job.files, Clear c d h p
  toldApart : ToldApart (Texts c log h jobs)

/-- What is known in the course of calls: of the directory, of files that are clear of it, and of the validators. -/
structure Course (c : Cache) (d : Place) (log : List Event) (h : Host) (jobs : String → List Job) (on : Bool)
    (start : Contents) (last : String → Option Deposit) (read : Prop) (known : List Event) (s : Contents)
    (S : System) : Prop where
  site : ∃ ds, S.site = c.switched on ds S.site.host
  stands : Stands c d (Texts c log h jobs) start last read known s S.site.host
  files : ∀ p, Clear c d h p → S.site.host.mtime? p = h.mtime? p ∧ Clear c d S.site.host p
  tasks : ∀ name, (S.tasks name).OnCourse c on h name (jobs name) (last name) read
  reads : read → on = true ∧ ∃ name config, .get config ∈ jobs name

namespace Course

variable {jobs : String → List Job} {on : Bool} {start : Contents} {last last' : String → Option Deposit}
  {read read' : Prop} {known : List Event} {S S' : System} {t : Task} {todo : List Job}

theorem forall_move (ht : ∀ n, (S.tasks n).OnCourse c on h n (jobs n) (last n) read)
    (hlast : ∀ n, n ≠ name → last' n = last n) (hread : read → read')
    (hname : t.OnCourse c on h name (jobs name) (last' name) read') (site : Site) :
    ∀ n, ((S.move site name t).tasks n).OnCourse c on h n (jobs n) (last' n) read' := by
  intro n
  simp only [System.move]
  by_cases hn : n = name
  · subst hn
    rwa [Function.update_self]
  · rw [Function.update_of_ne hn, hlast n hn]
    obtain ⟨hsplit, hmarked, hgets⟩ := ht n
    exact ⟨hsplit, hmarked, fun hon config hc => (hgets hon config hc).imp_left hread⟩

/-- Files that are clear of the cache stay as they are while it is used. -/
theorem files_of_furnished (hc : Course c d log h jobs on start last read known s S)
    (hf : Furnished c d S.site.host h') :
    ∀ p, Clear c d h p → h'.mtime? p = h.mtime? p ∧ Clear c d h' p := by
  intro p hp
  obtain ⟨htime, hclear⟩ := hc.files p hp
  exact ⟨(hclear.mtime?_eq hf).trans htime, hclear.furnished hf⟩

/-- A step that does not touch the files. -/
theorem staying (hc : Course c d log h jobs on start last read known s S) {site : Site}
    (hsite : ∃ ds, site = c.switched on ds S.site.host)
    (ht : t.OnCourse c on h name (jobs name) (last name) read) :
    Course c d log h jobs on start last read known s (S.move site name t) := by
  obtain ⟨ds, rfl⟩ := hsite
  exact ⟨⟨ds, rfl⟩, hc.stands, hc.files, forall_move hc.tasks (fun _ _ => rfl) id ht _, hc.reads⟩

/-- An enabled cache is the one whose directory this is. -/
theorem site_eq (hc : Course c d log h jobs on start last read known s S) (hu : c.InUse)
    (hon : S.site.cache.enabled = true) : on = true ∧ ∃ ds, S.site = c.on ds S.site.host := by
  obtain ⟨ds, hsite⟩ := hc.site
  have honeq : on = true := by
    rw [hsite] at hon
    exact hon
  subst honeq
  exact ⟨rfl, ds, hsite.trans (switched_true hu.enabled ds _)⟩

/-- Fingerprints are what they were at the beginning. -/
theorem material_eq (hc : Course c d log h jobs on start last read known s S) (hj : Orderly c d log h jobs)
    (hjob : .set o config ∈ jobs name) :
    Deposit.material c ⟨c.version, name, config, o, S.site.host⟩ = Deposit.material c ⟨c.version, name, config, o, h⟩ :=
  material_congr name config fun p hp =>
    (hc.files p (hj.clear name _ hjob p (Order.mem_sortedDistinct.mp (Order.mem_sortedDistinct.mp hp)))).1

theorem markOf_eq (hc : Course c d log h jobs on start last read known s S) (hj : Orderly c d log h jobs)
    (hjob : .set o config ∈ jobs name) :
    markOf S.site name o config = c.fingerprint h name config (Order.sortedDistinct o.files) := by
  have hmaterial : c.material S.site.host name config (Order.sortedDistinct o.files) =
      c.material h name config (Order.sortedDistinct o.files) := hc.material_eq hj hjob
  obtain ⟨ds, hsite⟩ := hc.site
  have hmark : markOf (c.switched on ds S.site.host) name o config =
      c.fingerprint S.site.host name config (Order.sortedDistinct o.files) := rfl
  rw [hsite, hmark, fingerprint, fingerprint, hmaterial]

/-- The index is read for a fetch. -/
theorem looking (hc : Course c d log h jobs on start last read known s S) (hu : c.InUse)
    (htask : S.tasks name = ⟨.ready, .get config :: todo⟩) (hon : S.site.cache.enabled = true) :
    ∃ s', Course c d log h jobs on start last True known s'
      (S.move (exec (entryOf name) S.site).2 name ⟨.looked config (exec (entryOf name) S.site).1, todo⟩) := by
  obtain ⟨rfl, ds, hsite⟩ := hc.site_eq hu hon
  obtain ⟨loaded, h', i, s', hload, -, hf, hstands, -⟩ := hc.stands.reading hu ds
  have ht := hc.tasks name
  rw [htask] at ht
  rw [hsite, exec_entryOf_of_load hload name]
  have htodo : Task.OnCourse c true h name (jobs name) (last name) True
      ⟨.looked config (loaded.map (Assoc.get? name)), todo⟩ :=
    ht.drop rfl (fun _ _ _ => nofun) (Option.none_or ..) (fun _ => trivial) fun _ _ _ => trivial
  exact ⟨s', ⟨ds, (switched_true hu.enabled ds h').symm⟩, hstands, hc.files_of_furnished hf,
    forall_move hc.tasks (fun _ _ => rfl) (fun _ => trivial) htodo _,
    fun _ => ⟨rfl, name, config, ht.subset _ List.mem_cons_self⟩⟩

/-- The update for a run that has a fingerprint. -/
theorem updating (hc : Course c d log h jobs on start last read known s S) (hu : c.InUse)
    (hversion : Whole c.version) (hj : Orderly c d log h jobs) {mark : Except Fault String} {m : String}
    (htask : S.tasks name = ⟨.marked o config mark, todo⟩) (hm : mark = .ok m)
    (hok : (exec (storeBy name o mark) S.site).1 = .ok ()) :
    ∃ last' known' s', Course c d log h jobs on start last' read known' s'
      (S.move ((Cache.update name o mark).run S.site).2 name ⟨.ready, todo⟩) := by
  have ht := hc.tasks name
  rw [htask] at ht
  obtain ⟨rfl, hmark⟩ := ht.marked o config mark rfl
  obtain ⟨ds, hsite⟩ := hc.site
  rw [switched_true hu.enabled] at hsite
  have hjob : .set o config ∈ jobs name := ht.subset _ List.mem_cons_self
  have hmaterial := hc.material_eq hj hjob
  -- The run as it is stored, and as it would have been stored at the beginning.
  generalize hx : (⟨c.version, name, config, o, S.site.host⟩ : Deposit) = x at hmaterial
  generalize hy : (⟨c.version, name, config, o, h⟩ : Deposit) = y at hmaterial
  have hsame : y.mark c = x.mark c := by rw [Deposit.mark, Deposit.mark, hmaterial]
  have hentry : exec (storeEntry name o config) S.site = exec (storeBy name o mark) S.site := by
    rw [exec_storeEntry_parts, hc.markOf_eq hj hjob, ← hmark]
  rw [← hentry, hsite] at hok
  have hwhole : x.IsWhole := by
    obtain ⟨hname, hfiles⟩ := hj.whole name _ hjob
    rw [← hx]
    exact ⟨hname, hfiles⟩
  obtain ⟨h', s', hexec, hf, hstands⟩ := hc.stands.storing hu hversion hj.toldApart hx.symm hwhole (y := y)
    (fun text htext => .inr ⟨name, o, config, hjob, by rw [hy, ← hmaterial, htext]⟩)
    ⟨hsame, by rw [← hx, ← hy]⟩ hok
  have hrun : (Job.set o config).run? c true h name = some y := by
    simp only [Job.run?, ← hmark, hm, hy]
  have hlast : Function.update last name (some y) name = some y := Function.update_self ..
  rw [run_update_eq, ← hentry, hsite, hexec]
  refine ⟨Function.update last name (some y), .stored x :: known, s',
    ⟨ds, (switched_true hu.enabled ds h').symm⟩, hstands, hc.files_of_furnished hf,
    forall_move hc.tasks (fun n hn => Function.update_of_ne hn ..) id ?_ _, hc.reads⟩
  rw [hlast]
  exact ht.drop rfl (fun _ _ _ hphase => by cases hphase) (by rw [hrun, Option.some_or]) id
    fun _ _ hget => by cases hget

/-- Time passes. -/
theorem waiting (hc : Course c d log h jobs on start last read known s S) (now : Int) :
    Course c d log h jobs on start last read known s
      { S with site := { S.site with host := { S.site.host with now } } } := by
  obtain ⟨ds, hsite⟩ := hc.site
  refine ⟨⟨ds, by rw [hsite]; rfl⟩, hc.stands.waiting now, fun p hp => ?_, hc.tasks, hc.reads⟩
  obtain ⟨htime, hclear⟩ := hc.files p hp
  exact ⟨htime, hclear.outside, hclear.onWay, hclear.file⟩

/-- A call does nothing. -/
theorem skipping (hc : Course c d log h jobs on start last read known s S) {job : Job}
    (htask : S.tasks name = ⟨.ready, job :: todo⟩) (hoff : S.site.cache.enabled = false) :
    Course c d log h jobs on start last read known s (S.move S.site name ⟨.ready, todo⟩) := by
  obtain ⟨ds, hsite⟩ := hc.site
  have hswitch : on = false := by
    rw [hsite] at hoff
    exact hoff
  have ht := hc.tasks name
  rw [htask] at ht
  have hrun : job.run? c on h name = none := by
    rw [hswitch]
    cases job <;> rfl
  refine hc.staying ⟨ds, hsite⟩ (ht.drop rfl (fun _ _ _ => nofun) (by rw [hrun, Option.none_or]) id fun hon => ?_)
  rw [hswitch] at hon
  cases hon

/-- A fetch is answered. -/
theorem answering (hc : Course c d log h jobs on start last read known s S)
    {found : Except Fault (Option CacheEntry)} (htask : S.tasks name = ⟨.looked config found, todo⟩) :
    Course c d log h jobs on start last read known s
      (S.move (exec (Cache.answer name config found) S.site).2 name ⟨.ready, todo⟩) := by
  obtain ⟨ds, hsite⟩ := hc.site
  have ht := hc.tasks name
  rw [htask] at ht
  obtain ⟨ds', hanswer⟩ := exec_answer { c with enabled := on } name config found ds S.site.host
  have hsite' : S.site = Cache.on { c with enabled := on } ds S.site.host := hsite
  refine hc.staying ⟨ds', ?_⟩ ⟨ht.split, fun _ _ _ => nofun, ht.gets⟩
  rw [hsite', hanswer]
  rfl

/-- A fingerprint is taken. -/
theorem marking (hc : Course c d log h jobs on start last read known s S) (hu : c.InUse)
    (hj : Orderly c d log h jobs) (htask : S.tasks name = ⟨.ready, .set o config :: todo⟩)
    (hon : S.site.cache.enabled = true) :
    Course c d log h jobs on start last read known s
      (S.move S.site name ⟨.marked o config (markOf S.site name o config), todo⟩) := by
  have ht := hc.tasks name
  rw [htask] at ht
  refine hc.staying hc.site ⟨ht.split, fun o' config' mark' he => ?_, ht.gets⟩
  cases he
  exact ⟨(hc.site_eq hu hon).1, hc.markOf_eq hj (ht.subset _ List.mem_cons_self)⟩

/-- The update for a run that has no fingerprint. -/
theorem failing (hc : Course c d log h jobs on start last read known s S) {f : Fault}
    (htask : S.tasks name = ⟨.marked o config (.error f), todo⟩) :
    Course c d log h jobs on start last read known s
      (S.move ((Cache.update name o (.error f)).run S.site).2 name ⟨.ready, todo⟩) := by
  obtain ⟨ds, hsite⟩ := hc.site
  have ht := hc.tasks name
  rw [htask] at ht
  obtain ⟨-, hmark⟩ := ht.marked o config _ rfl
  have hrun : (Job.set o config).run? c on h name = none := by
    cases on <;> simp only [Job.run?, ← hmark]
  have hexec : exec (storeBy name o (.error f)) S.site = (.error f, S.site) := rfl
  refine hc.staying ⟨ds.map fun ds => ds.warn
    ("Failed to write cache for " ++ name ++ ": " ++ f.message) source trouble, ?_⟩
    (ht.drop rfl (fun _ _ _ => nofun) (by rw [hrun, Option.none_or]) id fun _ _ => nofun)
  rw [run_update_eq, hexec, hsite]
  rfl

/-- **A step.** -/
theorem step (hc : Course c d log h jobs on start last read known s S) (hu : c.InUse) (hversion : Whole c.version)
    (hj : Orderly c d log h jobs) (hs : Step S S') :
    ∃ last' read' known' s', Course c d log h jobs on start last' read' known' s' S' := by
  cases hs with
  | wait now => exact ⟨last, read, known, s, hc.waiting now⟩
  | skip htask hoff => exact ⟨last, read, known, s, hc.skipping htask hoff⟩
  | look htask hon =>
    obtain ⟨s', hc'⟩ := hc.looking hu htask hon
    exact ⟨last, True, known, s', hc'⟩
  | answer htask => exact ⟨last, read, known, s, hc.answering htask⟩
  | mark htask hon => exact ⟨last, read, known, s, hc.marking hu hj htask hon⟩
  | @update name o config mark todo htask faultless =>
    cases mark with
    | ok m =>
      obtain ⟨last', known', s', hc'⟩ := hc.updating hu hversion hj htask rfl (faultless m rfl)
      exact ⟨last', read, known', s', hc'⟩
    | error f => exact ⟨last, read, known, s, hc.failing htask⟩

/-- **A run of steps.** -/
theorem steps (hc : Course c d log h jobs on start last read known s S) (hu : c.InUse) (hversion : Whole c.version)
    (hj : Orderly c d log h jobs) (hs : Steps S S') :
    ∃ last' read' known' s', Course c d log h jobs on start last' read' known' s' S' := by
  induction hs with
  | refl => exact ⟨last, read, known, s, hc⟩
  | tail _ hstep ih =>
    obtain ⟨_, _, _, _, hc'⟩ := ih
    exact hc'.step hu hversion hj hstep

/-- In the end, the runs that were stored last are known, and whether the index was read. -/
theorem done (hc : Course c d log h jobs on start last read known s S) (hd : S.Done) :
    (last = fun name => lastRun c on h name (jobs name)) ∧
      (read ↔ on = true ∧ ∃ name config, .get config ∈ jobs name) := by
  have htasks : ∀ name, Task.OnCourse c on h name (jobs name) (last name) read ⟨.ready, []⟩ := fun name =>
    hd name ▸ hc.tasks name
  refine ⟨funext fun name => ?_, hc.reads, fun ⟨hon, name, config, hget⟩ => ?_⟩
  · obtain ⟨past, hall, hlast⟩ := (htasks name).split
    rw [hlast, hall]
    exact congrArg _ (List.append_nil past).symm
  · exact ((htasks name).gets hon config hget).resolve_right nofun

end Course

/-! ## 4. The end -/

section Ends

variable {jobs : String → List Job} {on : Bool} {S S' : System}

/-- **Where a run of calls ends.** -/
theorem exists_course (hu : c.InUse) (hl : Ledger c d log h) (hw : AllWhole log) (hversion : Whole c.version)
    (hi : IndexFound c d h) (hj : Orderly c d log h jobs) (on : Bool) (ds : Option Diagnostics) :
    ∃ start, Stands c d (Texts c log h jobs) start (fun _ => none) False log start h ∧
      ∀ S, Steps (System.start (c.switched on ds h) jobs) S →
        ∃ last read known s, Course c d log h jobs on start last read known s S := by
  obtain ⟨start, hstands⟩ : ∃ s, Stands c d (Texts c log h jobs) s (fun _ => none) False log s h :=
    hl.stands hu hw hi fun _ => .inl
  refine ⟨start, hstands, fun S hS => ?_⟩
  have hbegin : Course c d log h jobs on start (fun _ => none) False log start
      (System.start (c.switched on ds h) jobs) :=
    ⟨⟨ds, rfl⟩, hstands, fun _ hp => ⟨rfl, hp⟩, fun name => .start c on h name (jobs name) False, False.elim⟩
  exact hbegin.steps hu hversion hj hS

/-- The index in the directory is of this version and has this entry, its time aside. -/
def HasEntry (d : Place) (h : Host) (version name : String) (e : CacheEntry) : Prop :=
  ∃ i f, indexIn d h = some (version, i) ∧ Assoc.get? name i = some f ∧ f.untimed = e

/-- No entry is lost: the run that a validator has stored last is there, and so is what was there of those that have
stored none. -/
structure NothingLost (c : Cache) (d : Place) (on : Bool) (h : Host) (jobs : String → List Job) (h' : Host) : Prop where
  stored : ∀ name x, lastRun c on h name (jobs name) = some x → HasEntry d h' c.version name (x.entry c).shown ∧
    Held h' (payloadPlace d (x.mark c)) (some x.outcome.toValue)
  kept : ∀ name e, lastRun c on h name (jobs name) = none → HasEntry d h c.version name e →
    HasEntry d h' c.version name e ∧
      ∀ bytes, HasBytes h' (payloadPlace d e.fingerprint) bytes ↔ HasBytes h (payloadPlace d e.fingerprint) bytes

theorem Course.nothingLost {start : Contents} {last : String → Option Deposit} {read : Prop} {known : List Event}
    (hc : Course c d log h jobs on start last read known s S) (hd : S.Done) (hs : Stocked c d start h) :
    NothingLost c d on h jobs S.site.host := by
  obtain ⟨rfl, -⟩ := hc.done hd
  have hstocked := hc.stands.stocked
  obtain ⟨base, left, i, s', hbase, hserves, hsum⟩ := hc.stands.addsUp.sums
  constructor
  · intro name x hx
    obtain ⟨i', hfound⟩ := hc.stands.addsUp.stored ⟨name, by rw [hx]; exact Option.some_ne_none x⟩
    obtain ⟨rfl, rfl⟩ := hserves.unique (.found hfound)
    have hentry := hsum.entry name
    simp only [hx, Option.map_some, Option.some_or] at hentry
    obtain ⟨f, hf, hshown⟩ := Option.map_eq_some_iff.mp hentry
    have hmark : f.fingerprint = x.mark c := congrArg CacheEntry.fingerprint hshown
    have hpayload := hsum.payload name f hf
    simp only [hx, Option.map_some, Option.some_or, hmark] at hpayload
    obtain ⟨z, hz, hout⟩ := Option.map_eq_some_iff.mp hpayload
    have hheld : Held S.site.host (payloadPlace d (x.mark c))
        ((s'.payload (x.mark c)).map fun x => x.outcome.toValue) := hstocked.payload _
    rw [hz, Option.map_some, hout] at hheld
    exact ⟨⟨i, f, hstocked.indexIn_eq_some_iff.mpr hfound, hf, hshown⟩, hheld⟩
  · rintro name e hnone ⟨i₀, f₀, hi₀, hf₀, rfl⟩
    have hfound₀ := hs.indexIn_eq_some_iff.mp hi₀
    obtain ⟨rfl, rfl⟩ := hbase.unique (.found hfound₀)
    have hentry := hsum.entry name
    simp only [hnone, hf₀, Option.map_none, Option.none_or, Option.map_some] at hentry
    obtain ⟨f, hf, hsame⟩ := Option.map_eq_some_iff.mp hentry
    have hmark : f.fingerprint = f₀.fingerprint := (CacheEntry.untimed_eq_iff.mp hsame).1
    have hpayload := hsum.payload name f hf
    simp only [hnone, Option.map_none, Option.none_or, hmark] at hpayload
    obtain ⟨t, ht, -⟩ := (hs.tidy_of_found hfound₀).named name f₀ hf₀
    cases hserves with
    | lost _ => cases hf
    | found hfound =>
      refine ⟨⟨i, f, hstocked.indexIn_eq_some_iff.mpr hfound, hf, hsame⟩, fun bytes => ?_⟩
      rw [ht] at hpayload
      have huntimed : f₀.untimed.fingerprint = Sha256.hex t := ht
      rw [huntimed]
      exact hs.hasBytes_payload_iff hstocked hpayload

/-- **Whatever the order, the directory ends up the same**, and no entry is lost. -/
theorem sameStock_of_done (hu : c.InUse) (hl : Ledger c d log h) (hw : AllWhole log) (hversion : Whole c.version)
    (hi : IndexFound c d h) (hj : Orderly c d log h jobs) {ds : Option Diagnostics}
    (hS : Steps (System.start (c.switched on ds h) jobs) S) (hd : S.Done)
    (hS' : Steps (System.start (c.switched on ds h) jobs) S') (hd' : S'.Done) :
    SameStock d S.site.host S'.site.host ∧ NothingLost c d on h jobs S.site.host := by
  obtain ⟨start, hstart, hall⟩ := exists_course hu hl hw hversion hi hj on ds
  obtain ⟨last, read, known, s, hc⟩ := hall S hS
  obtain ⟨last', read', known', s', hc'⟩ := hall S' hS'
  refine ⟨?_, hc.nothingLost hd hstart.stocked⟩
  obtain ⟨rfl, hread⟩ := hc.done hd
  obtain ⟨rfl, hread'⟩ := hc'.done hd'
  have hagrees := hc.stands.addsUp.agrees hc'.stands.addsUp (hread.trans hread'.symm) hc.stands.tallies
    hc'.stands.tallies hc.stands.whole hc'.stands.whole hc.stands.neat hc'.stands.neat
  exact hagrees.sameStock hc.stands.stocked hc'.stands.stocked

/-- **A validator that has stored nothing is answered the same all the time**, if its files are clear of the
cache. -/
theorem Course.fetch_eq {start : Contents} {last : String → Option Deposit} {read : Prop} {known : List Event}
    (hc : Course c d log h jobs on start last read known s S) (hu : c.InUse) (hs : Stocked c d start h)
    (hr : Readable c start h)
    (hno : ∀ past, jobs name = past ++ (S.tasks name).ahead → ∀ o config, .set o config ∉ past)
    (hclear : ∀ i e, indexIn d h = some (c.version, i) → Assoc.get? name i = some e → ∀ p ∈ e.files, Clear c d h p)
    (config : Option Config) (ds : Option Diagnostics) :
    (exec (fetch name config) S.site).1 = (exec (fetch name config) (c.switched on ds h)).1 := by
  obtain ⟨ds', hsite⟩ := hc.site
  rw [hsite]
  cases on with
  | false => rfl
  | true =>
    rw [switched_true hu.enabled, switched_true hu.enabled]
    obtain ⟨h₁, i₁, s₁, hserves₁, htidy, hf₁, hs₁, hfetch₁⟩ := hs.exec_fetch_served hu hr ds name config
    obtain ⟨h₂, i₂, s₂, hserves₂, -, hf₂, hs₂, hfetch₂⟩ :=
      hc.stands.stocked.exec_fetch_served hu hc.stands.readable ds' name config
    obtain ⟨base, left, i, s', hbase, hserves, hsum⟩ := hc.stands.addsUp.sums
    obtain ⟨rfl, rfl⟩ := hbase.unique hserves₁
    obtain ⟨rfl, rfl⟩ := hserves.unique hserves₂
    have hlast : last name = none := by
      obtain ⟨past, hall, hlast⟩ := (hc.tasks name).split
      rw [hlast, lastRun_eq_none (hno past hall)]
    have hentry := hsum.entry name
    rw [hlast, Option.map_none, Option.none_or] at hentry
    have hkept : ∀ e, Assoc.get? name base = some e → ∀ p ∈ e.files, Clear c d h p := by
      intro e he
      cases hserves₁ with
      | lost _ => cases he
      | found hfound => exact hclear _ e (hs.indexIn_eq_some_iff.mpr hfound) he
    rw [hfetch₁, hfetch₂]
    refine answerOf_congr name config hentry (fun e he p hp => ?_) fun e e' he he' => ?_
    · have hbefore := hkept e he p hp
      obtain ⟨htime, hafter⟩ := hc.files p hbefore
      rw [hafter.mtime?_eq hf₂, htime, hbefore.mtime?_eq hf₁]
    · rw [he, he'] at hentry
      have hsame : e'.untimed = e.untimed := Option.some.inj hentry
      obtain ⟨t, hmark, hfile⟩ := htidy.named name e he
      have hpayload := hsum.payload name e' he'
      rw [hlast, Option.map_none, Option.none_or, (CacheEntry.untimed_eq_iff.mp hsame).1, hmark] at hpayload
      exact hs₁.outcomeOf_eq hs₂ hu.proper hfile hsame hpayload

end Ends

end Cache

end AgentLint
