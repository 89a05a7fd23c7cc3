import AgentLint.Proofs.Cache.Orphans

/-!
# What runs add up to

Caches of one version store runs of several validators in one directory, and each storing rewrites the index and
may remove an outcome.  What they leave in the end depends on nothing but the run that each validator has stored
last: `Sums` says so of the entries and the outcomes, and `Sums.add` that one more run keeps it.  The entries that
were there before stay if they are of this version, and are gone otherwise (`Serves`).

Two cases remain in which nothing has been stored: then reading the index may have cleared the outcomes of another
version away, and this is all that can have happened.  `AddsUp` has all three, and two directories that add up in
the same way hold the same (`AddsUp.agrees`, `Agrees.sameStock`): the times of the entries aside, which are those at
which runs were stored.
-/

namespace AgentLint

-- Digests are compared but never computed here.
attribute [local irreducible] Sha256.hex

open Text

/-- An entry without its time. -/
def CacheEntry.untimed (e : CacheEntry) : CacheEntry := { e with timestamp := .zero false }

theorem CacheEntry.untimed_eq_iff {e e' : CacheEntry} : e'.untimed = e.untimed ↔
    e'.fingerprint = e.fingerprint ∧ e'.resultFile = e.resultFile ∧ e'.files = e.files := by
  simp [untimed]

/-- An entry as it comes back, without its time. -/
def CacheEntry.shown (e : CacheEntry) : CacheEntry := { e.untimed with files := e.files.map joined }

theorem CacheEntry.shown_of_whole {e : CacheEntry} (h : ∀ p ∈ e.files, Whole p) : e.shown = e.untimed := by
  rw [shown, map_joined_of_whole h]
  rfl

namespace Cache

variable {c : Cache} {d : Place} {s s' r : Contents} {h h' : Host} {ds : Option Diagnostics} {log : List Event}
  {version version' name mark : String} {i i' : CacheIndex} {x y : Deposit}

/-! ## 1. Entries that come back -/

/-- Its name is a text that JSON gives back, and its files are texts that it gives back from the second time on. -/
structure Deposit.IsWhole (x : Deposit) : Prop where
  name : Whole x.name
  files : ∀ p ∈ x.outcome.files, Settles p

/-- The texts of an index are of some kinds: its names, and the files of its entries. -/
def HasTexts (name file : String → Prop) (i : CacheIndex) : Prop :=
  ∀ n e, Assoc.get? n i = some e → name n ∧ ∀ p ∈ e.files, file p

/-- An index that is read: its names and files are texts that JSON gives back. -/
abbrev Plain (i : CacheIndex) : Prop := HasTexts Whole Whole i

theorem Plain.nil : Plain [] := nofun

theorem Plain.shown (hp : Plain i) (name : String) :
    (Assoc.get? name i).map CacheEntry.shown = (Assoc.get? name i).map CacheEntry.untimed :=
  Option.map_congr fun e he => CacheEntry.shown_of_whole (hp name e he).2

theorem Plain.put (hp : Plain i) (c : Cache) (hx : x.IsWhole) :
    HasTexts Whole Settles (Assoc.put x.name (x.entry c) i) := by
  intro name e he
  rw [Assoc.get?_put] at he
  split at he
  · rename_i hname
    cases he
    exact ⟨hname ▸ hx.name, fun p hp => hx.files p (Order.mem_sortedDistinct.mp hp)⟩
  · exact ⟨(hp name e he).1, fun p hpath => ((hp name e he).2 p hpath).settles⟩

/-- **Entries under such names come back as they are shown.** -/
theorem get?_of_shows {file : String → Prop} (hp : HasTexts Whole file i) (hi : Tidy i)
    (hs : CacheIndex.Shows version i version' i') (name : String) :
    (Assoc.get? name i').map CacheEntry.untimed = (Assoc.get? name i).map CacheEntry.shown := by
  obtain ⟨bs, hlike, hs'⟩ := CacheIndex.exists_shows version i
  obtain ⟨-, rfl⟩ := hs.unique hs'
  have hkeys : ∀ name ∈ Assoc.keys i.arranged, Whole name := by
    intro name hname
    cases he : Assoc.get? name i with
    | none =>
      have hmem : name ∈ Assoc.keys i := ((List.mergeSort_perm i _).map Prod.fst).mem_iff.mp hname
      exact absurd hmem ((Assoc.get?_eq_none_iff i name).mp he)
    | some e => exact (hp name e he).1
  have hbeside := CacheIndex.beside_of_whole hlike hi.arranged.nodup hkeys
  rw [← CacheIndex.get?_arranged hi.nodup]
  refine hbeside.map_get? fun e e' he hr => ?_
  obtain ⟨t, hfp, hfile⟩ := hi.arranged.named name e he
  have hsafe := Sha256.safeText_hex t
  rw [CacheEntry.shown, CacheEntry.untimed, CacheEntry.untimed, hr.fingerprint, hr.resultFile, hr.files, hfp, hfile,
    joined_of_whole (whole_of_safe hsafe), joined_of_whole (whole_of_safe (hsafe.append (by decide)))]

/-- The index has one entry for each name, with names that JSON gives back, and files that it gives back from the
second time on. -/
def Neat (s : Contents) : Prop := ∀ version i, s.index = some (version, i) → Tidy i ∧ HasTexts Whole Settles i

/-- What is found of a neat index. -/
theorem Neat.found (hn : Neat s) {i₀ : CacheIndex} (hi : s.index = some (version, i₀))
    (hfound : s.Found version' i) :
    ∀ name, (Assoc.get? name i).map CacheEntry.untimed = (Assoc.get? name i₀).map CacheEntry.shown := by
  obtain ⟨_, _, hi', hshows⟩ := hfound
  cases hi.symm.trans hi'
  obtain ⟨htidy, hhas⟩ := hn _ _ hi
  exact get?_of_shows hhas htidy hshows

theorem Neat.plain_of_found (hn : Neat s) (hfound : s.Found version i) : Plain i := by
  obtain ⟨v, i₀, hi, -⟩ := id hfound
  intro name e he
  have hsame := hn.found hi hfound name
  rw [he, Option.map_some] at hsame
  obtain ⟨e₀, he₀, hshown⟩ := Option.map_eq_some_iff.mp hsame.symm
  have hfiles : e.files = e₀.files.map joined := congrArg CacheEntry.files hshown.symm
  obtain ⟨hname, hsettles⟩ := (hn v i₀ hi).2 name e₀ he₀
  refine ⟨hname, fun p hp => ?_⟩
  rw [hfiles] at hp
  obtain ⟨q, hq, rfl⟩ := List.mem_map.mp hp
  exact hsettles q hq

/-- Adding a run to the entries that were read. -/
theorem Neat.add (s : Contents) (ht : Tidy i) (hp : Plain i) (hx : x.IsWhole) : Neat (s.add c x i) := by
  intro v j hj
  rw [Contents.index_add] at hj
  cases hj
  exact ⟨ht.put c x, hp.put c hx⟩

/-- **Calls keep the index neat**, as long as the runs that are stored are. -/
theorem Neat.turn (hn : Neat s) {events : List Event} (ht : Turn c version s events s')
    (hw : ∀ x, .stored x ∈ events → x.IsWhole) : Neat s' := by
  cases ht with
  | spared hspared =>
    rcases hspared with rfl | ⟨rfl, -⟩
    · exact hn
    · exact hn
  | cleared hempty =>
    rcases hempty with rfl | rfl
    · exact hn
    · exact nofun
  | added _ _ hl =>
    have hx := hw _ List.mem_cons_self
    rcases hl with ⟨hfound, -⟩ | ⟨rfl, -⟩
    · exact Neat.add _ (hfound.tidy fun v i hi => (hn v i hi).1) (hn.plain_of_found hfound) hx
    · exact Neat.add _ Tidy.nil Plain.nil hx

/-! ## 2. What is read -/

/-- What a cache of some version is given by an index that it can read, and what that leaves: the entries if they
are of this version; if not, or if there are none, no entries and no outcomes. -/
inductive Serves (version : String) (s : Contents) : CacheIndex → Contents → Prop
  /-- The index is of this version. -/
  | found {i : CacheIndex} (h : s.Found version i) : Serves version s i s
  /-- There is no such index. -/
  | lost (h : ∀ i, ¬ s.Found version i) : Serves version s [] s.emptied

theorem Serves.unique {j : CacheIndex} {t : Contents} (h : Serves version s i s') (h' : Serves version s j t) :
    i = j ∧ s' = t := by
  cases h with
  | found hf =>
    cases h' with
    | found hf' => exact ⟨(hf.unique hf').2, rfl⟩
    | lost hn => exact absurd hf (hn _)
  | lost hn =>
    cases h' with
    | found hf' => exact absurd hf' (hn _)
    | lost _ => exact ⟨rfl, rfl⟩

/-- Reading once more gives and leaves the same. -/
theorem Serves.again (h : Serves version s i s') : Serves version s' i s' := by
  cases h with
  | found hf => exact .found hf
  | lost hn => exact .lost hn

theorem Serves.loaded (h : Serves version s i s') : s.Loaded version i s' := by
  cases h with
  | found hf => exact .inl ⟨hf, rfl⟩
  | lost hn => exact .inr ⟨rfl, rfl, fun i hi => absurd hi (hn i)⟩

/-- **Reading the index**, if it can be read. -/
theorem Stocked.exec_loadIndex_served (hs : Stocked c d s h) (hc : c.location.Proper) (hr : Readable c s h)
    (ds : Option Diagnostics) :
    ∃ ended h' i s', exec loadIndex (c.on ds h) = (ended, c.on ds h') ∧ Serves c.version s i s' ∧ Tidy i ∧
      Furnished c d h h' ∧ Stocked c d s' h' ∧ Readable c s' h' ∧
      (ended = .ok i ∨ (i = [] ∧ ∃ e, ended = .error e)) := by
  by_cases hfound : ∃ i, s.Found c.version i
  · obtain ⟨i, hfound⟩ := hfound
    exact ⟨.ok i, h, i, s, hs.exec_loadIndex_found hc hr hfound ds, .found hfound, hs.tidy_of_found hfound,
      Furnished.refl h, hs, hr, .inl rfl⟩
  · have hnone : ∀ i, ¬ s.Found c.version i := fun i hi => hfound ⟨i, hi⟩
    obtain ⟨ended, h', hload, ⟨i, hi, -⟩ | ⟨hended, htended, hs', -⟩⟩ := exec_loadIndex_stocked hc hs ds
    · exact absurd hi (hnone i)
    · refine ⟨ended, h', [], s.emptied, hload, .lost hnone, Tidy.nil, htended.furnished, hs',
        fun i hi => absurd hi (hnone i), ?_⟩
      exact hended.imp id fun he => ⟨rfl, he⟩

/-- **Storing a run that takes effect** adds it to the entries that are read. -/
theorem Stocked.exec_storeEntry_served (hs : Stocked c d s h) (hu : c.InUse) (hr : Readable c s h)
    {o : Outcome} {config : Option Config}
    (hok : (exec (storeEntry name o config) (c.on ds h)).1 = .ok ()) :
    ∃ h' i s' text, exec (storeEntry name o config) (c.on ds h) = (.ok (), c.on ds h') ∧
      Serves c.version s i s' ∧ Tidy i ∧ Furnished c d h h' ∧
      Deposit.material c ⟨c.version, name, config, o, h⟩ = .ok text ∧
      Stocked c d (s'.add c ⟨c.version, name, config, o, h⟩ i) h' ∧
      Readable c (s'.add c ⟨c.version, name, config, o, h⟩ i) h' := by
  obtain ⟨_, _, hexec, -, ⟨-, ⟨text, hm⟩, -⟩ | ⟨⟨e, rfl⟩, -⟩⟩ := exec_storeEntry_stocked hu hs name o config ds
  swap
  · rw [hexec] at hok
    cases hok
  obtain ⟨ended, h₁, i, s₁, hload, hserves, htidy, hf₁, hs₁, -, hended⟩ := hs.exec_loadIndex_served hu.proper hr ds
  rcases hended with rfl | ⟨-, e, rfl⟩
  · obtain ⟨_, h', hexec', htended, ⟨rfl, hadded⟩ | ⟨⟨e, rfl⟩, -⟩⟩ :=
      exec_storeEntry_of_load hu hm hload htidy hs₁
    · refine ⟨h', i, s₁, text, hexec', hserves, htidy, hf₁.trans htended.furnished, hm, hadded, fun j hj => ?_⟩
      -- The outcome that was just stored is there, and so the index can be reached.
      have hthere := Contents.payload_add_self c ⟨c.version, name, config, o, h⟩ i s₁
      rw [Deposit.mark_of_material hm] at hthere
      exact hadded.isFile_of_payload hu.proper (by rw [hthere]; exact Option.some_ne_none _)
    · rw [hexec'] at hok
      cases hok
  · obtain ⟨mark, hfp⟩ : ∃ mark, c.fingerprint h name config (Order.sortedDistinct o.files) = .ok mark := by
      have heq := Deposit.fingerprint_eq hu ⟨c.version, name, config, o, h⟩
      rw [hm] at heq
      exact ⟨_, heq⟩
    have hfails : (exec (storeEntry name o config) (c.on ds h)).1 = .error e := by
      rw [exec_storeEntry_of_fingerprint ds o hfp, storeMarked, exec_bind, hload]
    rw [hok] at hfails
    cases hfails

/-! ## 3. Fingerprints of entries -/

/-- The other entries have fingerprints of their own: neither that of a run nor that of the entry it replaces. -/
def Apart (c : Cache) (x : Deposit) (i : CacheIndex) : Prop :=
  ∀ name e, Assoc.get? name i = some e → name ≠ x.name → e.fingerprint ≠ x.mark c ∧
    ∀ e', Assoc.get? x.name i = some e' → e'.fingerprint ≠ e.fingerprint

/-- Runs with names of this kind. -/
def AllWhole (log : List Event) : Prop := ∀ x, .stored x ∈ log → x.IsWhole

/-- One fingerprint is listed under one name. -/
theorem Tallies.name_of_lists (ht : Tallies c log s) (hw : AllWhole log) (hno : ToldApart (Materials c log))
    (hn : Neat s) (hfound : s.Found version i) {n n' : String} (h : Lists i n mark) (h' : Lists i n' mark) :
    n' = n := by
  have hnames : ∀ x, .stored x ∈ log → Whole x.name := fun x hx => (hw x hx).name
  obtain ⟨v, i₀, hi₀, hiff⟩ := ht.lists_iff hnames (fun v i hi => (hn v i hi).1) hfound
  obtain ⟨y, hy, rfl, rfl⟩ := ht.index v i₀ hi₀ n mark ((hiff _ _).mp h)
  exact (ht.lists_mark_iff hnames hno hi₀ hy ⟨_, (hiff _ _).mp h⟩ n').mp ((hiff _ _).mp h')

/-- **Fingerprints keep the entries apart.** -/
theorem Tallies.apart (ht : Tallies c log s) (hw : AllWhole (.stored x :: log)) (hn : Neat s)
    (hserves : Serves version s i s') (hm : ∃ text, x.material c = .ok text)
    (hno : ToldApart (Materials c (.stored x :: log))) : Apart c x i := by
  have hlog : AllWhole log := fun y hy => hw y (List.mem_cons_of_mem _ hy)
  have hall : ∀ y, .stored y ∈ .stored x :: log → ∃ text, y.material c = .ok text := by
    intro y hy
    rcases List.mem_cons.mp hy with hy | hy
    · cases hy
      exact hm
    · exact ht.material y hy
  intro name e he hne
  cases hserves with
  | lost _ => cases he
  | found hfound =>
    refine ⟨fun hmark => hne ?_, fun e' he' hsame => hne ?_⟩
    · obtain ⟨v, i₀, hi₀, hiff⟩ := ht.lists_iff (fun y hy => (hlog y hy).name) (fun v i hi => (hn v i hi).1) hfound
      obtain ⟨y, hy, rfl, hymark⟩ := ht.index v i₀ hi₀ name _ ((hiff _ _).mp ⟨e, he, rfl⟩)
      have hquote := quote_name_eq_of_mark hall hno (List.mem_cons_of_mem _ hy) List.mem_cons_self
        (hymark.trans hmark)
      exact Json.quote_injective_of_whole (hlog y hy).name (hw x List.mem_cons_self).name hquote
    · exact ht.name_of_lists hlog (hno.materials_mono fun e he => List.mem_cons_of_mem _ he) hn hfound
        ⟨e', he', rfl⟩ ⟨e, he, hsame.symm⟩

/-! ## 4. Entries and outcomes -/

/-- The entries that are read, and their outcomes, are those of the run that was stored last under each name; where
there is none, they are what was there before. -/
structure Sums (c : Cache) (base : CacheIndex) (left : Contents) (last : String → Option Deposit) (i : CacheIndex)
    (s : Contents) : Prop where
  entry : ∀ name, (Assoc.get? name i).map CacheEntry.untimed =
    ((last name).map fun x => (x.entry c).shown).or ((Assoc.get? name base).map CacheEntry.untimed)
  payload : ∀ name e, Assoc.get? name i = some e → (s.payload e.fingerprint).map Deposit.outcome =
    ((last name).map Deposit.outcome).or ((left.payload e.fingerprint).map Deposit.outcome)

section Sums

variable {base : CacheIndex} {left : Contents} {last : String → Option Deposit}

theorem Sums.refl (c : Cache) (i : CacheIndex) (s : Contents) : Sums c i s (fun _ => none) i s :=
  ⟨fun _ => rfl, fun _ _ _ => rfl⟩

/-- A run at another time, with the same fingerprint and the same outcome. -/
structure Deposit.Echoes (c : Cache) (x y : Deposit) : Prop where
  mark : y.mark c = x.mark c
  outcome : y.outcome = x.outcome

theorem Deposit.Echoes.shown (he : x.Echoes c y) : (y.entry c).shown = (x.entry c).shown := by
  simp only [CacheEntry.shown, CacheEntry.untimed, Deposit.entry, Deposit.files, he.mark, he.outcome]

/-- **One more run.** -/
theorem Sums.add (hsum : Sums c base left last i s) (htidy : Tidy i) (hp : Plain i) (hx : x.IsWhole)
    (hapart : Apart c x i) (he : x.Echoes c y) (hfound : (s.add c x i).Found version i') :
    Sums c base left (Function.update last x.name (some y)) i' (s.add c x i) := by
  have hneat := Neat.add (c := c) s htidy hp hx
  have hput := hneat.found (Contents.index_add c x i s) hfound
  simp only [Assoc.get?_put] at hput
  constructor
  · intro name
    rw [hput]
    by_cases hname : x.name = name
    · subst hname
      rw [if_pos rfl, Function.update_self, Option.map_some, Option.map_some, he.shown]
      rfl
    · rw [if_neg hname, hp.shown, Function.update_of_ne (Ne.symm hname)]
      exact hsum.entry name
  · intro name e' he'
    have hsame := hput name
    rw [he', Option.map_some] at hsame
    by_cases hname : x.name = name
    · subst hname
      rw [if_pos rfl, Option.map_some] at hsame
      have hmark : e'.fingerprint = x.mark c := by
        have hboth : e'.untimed.fingerprint = (x.entry c).shown.fingerprint := by rw [Option.some.inj hsame]
        exact hboth
      rw [hmark, Contents.payload_add_self, Function.update_self, Option.map_some, Option.map_some, he.outcome]
      rfl
    · rw [if_neg hname, hp.shown] at hsame
      obtain ⟨e, hget, heq⟩ := Option.map_eq_some_iff.mp hsame.symm
      have hmark : e.fingerprint = e'.fingerprint := (CacheEntry.untimed_eq_iff.mp heq).1
      obtain ⟨hother, hreplaced⟩ := hapart name e hget (Ne.symm hname)
      rw [← hmark, Contents.payload_add_of_ne s hother, if_neg fun ⟨e₂, he₂, hfp⟩ => hreplaced e₂ he₂ hfp,
        Function.update_of_ne (Ne.symm hname)]
      exact hsum.payload name e hget

/-- What contents have become, with the run that was stored last under each name, and whether the index was read:
without either they are what they were; without runs, what reading has left; and otherwise the runs add up to what
is read of them. -/
structure AddsUp (c : Cache) (start : Contents) (last : String → Option Deposit) (read : Prop) (s : Contents) :
    Prop where
  sums : ∃ base left i s', Serves c.version start base left ∧ Serves c.version s i s' ∧ Sums c base left last i s'
  untouched : (∀ name, last name = none) → ¬ read → s = start
  read : (∀ name, last name = none) → read → ∃ base, Serves c.version start base s
  stored : (∃ name, last name ≠ none) → ∃ i, s.Found c.version i

variable {start : Contents} {read read' : Prop}

theorem exists_serves (version : String) (s : Contents) : ∃ i s', Serves version s i s' := by
  by_cases hfound : ∃ i, s.Found version i
  · obtain ⟨i, hi⟩ := hfound
    exact ⟨i, s, .found hi⟩
  · exact ⟨[], s.emptied, .lost fun i hi => hfound ⟨i, hi⟩⟩

theorem AddsUp.refl (c : Cache) (start : Contents) : AddsUp c start (fun _ => none) False start := by
  obtain ⟨i, s', hs⟩ := exists_serves c.version start
  exact ⟨⟨i, s', i, s', hs, hs, Sums.refl c i s'⟩, fun _ _ => rfl, fun _ => False.elim,
    fun ⟨_, hne⟩ => absurd rfl hne⟩

/-- Reading the index. -/
theorem AddsUp.reading (ha : AddsUp c start last read s) (hs : Serves c.version s i s') :
    AddsUp c start last True s' := by
  obtain ⟨base, left, j, t, hbase, hserves, hsum⟩ := ha.sums
  obtain ⟨rfl, rfl⟩ := hs.unique hserves
  refine ⟨⟨base, left, i, s', hbase, hs.again, hsum⟩, fun _ hread => absurd trivial hread, fun hnone _ => ?_,
    fun hsome => ?_⟩
  · by_cases hread : read
    · obtain ⟨base', hserved⟩ := ha.read hnone hread
      obtain ⟨-, rfl⟩ := hserved.again.unique hs
      exact ⟨base', hserved⟩
    · obtain rfl := ha.untouched hnone hread
      exact ⟨i, hs⟩
  · obtain ⟨k, hk⟩ := ha.stored hsome
    cases hs with
    | found hf => exact ⟨_, hf⟩
    | lost hn => exact absurd hk (hn k)

theorem exists_found_add (hv : x.version = c.version) (hversion : Whole c.version) (i : CacheIndex) (s : Contents) :
    ∃ i', (s.add c x i).Found c.version i' :=
  exists_found (hv ▸ Contents.index_add c x i s) hversion

/-- Storing a run. -/
theorem AddsUp.storing (ha : AddsUp c start last read s) (hs : Serves c.version s i s') (htidy : Tidy i)
    (hp : Plain i) (hx : x.IsWhole) (hapart : Apart c x i) (he : x.Echoes c y) (hv : x.version = c.version)
    (hversion : Whole c.version) :
    AddsUp c start (Function.update last x.name (some y)) read (s'.add c x i) := by
  obtain ⟨base, left, j, t, hbase, hserves, hsum⟩ := ha.sums
  obtain ⟨rfl, rfl⟩ := hs.unique hserves
  obtain ⟨i', hfound⟩ := exists_found_add hv hversion i s'
  have hself : Function.update last x.name (some y) x.name ≠ none := by
    rw [Function.update_self]
    exact Option.some_ne_none y
  exact ⟨⟨base, left, _, _, hbase, .found hfound, hsum.add htidy hp hx hapart he hfound⟩,
    fun hnone => absurd (hnone _) hself, fun hnone => absurd (hnone _) hself, fun _ => ⟨_, hfound⟩⟩

/-! ## 5. Contents that agree -/

/-- The same index and the same outcomes, the times of the entries aside. -/
structure Agrees (s s' : Contents) : Prop where
  index : (s.index = none ∧ s'.index = none) ∨ ∃ version i i', s.Found version i ∧ s'.Found version i' ∧
    ∀ name, (Assoc.get? name i').map CacheEntry.untimed = (Assoc.get? name i).map CacheEntry.untimed
  payload : ∀ t, (s'.payload (Sha256.hex t)).map Deposit.outcome = (s.payload (Sha256.hex t)).map Deposit.outcome

theorem Agrees.refl (s : Contents) : Agrees s s := by
  refine ⟨?_, fun _ => rfl⟩
  cases hi : s.index with
  | none => exact .inl ⟨rfl, rfl⟩
  | some x =>
    obtain ⟨bs, -, hshows⟩ := CacheIndex.exists_shows x.1 x.2
    have hfound : s.Found (joined x.1) (Assoc.putAll [] bs) := ⟨x.1, x.2, hi, hshows⟩
    exact .inr ⟨_, _, _, hfound, hfound, fun _ => rfl⟩

/-- Every outcome is that of an entry, and so it is one of those that add up. -/
theorem Sums.payload_of_sums {i' : CacheIndex} (hsum : Sums c base left last i s) (hsum' : Sums c base left last i' s')
    (ht : Tallies c log s) (hw : AllWhole log) (hn : Neat s) (hfound : s.Found version i) {t : String} {o : Outcome}
    (ho : (s.payload (Sha256.hex t)).map Deposit.outcome = some o) :
    (s'.payload (Sha256.hex t)).map Deposit.outcome = some o := by
  obtain ⟨z, hz, rfl⟩ := Option.map_eq_some_iff.mp ho
  obtain ⟨v, i₀, name, hi₀, hlists⟩ := ht.payload t z hz
  obtain ⟨_, _, hi₀', hiff⟩ := ht.lists_iff (fun y hy => (hw y hy).name) (fun v i hi => (hn v i hi).1) hfound
  cases hi₀.symm.trans hi₀'
  obtain ⟨e, he, hmark⟩ := (hiff name _).mpr hlists
  have hsame := (hsum'.entry name).trans (hsum.entry name).symm
  rw [he, Option.map_some] at hsame
  obtain ⟨e', he', heq⟩ := Option.map_eq_some_iff.mp hsame
  have hmark' : e'.fingerprint = e.fingerprint := (CacheEntry.untimed_eq_iff.mp heq).1
  have hpayload := hsum'.payload name e' he'
  rw [hmark', ← hsum.payload name e he, hmark, ho] at hpayload
  exact hpayload

/-- **What adds up in the same way agrees.** -/
theorem AddsUp.agrees {log' : List Event} (ha : AddsUp c start last read s) (ha' : AddsUp c start last read' s')
    (hread : read ↔ read') (ht : Tallies c log s) (ht' : Tallies c log' s') (hw : AllWhole log)
    (hw' : AllWhole log') (hn : Neat s) (hn' : Neat s') : Agrees s s' := by
  by_cases hnone : ∀ name, last name = none
  · have hsame : s = s' := by
      by_cases hr : read
      · obtain ⟨_, hs⟩ := ha.read hnone hr
        obtain ⟨_, hs'⟩ := ha'.read hnone (hread.mp hr)
        exact (hs.unique hs').2
      · exact (ha.untouched hnone hr).trans (ha'.untouched hnone fun hr' => hr (hread.mpr hr')).symm
    exact hsame ▸ Agrees.refl s
  · have hsome : ∃ name, last name ≠ none := not_forall.mp hnone
    obtain ⟨i, hfound⟩ := ha.stored hsome
    obtain ⟨i', hfound'⟩ := ha'.stored hsome
    obtain ⟨base, left, _, _, hbase, hserves, hsum⟩ := ha.sums
    obtain ⟨base', left', _, _, hbase', hserves', hsum'⟩ := ha'.sums
    obtain ⟨rfl, rfl⟩ := hbase.unique hbase'
    obtain ⟨rfl, rfl⟩ := hserves.unique (.found hfound)
    obtain ⟨rfl, rfl⟩ := hserves'.unique (.found hfound')
    refine ⟨.inr ⟨_, _, _, hfound, hfound', fun name => (hsum'.entry name).trans (hsum.entry name).symm⟩, fun t => ?_⟩
    refine Option.ext fun o => ⟨fun ho => ?_, fun ho => ?_⟩
    · exact hsum'.payload_of_sums hsum ht' hw' hn' hfound' ho
    · exact hsum.payload_of_sums hsum' ht hw hn hfound ho

end Sums

/-! ## 6. Directories that hold the same -/

/-- The index that the bytes of a file hold: its version and its entries. -/
def indexOfBytes? (bytes : List UInt8) : Option (String × CacheIndex) :=
  match Utf8.decode bytes with
  | .error _ => none
  | .ok text =>
    match Json.read (Utf8.universalNewlines text) with
    | .error _ => none
    | .ok w =>
      match Entries.get "version" (w.map?.getD []), Entries.get? "entries" (w.map?.getD []) with
      | .text version, some (.map es) => (CacheIndex.ofEntries [] es).toOption.map (version, ·)
      | _, _ => none

/-- The index in a directory: its version and its entries. -/
def indexIn (d : Place) (h : Host) : Option (String × CacheIndex) :=
  match h.tree.node? (indexPlace d) with
  | some (.file bytes _) => indexOfBytes? bytes
  | _ => none

/-- A file with these bytes is at a place. -/
def HasBytes (h : Host) (q : Place) (bytes : List UInt8) : Prop := ∃ m, h.tree.node? q = some (.file bytes m)

/-- Two hosts hold the same in the directory of a cache, the times of the entries aside. -/
structure SameStock (d : Place) (h h' : Host) : Prop where
  /-- Neither has an index, or both have one of the same version with the same entries. -/
  index : (∀ bytes, ¬ HasBytes h (indexPlace d) bytes ∧ ¬ HasBytes h' (indexPlace d) bytes) ∨
    ∃ version i i', indexIn d h = some (version, i) ∧ indexIn d h' = some (version, i') ∧
      ∀ name, (Assoc.get? name i').map CacheEntry.untimed = (Assoc.get? name i).map CacheEntry.untimed
  /-- All other files are the same. -/
  others : ∀ q bytes, d <+: q → q ≠ indexPlace d → (HasBytes h' q bytes ↔ HasBytes h q bytes)

theorem Held.hasBytes_iff {q : Place} {o : Option Value} (hh : Held h q o) {bytes : List UInt8} :
    HasBytes h q bytes ↔ ∃ v text, o = some v ∧ Json.writePretty v = .ok text ∧ bytes = Utf8.encode text := by
  constructor
  · rintro ⟨m, hm⟩
    exact hh.exists_of_file hm
  · rintro ⟨v, text, rfl, hw, rfl⟩
    obtain ⟨text', m, hw', hm⟩ := hh
    obtain rfl : text = text' := Except.ok.inj (hw.symm.trans hw')
    exact ⟨m, hm⟩

/-- **The index in the directory** is what is found of the contents. -/
theorem Stocked.indexIn_eq_some_iff (hs : Stocked c d s h) : indexIn d h = some (version, i) ↔ s.Found version i := by
  have hheld := hs.index
  cases hi : s.index with
  | none =>
    rw [hi] at hheld
    have hnone : indexIn d h = none := by
      unfold indexIn
      split
      · rename_i bytes m hm
        exact absurd hm (hheld bytes m)
      · rfl
    rw [hnone]
    refine ⟨nofun, fun ⟨_, _, hsome, _⟩ => ?_⟩
    rw [hi] at hsome
    cases hsome
  | some y =>
    obtain ⟨v, i₀⟩ := y
    rw [hi] at hheld
    obtain ⟨text, m, hw, hm⟩ := hheld
    obtain ⟨bs, -, w, hread, hholds⟩ := CacheIndex.exists_shows v i₀
    have hfound : s.Found (joined v) (Assoc.putAll [] bs) := ⟨v, i₀, hi, w, hread, hholds⟩
    have hsafe : Json.SafeText text := Json.safeText_writeAt rfl _ 0 text hw
    have heq : indexIn d h = some (joined v, Assoc.putAll [] bs) := by
      obtain ⟨hversion, es, hes, hentries⟩ := hholds
      simp only [indexIn, hm, indexOfBytes?, Json.decode_encode hsafe, Json.universalNewlines_of_safe hsafe,
        hread text hw, hversion, hes, hentries]
      rfl
    rw [heq, Option.some.injEq, Prod.mk.injEq]
    constructor
    · rintro ⟨rfl, rfl⟩
      exact hfound
    · exact fun hfound' => hfound.unique hfound'

/-- The file of an outcome is the same if the outcome is. -/
theorem Stocked.hasBytes_payload_iff (hs : Stocked c d s h) (hs' : Stocked c d s' h') {t : String}
    (hsame : (s'.payload (Sha256.hex t)).map Deposit.outcome = (s.payload (Sha256.hex t)).map Deposit.outcome)
    {bytes : List UInt8} :
    HasBytes h' (payloadPlace d (Sha256.hex t)) bytes ↔ HasBytes h (payloadPlace d (Sha256.hex t)) bytes := by
  have hvalue : ∀ x : Option Deposit,
      x.map (fun x => x.outcome.toValue) = (x.map Deposit.outcome).map Outcome.toValue :=
    fun x => by rw [Option.map_map]; rfl
  have hheld := hs'.payload t
  rw [hvalue, hsame, ← hvalue] at hheld
  rw [hheld.hasBytes_iff, (hs.payload t).hasBytes_iff]

/-- A file other than the index is the same if the outcomes are. -/
theorem Stocked.hasBytes_of_payload (hs : Stocked c d s h) (hs' : Stocked c d s' h')
    (hsame : ∀ t, (s'.payload (Sha256.hex t)).map Deposit.outcome = (s.payload (Sha256.hex t)).map Deposit.outcome)
    {q : Place} {bytes : List UInt8} (hq : d <+: q) (hne : q ≠ indexPlace d) (hb : HasBytes h q bytes) :
    HasBytes h' q bytes := by
  obtain ⟨m, hm⟩ := id hb
  rcases hs.only q bytes m hq hm with rfl | ⟨t, rfl⟩
  · exact absurd rfl hne
  · exact (hs.hasBytes_payload_iff hs' (hsame t)).mpr hb

/-- **Directories hold the same** if their contents agree. -/
theorem Agrees.sameStock (ha : Agrees s s') (hs : Stocked c d s h) (hs' : Stocked c d s' h') : SameStock d h h' := by
  refine ⟨?_, fun q bytes hq hne => ⟨fun hb => ?_, fun hb => ?_⟩⟩
  · rcases ha.index with ⟨hi, hi'⟩ | ⟨version, i, i', hfound, hfound', hsame⟩
    · left
      have hheld := hs.index
      have hheld' := hs'.index
      rw [hi] at hheld
      rw [hi'] at hheld'
      exact fun bytes => ⟨fun ⟨m, hm⟩ => hheld bytes m hm, fun ⟨m, hm⟩ => hheld' bytes m hm⟩
    · exact .inr ⟨version, i, i', hs.indexIn_eq_some_iff.mpr hfound, hs'.indexIn_eq_some_iff.mpr hfound', hsame⟩
  · exact hs'.hasBytes_of_payload hs (fun t => (ha.payload t).symm) hq hne hb
  · exact hs.hasBytes_of_payload hs' ha.payload hq hne hb

/-- **The index is neat at every point of a ledger**, and the tallies are right. -/
theorem Ledger.neat (hu : c.InUse) (hl : Ledger c d log h) (hw : AllWhole log) :
    ∃ s, Stocked c d s h ∧ Tallies c log s ∧ Neat s := by
  obtain ⟨s, hs, hall⟩ := hl.exists_contents (P := fun log s => AllWhole log → Tallies c log s ∧ Neat s) hu
    (fun _ => ⟨tallies_nothing nofun, nofun⟩) fun htidy hall hturn hw => by
      have hlog : AllWhole _ := fun x hx => hw x (List.mem_append_right _ hx)
      obtain ⟨ht, hn⟩ := hall hlog
      exact ⟨ht.turn (fun x hx => (hlog x hx).name) htidy hturn,
        hn.turn hturn fun x hx => hw x (List.mem_append_left _ hx)⟩
  exact ⟨s, hs, hall hw⟩

end Cache

end AgentLint
