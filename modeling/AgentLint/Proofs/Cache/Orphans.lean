import AgentLint.Proofs.Cache.Retention

/-!
# No outcome is left behind

Storing a run writes its outcome, then the index, and then removes the outcome that the run replaces.  Any call,
reading or writing, that finds an index of another version clears the outcomes away and leaves the index as it is.
What stays true is that an outcome is there only if the index has its fingerprint (`Tallies.turn`, for one call, and
`Ledger.tallies`, from the start).

Nothing is assumed of what a written index reads back as: times, files and even the version may come back otherwise.
It is enough that the names come back, and they do unless one of them holds the halves of a surrogate pair one
behind the other, as JSON has one text for those and for the character that they make.

With fingerprints that tell runs apart, each outcome then belongs to exactly one entry, that of its validator
(`outcomes_of_ledger`).  Under the name of two such halves an outcome may be left behind
(`outcome_of_two_halves_left`).
-/

namespace AgentLint

-- Digests are compared here; those that are computed are left to the kernel.
attribute [local irreducible] Sha256.hex

open Text

namespace Cache

variable {c : Cache} {d : Place} {s s' : Contents} {h : Host} {ds : Option Diagnostics} {log : List Event}
  {version version' name mark : String} {i i' : CacheIndex}

/-! ## 1. The index that is there -/

/-- The index of a cache: its version and its entries. -/
def index? (c : Cache) (h : Host) : Option (String × CacheIndex) :=
  match h.readJson c.indexPath.text with
  | .error _ => none
  | .ok w =>
    match Entries.get "version" (w.map?.getD []), Entries.get? "entries" (w.map?.getD []) with
    | .text version, some (.map es) => (CacheIndex.ofEntries [] es).toOption.map (version, ·)
    | _, _ => none

theorem index?_eq_some_iff :
    c.index? h = some (version, i) ↔
      ∃ w, h.readJson c.indexPath.text = .ok w ∧ CacheIndex.Holds w version i := by
  constructor
  · intro hi
    unfold index? at hi
    split at hi
    · cases hi
    · rename_i w hw
      split at hi
      · rename_i v es hversion hes
        obtain ⟨i', hi', hpair⟩ := Option.map_eq_some_iff.mp hi
        cases hpair
        exact ⟨w, hw, hversion, es, hes, eq_ok_of_toOption hi'⟩
      · cases hi
  · rintro ⟨w, hw, hversion, es, hes, hi⟩
    unfold index?
    rw [hw]
    simp only [hversion, hes, hi]
    rfl

/-- Where an outcome is, the index is there and read. -/
theorem Stocked.exists_index? (hs : Stocked c d s h) (hc : c.location.Proper) {t : String} {x : Deposit}
    (hx : s.payload (Sha256.hex t) = some x) : ∃ v i, c.index? h = some (v, i) ∧ s.Found v i := by
  have hne : s.payload (Sha256.hex t) ≠ none := by simp [hx]
  obtain ⟨ho, hr⟩ := hs.reach t hne
  obtain ⟨y, hy⟩ := Option.ne_none_iff_exists'.mp fun hi => hne (hs.indexed hi t)
  obtain ⟨w, v, i, hw, hfound, hholds⟩ := hs.readJson_index hc (hs.isFile_index hc ho hr hy)
  exact ⟨v, i, index?_eq_some_iff.mpr ⟨w, hw, hholds⟩, hfound⟩

/-! ## 2. Entries and their fingerprints -/

/-- An index has an entry for a validator, with a fingerprint. -/
def Lists (i : CacheIndex) (name mark : String) : Prop :=
  ∃ e, Assoc.get? name i = some e ∧ e.fingerprint = mark

theorem lists_put_iff {e : CacheEntry} {n : String} :
    Lists (Assoc.put n e i) name mark ↔
      (n = name ∧ e.fingerprint = mark) ∨ (n ≠ name ∧ Lists i name mark) := by
  simp only [Lists, Assoc.get?_put]
  by_cases hn : n = name <;> simp [hn]

/-- A fingerprint is named by the file of its entry. -/
theorem Tidy.lists_iff (hi : Tidy i) :
    Lists i name mark ↔ ∃ e, Assoc.get? name i = some e ∧ e.resultFile = mark ++ ".json" := by
  refine exists_congr fun e => and_congr_right fun he => ?_
  obtain ⟨t, hfp, hfile⟩ := hi.named name e he
  rw [hfp, hfile, String.append_left_inj]

theorem Tidy.fingerprint_eq (hi : Tidy i) {e e' : CacheEntry} (he : Assoc.get? name i = some e)
    (hr : e.Resembles e') : e'.fingerprint = e.fingerprint := by
  obtain ⟨t, hfp, -⟩ := hi.named name e he
  rw [hr.fingerprint, hfp, joined_of_whole (whole_of_safe (Sha256.safeText_hex t))]

/-- **Names and fingerprints come back** when an index is read, whatever else does not. -/
theorem lists_iff_of_shows (hi : Tidy i) (hw : ∀ name ∈ Assoc.keys i, Whole name)
    (hs : CacheIndex.Shows version i version' i') : Lists i' name mark ↔ Lists i name mark := by
  obtain ⟨bs, hlike, hs'⟩ := CacheIndex.exists_shows version i
  obtain ⟨-, rfl⟩ := hs.unique hs'
  have hkeys : ∀ name ∈ Assoc.keys i.arranged, Whole name := fun name hname =>
    hw name (((List.mergeSort_perm i _).map Prod.fst).mem_iff.mp hname)
  have hbeside := CacheIndex.beside_of_whole hlike hi.arranged.nodup hkeys
  constructor
  · rintro ⟨e', he', rfl⟩
    obtain ⟨e, he, hr⟩ := hbeside.swap.get?_eq_some he'
    have hfp := hi.arranged.fingerprint_eq he hr
    rw [CacheIndex.get?_arranged hi.nodup] at he
    exact ⟨e, he, hfp.symm⟩
  · rintro ⟨e, he, rfl⟩
    rw [← CacheIndex.get?_arranged hi.nodup] at he
    obtain ⟨e', he', hr⟩ := hbeside.get?_eq_some he
    exact ⟨e', he', hi.arranged.fingerprint_eq he hr⟩

/-! ## 3. The tallies -/

/-- What the contents have to do with the log: every run in it has a fingerprint, the entries of the index are of
such runs, and there is an entry for every outcome. -/
structure Tallies (c : Cache) (log : List Event) (s : Contents) : Prop where
  material : ∀ x, .stored x ∈ log → ∃ text, x.material c = .ok text
  index : ∀ v i, s.index = some (v, i) → ∀ name mark, Lists i name mark →
    ∃ x, .stored x ∈ log ∧ x.name = name ∧ x.mark c = mark
  payload : ∀ t x, s.payload (Sha256.hex t) = some x →
    ∃ v i name, s.index = some (v, i) ∧ Lists i name (Sha256.hex t)

theorem Tallies.whole (ht : Tallies c log s) (hw : ∀ x, .stored x ∈ log → Whole x.name)
    (hi : s.index = some (version, i)) (htidy : Tidy i) : ∀ name ∈ Assoc.keys i, Whole name := by
  intro name hname
  obtain ⟨⟨_, e⟩, he, rfl⟩ := List.mem_map.mp hname
  obtain ⟨x, hx, rfl, -⟩ := ht.index _ _ hi _ e.fingerprint ⟨e, Assoc.get?_of_mem htidy.nodup he, rfl⟩
  exact hw x hx

/-- What is read lists the runs that were written. -/
theorem Tallies.lists_iff (ht : Tallies c log s) (hw : ∀ x, .stored x ∈ log → Whole x.name)
    (htidy : ∀ v i, s.index = some (v, i) → Tidy i) (hfound : s.Found version i) :
    ∃ v i₀, s.index = some (v, i₀) ∧ ∀ name mark, Lists i name mark ↔ Lists i₀ name mark := by
  obtain ⟨v, i₀, hi₀, hshows⟩ := hfound
  have htidy₀ := htidy v i₀ hi₀
  exact ⟨v, i₀, hi₀, fun name mark => lists_iff_of_shows htidy₀ (ht.whole hw hi₀ htidy₀) hshows⟩

theorem Tallies.emptied (ht : Tallies c log s) : Tallies c log s.emptied :=
  ⟨ht.material, ht.index, fun _ _ hx => (by cases hx)⟩

theorem tallies_nothing (hm : ∀ x, .stored x ∈ log → ∃ text, x.material c = .ok text) :
    Tallies c log ⟨none, fun _ => none⟩ :=
  ⟨hm, fun _ _ hi => (by cases hi), fun _ _ hx => (by cases hx)⟩

/-- Events more. -/
theorem Tallies.mono {log' : List Event} (ht : Tallies c log s) (hlog : ∀ e ∈ log, e ∈ log')
    (hm : ∀ x, .stored x ∈ log' → ∃ text, x.material c = .ok text) : Tallies c log' s := by
  refine ⟨hm, fun v i hi name mark hlists => ?_, ht.payload⟩
  obtain ⟨x, hx, hrest⟩ := ht.index v i hi name mark hlists
  exact ⟨x, hlog _ hx, hrest⟩

/-- Adding a run to the entries that were read. -/
theorem Tallies.add (ht : Tallies c log s) (hw : ∀ x, .stored x ∈ log → Whole x.name)
    (htidy : ∀ v i, s.index = some (v, i) → Tidy i) (hl : s.Loaded version i s') {x : Deposit}
    (hm : ∃ text, x.material c = .ok text) : Tallies c (.stored x :: log) (s'.add c x i) := by
  have hindex := Contents.index_add c x i s'
  refine ⟨fun y hy => ?_, fun v j hj name mark hlists => ?_, fun t y hy => ?_⟩
  · rcases List.mem_cons.mp hy with hy | hy
    · cases hy
      exact hm
    · exact ht.material y hy
  · cases hindex.symm.trans hj
    rcases lists_put_iff.mp hlists with ⟨hname, hmark⟩ | ⟨-, hlists⟩
    · exact ⟨x, List.mem_cons_self, hname, hmark⟩
    · rcases hl with ⟨hfound, -⟩ | ⟨rfl, -⟩
      · obtain ⟨v, i₀, hi₀, hiff⟩ := ht.lists_iff hw htidy hfound
        obtain ⟨y, hy, hrest⟩ := ht.index v i₀ hi₀ name mark ((hiff name mark).mp hlists)
        exact ⟨y, List.mem_cons_of_mem _ hy, hrest⟩
      · obtain ⟨e, he, -⟩ := hlists
        cases he
  · by_cases hmark : Sha256.hex t = x.mark c
    · exact ⟨_, _, x.name, hindex, lists_put_iff.mpr (.inl ⟨rfl, hmark.symm⟩)⟩
    · rw [Contents.payload_add_of_ne s' hmark] at hy
      split at hy
      · cases hy
      · rename_i hkept
        rcases hl with ⟨hfound, rfl⟩ | ⟨-, rfl, -⟩
        · obtain ⟨v, i₀, name, hi₀, hlists⟩ := ht.payload t y hy
          obtain ⟨v', i₀', hi₀', hiff⟩ := ht.lists_iff hw htidy hfound
          cases hi₀.symm.trans hi₀'
          rw [← hiff] at hlists
          -- The entry that the run replaces had another fingerprint, as the outcome is still there.
          refine ⟨_, _, name, hindex, lists_put_iff.mpr (.inr ⟨fun hname => hkept ?_, hlists⟩)⟩
          rwa [hname]
        · cases hy

/-- **A call keeps the tallies**, whatever it is and of whatever version. -/
theorem Tallies.turn (ht : Tallies c log s) (hw : ∀ x, .stored x ∈ log → Whole x.name)
    (htidy : ∀ v i, s.index = some (v, i) → Tidy i) {events : List Event}
    (hturn : Turn c version s events s') : Tallies c (events ++ log) s' := by
  cases hturn with
  | spared hspared =>
    rcases hspared with rfl | ⟨rfl, -⟩
    · exact ht
    · exact ht.emptied
  | added _ hm hl => exact ht.add hw htidy hl hm
  | cleared hempty =>
    have hm : ∀ x, .stored x ∈ .cleared :: log → ∃ text, x.material c = .ok text := fun x hx =>
      ht.material x ((List.mem_cons.mp hx).resolve_left nofun)
    rcases hempty with rfl | rfl
    · exact ht.emptied.mono (fun e he => List.mem_cons_of_mem _ he) hm
    · exact tallies_nothing hm

/-- **The tallies are right at every point of a ledger.** -/
theorem Ledger.tallies (hu : c.InUse) (hl : Ledger c d log h) (hw : ∀ x, .stored x ∈ log → Whole x.name) :
    ∃ s, Stocked c d s h ∧ Tallies c log s := by
  obtain ⟨s, hs, ht⟩ := hl.exists_contents
    (P := fun log s => (∀ x, .stored x ∈ log → Whole x.name) → Tallies c log s) hu
    (fun _ => tallies_nothing nofun) fun htidy ht hturn hw =>
      (ht fun x hx => hw x (List.mem_append_right _ hx)).turn (fun x hx => hw x (List.mem_append_right _ hx)) htidy hturn
  exact ⟨s, hs, ht hw⟩

/-! ## 4. Outcomes and entries -/

/-- An index lists one run under a fingerprint. -/
theorem Tallies.lists_mark_iff (ht : Tallies c log s) (hw : ∀ x, .stored x ∈ log → Whole x.name)
    (hno : ToldApart (Materials c log)) (hi : s.index = some (version, i)) {x : Deposit} (hx : .stored x ∈ log)
    (hlists : ∃ name, Lists i name (x.mark c)) (name : String) : Lists i name (x.mark c) ↔ name = x.name := by
  have hname : ∀ name, Lists i name (x.mark c) → name = x.name := by
    intro name hn
    obtain ⟨y, hy, rfl, hmark⟩ := ht.index version i hi name _ hn
    exact Json.quote_injective_of_whole (hw y hy) (hw x hx) (quote_name_eq_of_mark ht.material hno hy hx hmark)
  refine ⟨hname name, ?_⟩
  rintro rfl
  obtain ⟨n, hn⟩ := hlists
  rwa [hname n hn] at hn

/-- The outcome of a run is there. -/
def Kept (c : Cache) (d : Place) (h : Host) (x : Deposit) : Prop :=
  ∃ bytes m, h.tree.node? (payloadPlace d (x.mark c)) = some (.file bytes m)

/-- Whose outcome is there, the index has an entry for it, and no other entry names that file. -/
theorem Stocked.exists_index_of_kept (hu : c.InUse) (hs : Stocked c d s h) (ht : Tallies c log s)
    (hw : ∀ x, .stored x ∈ log → Whole x.name) (hno : ToldApart (Materials c log)) {x : Deposit}
    (hx : .stored x ∈ log) (hk : Kept c d h x) :
    ∃ v i, c.index? h = some (v, i) ∧
      ∀ name, (∃ e, Assoc.get? name i = some e ∧ e.resultFile = x.mark c ++ ".json") ↔ name = x.name := by
  obtain ⟨text, hm⟩ := ht.material x hx
  obtain ⟨bytes, m, hnode⟩ := hk
  have hmark := Deposit.mark_of_material hm
  rw [hmark] at hnode
  obtain ⟨_, _, hsome, -⟩ := (hs.payload text).exists_of_file hnode
  obtain ⟨y, hy, -⟩ := Option.map_eq_some_iff.mp hsome
  obtain ⟨v, i, hi, hfound⟩ := hs.exists_index? hu.proper hy
  obtain ⟨v₀, i₀, hi₀, hiff⟩ := ht.lists_iff hw hs.tidy hfound
  obtain ⟨_, _, n, hi₀', hn⟩ := ht.payload text y hy
  cases hi₀.symm.trans hi₀'
  rw [← hmark] at hn
  refine ⟨v, i, hi, fun name => ?_⟩
  rw [← (hs.tidy_of_found hfound).lists_iff, hiff]
  exact ht.lists_mark_iff hw hno hi₀ hx ⟨n, hn⟩ name

/-- **No outcome is left behind**: after any calls of caches of any versions there is nothing in the directory but
directories, the index, and outcomes of runs that were stored; the file of each outcome is that of exactly one entry
of the index, the entry of its validator; and so there is one outcome for a validator at most.  Names are any texts
that JSON tells apart: halves of surrogate pairs may be in them, but not the two of a pair side by side. -/
theorem outcomes_of_ledger (hu : c.InUse) (hl : Ledger c d log h) (hw : ∀ x, .stored x ∈ log → Whole x.name)
    (hno : ToldApart (Materials c log)) :
    (∀ q n, d <+: q → h.tree.node? q = some n → n.isDirectory = true ∨ q = indexPlace d ∨
      ∃ x v i, .stored x ∈ log ∧ q = payloadPlace d (x.mark c) ∧ c.index? h = some (v, i) ∧
        ∀ name, (∃ e, Assoc.get? name i = some e ∧ e.resultFile = x.mark c ++ ".json") ↔ name = x.name) ∧
    ∀ x y, .stored x ∈ log → .stored y ∈ log → x.name = y.name → Kept c d h x → Kept c d h y →
      x.mark c = y.mark c := by
  obtain ⟨s, hs, ht⟩ := hl.tallies hu hw
  have hkept := fun x hx hk => hs.exists_index_of_kept (x := x) hu ht hw hno hx hk
  constructor
  · intro q n hq hn
    cases n with
    | dir m | shut m => exact .inl rfl
    | link target m => exact absurd hn (hs.shelf.noLinks q target m hq)
    | file bytes m =>
      rcases hs.only q bytes m hq hn with rfl | ⟨t, rfl⟩
      · exact .inr (.inl rfl)
      · obtain ⟨_, _, hsome, -⟩ := (hs.payload t).exists_of_file hn
        obtain ⟨y, hy, -⟩ := Option.map_eq_some_iff.mp hsome
        obtain ⟨v₀, i₀, name, hi₀, hlists⟩ := ht.payload t y hy
        obtain ⟨x, hx, -, hmark⟩ := ht.index v₀ i₀ hi₀ name _ hlists
        rw [← hmark] at hn ⊢
        obtain ⟨v, i, hi, hentry⟩ := hkept x hx ⟨bytes, m, hn⟩
        exact .inr (.inr ⟨x, v, i, hx, rfl, hi, hentry⟩)
  · intro x y hx hy hname hkx hky
    obtain ⟨v, i, hi, hxentry⟩ := hkept x hx hkx
    obtain ⟨_, _, hi', hyentry⟩ := hkept y hy hky
    cases hi.symm.trans hi'
    obtain ⟨e, he, hefile⟩ := (hxentry x.name).mpr rfl
    obtain ⟨e', he', hefile'⟩ := (hyentry x.name).mpr hname
    cases he.symm.trans he'
    exact (String.append_left_inj _).mp (hefile.symm.trans hefile')

theorem outcomes_of_small_ledger :
    ∃ v i, (plainCache "a").index? (plainEnd "a") = some (v, i) ∧
      ∀ name, (∃ e, Assoc.get? name i = some e ∧ e.resultFile = plainMark ++ ".json") ↔ name = "v" := by
  have hdir : "a" ∈ ["a", "g"] := List.mem_cons_self
  have hu := inUse_plainCache hdir
  have hw : ∀ x : Deposit, .stored x ∈ [Event.stored plainRun] → Whole x.name := by
    intro x hx
    cases List.mem_singleton.mp hx
    decide
  obtain ⟨s, hs, -, hp, -⟩ := (ledger_plainHost hdir).exists_present hu
    ((legible_plainRun "a").mono nofun) (events_plainCall hdir)
  have hheld := hs.payload plainText
  rw [← Deposit.mark_of_material (material_plainRun "a"), hp.payload] at hheld
  obtain ⟨text, m, -, hnode⟩ := hheld
  obtain ⟨hall, -⟩ := outcomes_of_ledger hu (ledger_plainEnd hdir) hw (toldApart_plainRun "a")
  rcases hall _ _ (List.prefix_append _ _) hnode with hdirectory | hindex | ⟨x, v, i, hx, -, hi, hentry⟩
  · cases hdirectory
  · exact absurd hindex.symm (indexPlace_ne_payloadPlace _ _)
  · cases List.mem_singleton.mp hx
    rw [mark_plainRun] at hentry
    exact ⟨v, i, hi, hentry⟩

/-! ## 5. A name of two halves -/

/-- The names of an index that was read are those of the index that was written, with their halves joined. -/
theorem Contents.Found.exists_key (hfound : s.Found version' i') (hi : s.index = some (version, i)) {name : String}
    (hname : name ∈ Assoc.keys i') : ∃ n ∈ Assoc.keys i, name = joined n := by
  obtain ⟨_, _, hi₀, hshows⟩ := hfound
  cases hi.symm.trans hi₀
  obtain ⟨bs, hlike, hshows'⟩ := CacheIndex.exists_shows version i
  obtain ⟨-, rfl⟩ := hshows.unique hshows'
  obtain ⟨e, he⟩ := Option.ne_none_iff_exists'.mp (mt (Assoc.get?_eq_none_iff _ name).mp (not_not_intro hname))
  obtain ⟨a, ha, hjoined, -⟩ := exists_of_mem_forall₂ hlike (Assoc.mem_of_get?_putAll he)
  exact ⟨a.1, ((List.mergeSort_perm i _).map Prod.fst).mem_iff.mp (List.mem_map_of_mem ha), hjoined⟩

/-- An outcome that the contents have is there. -/
theorem Stocked.kept_of_payload (hs : Stocked c d s h) {x y : Deposit} (hy : s.payload (x.mark c) = some y) :
    Kept c d h x := by
  have hheld : Held h (payloadPlace d (x.mark c)) ((s.payload (x.mark c)).map fun x => x.outcome.toValue) :=
    hs.payload _
  rw [hy] at hheld
  obtain ⟨text, m, -, hnode⟩ := hheld
  exact ⟨_, m, hnode⟩

/-- Before a run is stored there is no index. -/
theorem Accounts.index_eq_none (ha : Accounts c [] s) (version : String) (i : CacheIndex) :
    s.index ≠ some (version, i) := by
  intro hi
  have hlisting := ha.index version i hi
  obtain ⟨⟨name, e⟩, he⟩ := List.exists_mem_of_ne_nil i hlisting.ne_nil
  obtain ⟨x, hx, -⟩ := hlisting.stored name e ((Assoc.get?_eq_some_iff hlisting.nodup).mpr he)
  cases hx

/-- The halves of a surrogate pair, one behind the other. -/
def halves : String := String.ofList [Char.ofNat 0x10D83D, Char.ofNat 0x10DE00]

/-- A run under that name, over a file that is not there. -/
def halvesRun : Deposit := { plainRun with name := halves }

/-- A run under that name without files. -/
def halvesAgain (h : Host) : Deposit := ⟨"1", halves, none, {}, h⟩

/-- The text that the fingerprint of the first run condenses. -/
def halvesText : String :=
  "\x7b\"config\": null, \"files\": [[\"g\", null]], \"validator\": \"\\ud83d\\ude00\", \"version\": \"1\"\x7d"

/-- The text that the fingerprint of the second run condenses. -/
def againText : String :=
  "\x7b\"config\": null, \"files\": [], \"validator\": \"\\ud83d\\ude00\", \"version\": \"1\"\x7d"

/-- What is computed of the runs: their texts, and that the outcomes can be written. -/
theorem seen_halves :
    (halvesRun.material (plainCache "a")).toOption = some halvesText ∧
      ((halvesAgain plainHost).material (plainCache "a")).toOption = some againText ∧
      ∀ o ∈ [halvesRun.outcome, {}], (Json.writePretty o.toValue).toOption ≠ none := by
  decide +kernel

theorem hex_halvesText_ne : Sha256.hex halvesText ≠ Sha256.hex againText := by
  rw [Sha256.hex, Sha256.hex, Utf8.encode, Utf8.encode, halvesText, againText, String.toList_ofList, String.toList_ofList]
  decide +kernel

theorem joined_halves_ne : joined halves ≠ halves := by decide

theorem writable_halves {o : Outcome} (ho : o ∈ [halvesRun.outcome, {}]) :
    ∃ text, Json.writePretty o.toValue = .ok text := by
  obtain ⟨-, -, hwritable⟩ := seen_halves
  obtain ⟨text, htext⟩ := Option.ne_none_iff_exists'.mp (hwritable o ho)
  exact ⟨text, eq_ok_of_toOption htext⟩

theorem material_halvesRun : halvesRun.material (plainCache "a") = .ok halvesText := eq_ok_of_toOption seen_halves.1

/-- Nothing of a host matters to the fingerprint of a run without files. -/
theorem material_halvesAgain (h : Host) : (halvesAgain h).material (plainCache "a") = .ok againText := by
  have hsame : (halvesAgain h).material (plainCache "a") = (halvesAgain plainHost).material (plainCache "a") :=
    material_congr halves none fun p hp =>
      absurd (Order.mem_sortedDistinct.mp (Order.mem_sortedDistinct.mp hp)) List.not_mem_nil
  exact hsame.trans (eq_ok_of_toOption seen_halves.2.1)

/-- The host once the run over the file is stored. -/
def halvesHost : Host := (halvesRun.call none).host (plainCache "a") plainHost

/-- The host once the run without files is stored as well. -/
def halvesEnd : Host := ((halvesAgain halvesHost).call none).host (plainCache "a") halvesHost

/-- What has been stored then. -/
def halvesLog : List Event := [.stored (halvesAgain halvesHost), .stored halvesRun]

/-- The first run, once it is stored. -/
theorem exists_halvesHost :
    Ledger (plainCache "a") ["a", "c"] [.stored halvesRun] halvesHost ∧
      ∃ s, Stocked (plainCache "a") ["a", "c"] s halvesHost ∧ Present (plainCache "a") halvesRun s ∧
        s.index = some ("1", [(halves, halvesRun.entry (plainCache "a"))]) := by
  have hdir : "a" ∈ ["a", "g"] := List.mem_cons_self
  have hu := inUse_plainCache hdir
  have hl := ledger_plainHost hdir
  obtain ⟨h', hexec, -⟩ := exec_storeEntry_plainHost hdir material_halvesRun (writable_halves List.mem_cons_self)
  have hevents : (halvesRun.call none).events (plainCache "a") plainHost = [.stored halvesRun] :=
    events_store (congrArg Prod.fst hexec)
  have hcall := Ledger.call (halvesRun.call none) hl
  rw [hevents] at hcall
  obtain ⟨s₀, hs₀, ha⟩ := hl.accounts hu ((legible_plainRun "a").mono nofun)
  obtain ⟨s, hturn, hs, -⟩ := exec_call hu hs₀ (halvesRun.call none)
  rw [hevents] at hturn
  refine ⟨hcall, s, hs, hturn.present, ?_⟩
  cases hturn with
  | @added _ i s₁ _ _ hloaded =>
    rcases hloaded with ⟨⟨v, i₀, hi₀, -⟩, -⟩ | ⟨rfl, -⟩
    · exact absurd hi₀ (ha.index_eq_none v i₀)
    · exact Contents.index_add ..

/-- **The second run is stored under a name of its own**, as the name comes back as another one.  So the outcome of
the first run is not taken away. -/
theorem exists_halvesEnd :
    Ledger (plainCache "a") ["a", "c"] halvesLog halvesEnd ∧
      ∃ s, Stocked (plainCache "a") ["a", "c"] s halvesEnd ∧
        (∀ x, .stored x ∈ halvesLog → s.payload (x.mark (plainCache "a")) = some x) ∧
        ∀ v i, s.index = some (v, i) → ∀ name ∈ Assoc.keys i, joined name = joined halves := by
  have hu : (plainCache "a").InUse := inUse_plainCache List.mem_cons_self
  obtain ⟨hl, s₁, hs₁, hp₁, hi₁⟩ := exists_halvesHost
  have hversion : Whole (plainCache "a").version := by decide
  have hevents : ((halvesAgain halvesHost).call none).events (plainCache "a") halvesHost =
      [.stored (halvesAgain halvesHost)] :=
    events_store (hp₁.exec_storeEntry_ok hs₁ hu rfl hversion (material_halvesAgain _) (writable_halves (by simp)) none)
  have hcall := Ledger.call ((halvesAgain halvesHost).call none) hl
  rw [hevents] at hcall
  obtain ⟨s, hturn, hs, -⟩ := exec_call hu hs₁ ((halvesAgain halvesHost).call none)
  rw [hevents] at hturn
  refine ⟨hcall, s, hs, ?_⟩
  cases hturn with
  | @added _ i t _ _ hloaded =>
    obtain ⟨hfound, rfl⟩ : s₁.Found "1" i ∧ t = s₁ := by
      rcases hloaded with hfound | ⟨-, -, hspent⟩
      · exact hfound
      · obtain ⟨i', hfound⟩ := exists_found hi₁ hversion
        exact absurd (hspent i' hfound _) hp₁.there
    have hkeys : ∀ name ∈ Assoc.keys i, name = joined halves := by
      intro name hname
      obtain ⟨n, hn, rfl⟩ := hfound.exists_key hi₁ hname
      rw [List.mem_singleton.mp hn]
    have hnone : Assoc.get? halves i = none :=
      (Assoc.get?_eq_none_iff i halves).mpr fun hmem => joined_halves_ne (hkeys _ hmem).symm
    have hmarks : halvesRun.mark (plainCache "a") ≠ (halvesAgain halvesHost).mark (plainCache "a") := by
      rw [Deposit.mark_of_material material_halvesRun, Deposit.mark_of_material (material_halvesAgain _)]
      exact hex_halvesText_ne
    refine ⟨fun x hx => ?_, fun v j hj name hname => ?_⟩
    · rcases List.mem_pair.mp hx with hx | hx
      · cases hx
        exact Contents.payload_add_self ..
      · cases hx
        rw [Contents.payload_add_of_ne _ hmarks, if_neg, hp₁.payload]
        rintro ⟨e, he, -⟩
        cases hnone.symm.trans he
    · cases (Contents.index_add ..).symm.trans hj
      have hnew : (halvesAgain halvesHost).name ∉ Assoc.keys i := (Assoc.get?_eq_none_iff i halves).mp hnone
      rw [Assoc.keys_put, if_neg hnew, List.mem_append] at hname
      rcases hname with hname | hname
      · rw [hkeys _ hname]
        decide
      · rw [List.mem_singleton.mp hname]
        rfl

/-- **An outcome is left behind** under the name of two halves.  The index that comes back has the name with its
halves joined, so storing a second run finds no entry to replace: both outcomes are there, and the index has an entry
for one of them at most. -/
theorem outcome_of_two_halves_left :
    (plainCache "a").InUse ∧ Ledger (plainCache "a") ["a", "c"] halvesLog halvesEnd ∧
      ToldApart (Materials (plainCache "a") halvesLog) ∧
      (∃ x, .stored x ∈ halvesLog ∧ Kept (plainCache "a") ["a", "c"] halvesEnd x ∧
        ∀ v i name e, (plainCache "a").index? halvesEnd = some (v, i) → Assoc.get? name i = some e →
          e.resultFile ≠ x.mark (plainCache "a") ++ ".json") ∧
      ∃ x y, .stored x ∈ halvesLog ∧ .stored y ∈ halvesLog ∧ x.name = y.name ∧
        Kept (plainCache "a") ["a", "c"] halvesEnd x ∧ Kept (plainCache "a") ["a", "c"] halvesEnd y ∧
        x.mark (plainCache "a") ≠ y.mark (plainCache "a") := by
  have hu : (plainCache "a").InUse := inUse_plainCache List.mem_cons_self
  obtain ⟨hl, s, hs, hpayload, hkeys⟩ := exists_halvesEnd
  have hkept := fun x hx => hs.kept_of_payload (hpayload x hx)
  have hfirst : .stored halvesRun ∈ halvesLog := by simp [halvesLog]
  have hagain : .stored (halvesAgain halvesHost) ∈ halvesLog := List.mem_cons_self
  have hmark := Deposit.mark_of_material material_halvesRun
  have hmark' := Deposit.mark_of_material (material_halvesAgain halvesHost)
  have hmarks : halvesRun.mark (plainCache "a") ≠ (halvesAgain halvesHost).mark (plainCache "a") := by
    rw [hmark, hmark']
    exact hex_halvesText_ne
  refine ⟨hu, hl, ?_, ?_, halvesRun, halvesAgain halvesHost, hfirst, hagain, rfl, hkept _ hfirst, hkept _ hagain, hmarks⟩
  · have htexts : ∀ text, Materials (plainCache "a") halvesLog text → text = halvesText ∨ text = againText := by
      rintro text ⟨x, hx, hm⟩
      rcases List.mem_pair.mp hx with hx | hx
      · cases hx
        exact .inr (Except.ok.inj (hm.symm.trans (material_halvesAgain _)))
      · cases hx
        exact .inl (Except.ok.inj (hm.symm.trans material_halvesRun))
    intro a b ha hb he
    rcases htexts a ha with rfl | rfl <;> rcases htexts b hb with rfl | rfl
    · rfl
    · exact absurd he hex_halvesText_ne
    · exact absurd he.symm hex_halvesText_ne
    · rfl
  · -- All names of the index are one, so it cannot have entries for both.
    by_contra hall
    have hentry : ∀ x, .stored x ∈ halvesLog → ∃ v i name e, (plainCache "a").index? halvesEnd = some (v, i) ∧
        Assoc.get? name i = some e ∧ e.resultFile = x.mark (plainCache "a") ++ ".json" := by
      intro x hx
      by_contra hno
      exact hall ⟨x, hx, hkept x hx, fun v i name e hi he hfile => hno ⟨v, i, name, e, hi, he, hfile⟩⟩
    obtain ⟨v, i, name, e, hi, he, hfile⟩ := hentry _ hfirst
    obtain ⟨_, _, name', e', hi', he', hfile'⟩ := hentry _ hagain
    cases hi.symm.trans hi'
    obtain ⟨v₀, i₀, hi₀, hfound⟩ := hs.exists_index? hu.proper (hpayload _ hfirst)
    cases hi.symm.trans hi₀
    obtain ⟨w, j, hj, -⟩ := id hfound
    have hname : ∀ n f, Assoc.get? n i = some f → n = joined halves := by
      intro n f hn
      obtain ⟨m, hm, rfl⟩ := hfound.exists_key hj (List.mem_map_of_mem (Assoc.mem_of_get? hn))
      exact hkeys w j hj m hm
    obtain rfl := (hname name e he).trans (hname name' e' he').symm
    cases he.symm.trans he'
    exact hmarks ((String.append_left_inj _).mp (hfile.symm.trans hfile'))

end Cache

end AgentLint
