import AgentLint.Proofs.Cache.Ledger

/-!
# What was stored is fetched

`Since` is the time after a run was stored: caches of its version are asked for anything but to store another run
under its name or to clear, and files elsewhere change that are not the run's.  `Since.kept` says that the run is
there all that time.  Runs that are stored meanwhile rewrite the index and remove outcomes, but none with the
fingerprint of this run, since material tells the validator (`mark_ne`).

So the run is fetched (`fetch_of_since`), provided that its files are clear of the cache.  It is not enough that
they are outside its directory: storing makes the directories above that, and a file that was missing may be one
of them (`fetch_misses_made_directory`).
-/

namespace AgentLint

-- Digests are compared but never computed here.
attribute [local irreducible] Sha256.hex

namespace Cache

variable {c : Cache} {d : Place} {s s' : Contents} {h h' : Host} {log log' : List Event} {x y : Deposit}

/-! ## 1. Fingerprints of other runs -/

/-- The texts that the fingerprints of the stored runs condense. -/
def Materials (c : Cache) (log : List Event) (text : String) : Prop :=
  ∃ x, .stored x ∈ log ∧ x.material c = .ok text

theorem ToldApart.materials_mono (hno : ToldApart (Materials c log')) (hlog : ∀ e ∈ log, e ∈ log') :
    ToldApart (Materials c log) := by
  rintro a b ⟨x, hx, ha⟩ ⟨y, hy, hb⟩ he
  exact hno a b ⟨x, hlog _ hx, ha⟩ ⟨y, hlog _ hy, hb⟩ he

/-- Runs with one fingerprint are of one validator. -/
theorem quote_name_eq_of_mark (hm : ∀ z, .stored z ∈ log → ∃ text, z.material c = .ok text)
    (hno : ToldApart (Materials c log)) (hx : .stored x ∈ log) (hy : .stored y ∈ log)
    (he : x.mark c = y.mark c) : Json.quote x.name = Json.quote y.name := by
  obtain ⟨a, hxa⟩ := hm x hx
  obtain ⟨b, hyb⟩ := hm y hy
  rw [Deposit.mark_of_material hxa, Deposit.mark_of_material hyb] at he
  obtain rfl : a = b := hno a b ⟨x, hx, hxa⟩ ⟨y, hy, hyb⟩ he
  exact name_eq_of_material (version_eq_of_material hxa hyb) hxa hyb

/-- **Runs of different validators have different fingerprints.** -/
theorem mark_ne (ha : Accounts c log s) (hre : Legible c log) (hno : ToldApart (Materials c log))
    (hx : .stored x ∈ log) (hy : .stored y ∈ log) (hne : y.name ≠ x.name) : y.mark c ≠ x.mark c := by
  intro he
  have hquote := quote_name_eq_of_mark ha.material hno hy hx he
  exact hne (Json.quote_injective (hre.name y hy) (hre.name x hx) hquote)

/-! ## 2. A run stays there -/

theorem Present.mem_log (hp : Present c x s) (ha : Accounts c log s) : .stored x ∈ log := by
  obtain ⟨-, hlast, -⟩ := ha.payload _ x hp.payload
  exact (mem_of_lastStored hlast).1

/-- **A call leaves a run there** that it does not replace or clear away. -/
theorem Present.turn (hp : Present c x s) (ha : Accounts c log s) {events : List Event}
    (ht : Turn c x.version s events s') (hre : Legible c (events ++ log))
    (hno : ToldApart (Materials c (events ++ log)))
    (hspares : ∀ e ∈ events, ∃ y, e = .stored y ∧ y.name ≠ x.name) : Present c x s' := by
  have hmem : ∀ e ∈ log, e ∈ events ++ log := fun e he => List.mem_append_right _ he
  have hrereads := ha.rereads (hre.mono hmem)
  have hnew := ha.turn hrereads ht
  have hnot := hp.not_spent hrereads fun v i hi => (ha.index v i hi).nodup
  cases ht with
  | spared hspared =>
    rcases hspared with rfl | ⟨rfl, hspent⟩
    · exact hp
    · exact absurd hspent hnot
  | cleared _ =>
    obtain ⟨y, hy, -⟩ := hspares _ List.mem_cons_self
    cases hy
  | @added y i s₁ hv _ hl =>
    obtain ⟨_, hy, hname⟩ := hspares _ List.mem_cons_self
    cases hy
    rcases hl with ⟨hfound, rfl⟩ | ⟨-, -, hspent⟩
    · obtain ⟨i₀, hi₀, rfl⟩ := (ha.found_iff hrereads).mp hfound
      obtain ⟨i, hi, hget⟩ := hp.index
      cases hi.symm.trans hi₀
      have hlist := ha.index _ _ hi₀
      have hx := hmem _ (hp.mem_log ha)
      have hmark := mark_ne hnew hre hno hx List.mem_cons_self hname
      have hindex := Contents.index_add c y i₀.arranged s₁
      rw [hv] at hindex
      refine ⟨⟨_, hindex, ?_⟩, ?_⟩
      · rw [Assoc.get?_put, if_neg hname, CacheIndex.get?_arranged hlist.nodup]
        exact hget
      · rw [Contents.payload_add_of_ne s₁ hmark.symm, if_neg]
        · exact hp.payload
        -- What the new run replaces is a run of its own name.
        · rintro ⟨e, he, hfp⟩
          rw [CacheIndex.get?_arranged hlist.nodup] at he
          obtain ⟨z, hz, hzname, -, rfl⟩ := hlist.stored _ _ he
          exact mark_ne hnew hre hno hx (hmem _ hz) (hzname ▸ hname) hfp
    · exact absurd hspent hnot

/-- A request that neither stores a run under this name nor clears. -/
def Request.Spares (name : String) : Request → Prop
  | .fetch _ _ => True
  | .store n _ _ => n ≠ name
  | .stats => True
  | .clear => False

theorem Call.events_of_spares {a : Call} {name : String} (ha : a.request.Spares name) :
    ∀ e ∈ a.events c h, ∃ y, e = .stored y ∧ y.name ≠ name := by
  obtain ⟨version, ds, request⟩ := a
  cases request with
  | fetch _ _ => nofun
  | stats => nofun
  | clear => exact ha.elim
  | store n o config =>
    intro e he
    simp only [Call.events] at he
    split at he
    · rw [List.mem_singleton.mp he]
      exact ⟨_, rfl, ha⟩
    · cases he

/-! ## 3. The time after a run is stored -/

/-- The call that stores a run. -/
def Deposit.call (x : Deposit) (ds : Option Diagnostics) : Call :=
  ⟨x.version, ds, .store x.name x.outcome x.config⟩

/-- The time after a run over files that are clear of the cache is stored in the course of a ledger, with the events
so far. -/
inductive Since (c : Cache) (d : Place) (x : Deposit) : List Event → Host → Prop where
  /-- The run is stored. -/
  | stored {log : List Event} (ds : Option Diagnostics) (before : Ledger c d log x.host)
    (effect : (x.call ds).events c x.host = [.stored x])
    (clear : ∀ p ∈ x.outcome.files, Clear c d x.host p) :
    Since c d x (.stored x :: log) ((x.call ds).host c x.host)
  /-- Other files change elsewhere. -/
  | change {log : List Event} {h : Host} (h' : Host) (before : Since c d x log h) (aside : Aside c d h h')
    (same : ∀ p ∈ x.outcome.files, h'.mtime? p = h.mtime? p)
    (clear : ∀ p ∈ x.outcome.files, Clear c d h' p) : Since c d x log h'
  /-- A cache of the same version is called, but not about this run. -/
  | call {log : List Event} {h : Host} (a : Call) (before : Since c d x log h) (version : a.version = x.version)
    (spares : a.request.Spares x.name) : Since c d x (a.events c h ++ log) (a.host c h)

/-- **The run stays there, and its files as they were.** -/
theorem Since.kept (hu : c.InUse) (hs : Since c d x log h) (hre : Legible c log)
    (hno : ToldApart (Materials c log)) :
    ∃ s, Stocked c d s h ∧ Accounts c log s ∧ Present c x s ∧
      ∀ p ∈ x.outcome.files, h.mtime? p = x.host.mtime? p ∧ Clear c d h p := by
  induction hs with
  | stored ds before effect clear =>
    obtain ⟨s, hs, ha, hp, hf⟩ :=
      before.exists_present hu (hre.mono fun e he => List.mem_cons_of_mem _ he) effect
    exact ⟨s, hs, ha, hp, fun p hp => ⟨(clear p hp).mtime?_eq hf, (clear p hp).furnished hf⟩⟩
  | change h' _ aside same clear ih =>
    obtain ⟨s, hs, ha, hp, hfiles⟩ := ih hre hno
    exact ⟨s, hs.aside aside, ha, hp, fun p hp => ⟨(same p hp).trans (hfiles p hp).1, clear p hp⟩⟩
  | @call log h a _ version spares ih =>
    have hmem : ∀ e ∈ log, e ∈ a.events c h ++ log := fun e he => List.mem_append_right _ he
    have hre' := hre.mono hmem
    obtain ⟨s, hs, ha, hp, hfiles⟩ := ih hre' (hno.materials_mono hmem)
    obtain ⟨s', hturn, hs', hf⟩ := exec_call hu hs a
    rw [version] at hturn
    refine ⟨s', hs', ha.turn (ha.rereads hre') hturn, hp.turn ha hturn hre hno (Call.events_of_spares spares), fun p hp => ?_⟩
    obtain ⟨hsame, hclear⟩ := hfiles p hp
    exact ⟨(hclear.mtime?_eq hf).trans hsame, hclear.furnished hf⟩

/-- **What was stored is fetched**: whatever caches of the same version are asked meanwhile about other validators,
the outcome comes back, without mended texts, and with its files in order. -/
theorem fetch_of_since (hu : c.InUse) (hs : Since c d x log h) (hre : Legible c log)
    (hno : ToldApart (Materials c log)) (hne : x.outcome.files ≠ []) (ds : Option Diagnostics) :
    (exec (fetch x.name x.config) ((c.ofVersion x.version).on ds h)).1 =
      .ok (some { x.outcome.unmended with files := Order.sortedDistinct x.outcome.files }) := by
  obtain ⟨s, hstocked, ha, hp, hfiles⟩ := hs.kept hu hre hno
  exact hstocked.fetch_of_present hu (ha.rereads hre) hp (ha.material x (hp.mem_log ha)) hne
    (fun p hp => (hfiles p hp).1) ds

/-! ## 4. Two caches beside one file -/

theorem materials_plainRun {dir text : String}
    (ht : Materials (plainCache dir) [.stored plainRun] text) : text = plainText := by
  obtain ⟨x, hx, hm⟩ := ht
  cases List.mem_singleton.mp hx
  exact Except.ok.inj (hm.symm.trans (material_plainRun dir))

theorem toldApart_plainRun (dir : String) : ToldApart (Materials (plainCache dir) [.stored plainRun]) := by
  intro a b ha hb _
  rw [materials_plainRun ha, materials_plainRun hb]

/-- A host with a directory in the place of the file. -/
def madeHost : Host := { plainHost with tree := [(["g"], .dir 2)] }

/-- What is computed: what is found of the file, and the fingerprint if a directory is in its place. -/
theorem seen_file :
    plainHost.looked "g" = [["g"]] ∧ (plainHost.stat "g").toOption = none ∧
      plainHost.landing "g" = some ["g"] ∧ (madeHost.mtime? "g").toOption = some (some 2) ∧
      (((plainCache "g").ofVersion "1").fingerprint madeHost "v" none plainRun.files).toOption ≠
        some plainMark := by
  decide +kernel

/-- The file is clear of a cache below another directory. -/
theorem clear_plainRun : Clear (plainCache "a") ["a", "c"] plainHost "g" := by
  obtain ⟨hlooked, hstat, -⟩ := seen_file
  refine ⟨fun q hq => ?_, fun q hq hway => ?_, fun q m hdir => ?_⟩
  · rw [hlooked] at hq
    rw [List.mem_singleton.mp hq]
    decide
  · rw [hlooked] at hq
    rw [List.mem_singleton.mp hq] at hway
    rcases onWay_plainCache List.mem_cons_self hway with he | he | he <;> exact absurd he (by decide)
  · rw [hdir] at hstat
    cases hstat

theorem fetch_of_since_stats :
    (exec (fetch "v" none) (((plainCache "a").ofVersion "1").on none
      (Call.host (plainCache "a") (plainEnd "a") ⟨"1", none, .stats⟩))).1 =
        .ok (some { plainRun.outcome.unmended with files := Order.sortedDistinct plainRun.outcome.files }) := by
  have hdir : "a" ∈ ["a", "g"] := List.mem_cons_self
  have hstored : Since (plainCache "a") ["a", "c"] plainRun [.stored plainRun] (plainEnd "a") := by
    refine .stored none (ledger_plainHost hdir) (events_plainCall hdir) fun p hp => ?_
    rw [List.mem_singleton.mp hp]
    exact clear_plainRun
  exact fetch_of_since (x := plainRun) (inUse_plainCache hdir) (.call ⟨"1", none, .stats⟩ hstored rfl trivial)
    (legible_plainRun "a") (toldApart_plainRun "a") (List.cons_ne_nil _ _) none

/-- **Files outside the directory are not enough**: a run over a missing file is stored by a cache below a directory
of that name; the directory is made, and the run is not fetched. -/
theorem fetch_misses_made_directory :
    Ledger (plainCache "g") ["g", "c"] [] plainRun.host ∧
      (plainRun.call none).events (plainCache "g") plainRun.host = [.stored plainRun] ∧
      plainRun.outcome.files ≠ [] ∧
      (∀ p ∈ plainRun.outcome.files, ∃ q, plainRun.host.landing p = some q ∧ ¬ ["g", "c"] <+: q) ∧
      Legible (plainCache "g") [.stored plainRun] ∧
      ToldApart (Materials (plainCache "g") [.stored plainRun]) ∧
      ∀ o, (exec (fetch plainRun.name plainRun.config) (((plainCache "g").ofVersion plainRun.version).on none
        ((plainRun.call none).host (plainCache "g") plainRun.host))).1 ≠ .ok (some o) := by
  have hdir : "g" ∈ ["a", "g"] := List.mem_cons_of_mem _ List.mem_cons_self
  have hu := inUse_plainCache hdir
  have hre := legible_plainRun "g"
  obtain ⟨-, -, hlanding, hmade, hnow⟩ := seen_file
  refine ⟨ledger_plainHost hdir, events_plainCall hdir, List.cons_ne_nil _ _, fun p hp => ?_, hre,
    toldApart_plainRun "g", fun o ho => ?_⟩
  · rw [List.mem_singleton.mp hp]
    exact ⟨["g"], hlanding, by decide⟩
  · obtain ⟨s, hs, ha⟩ := (ledger_plainEnd hdir).accounts hu hre
    obtain ⟨i, e, -, -, hi, hget, -, hfp, -⟩ := Stocked.exists_of_fetch (hu.ofVersion "1")
      ((stocked_ofVersion "1").mpr hs) (ha.rereads hre) ho
    obtain ⟨x, hx, -, -, rfl⟩ := (ha.index _ _ hi).stored _ _ hget
    cases List.mem_singleton.mp hx
    have hsame : ∀ p ∈ Order.sortedDistinct plainRun.files, (plainEnd "g").mtime? p = madeHost.mtime? p := by
      intro p hp
      rw [Order.mem_sortedDistinct, Deposit.files, Order.mem_sortedDistinct] at hp
      rw [List.mem_singleton.mp hp, (exec_plainCall hdir).2, eq_ok_of_toOption hmade]
      rfl
    have hfp' : ((plainCache "g").ofVersion "1").fingerprint (plainEnd "g") "v" none plainRun.files =
        .ok (plainRun.mark (plainCache "g")) := hfp
    rw [mark_plainRun, fingerprint, material_congr "v" none hsame] at hfp'
    exact hnow (congrArg Except.toOption hfp')

end Cache

end AgentLint
