import AgentLint.Proofs.Cache.Fingerprint
import AgentLint.Proofs.Cache.Stored
import AgentLint.Proofs.FileTree.Effect
import AgentLint.Proofs.Json.Written

/-!
# A cache holds what was stored

Only the cache itself writes to its directory.  `Consistent` says what can be found there then: the index
names one of the runs that were stored, and every outcome under `files/` is that of a stored run whose
fingerprint is its name.  Anything may be missing, as each of the writes may fail.

`exec_loadIndex` and `exec_fetch` say what is read from such a directory, and `effect_store` bounds what
storing does to it; `Consistent.store` puts the two together.
-/

namespace AgentLint

namespace Cache

/-! ## 1. Places of a cache -/

/-- The place of a cache's directory. -/
def place? (c : Cache) (h : Host) : Option Place := h.land true c.location

/-- Whether a place is the cache's directory or below it. -/
def Holds (c : Cache) (h : Host) (q : Place) : Prop := ∃ d, c.place? h = some d ∧ d <+: q

/-- A path below the directory of a cache. -/
def below (c : Cache) (names : List String) : Path :=
  { c.location with names := c.location.names ++ names }

/-- Names as they occur below the directory. -/
def Ordinary (names : List String) : Prop := ∀ n ∈ names, Path.IsName n ∧ n ≠ ".."

theorem Ordinary.plain {names : List String} (h : Ordinary names) : FileTree.Plain names :=
  fun n hn => ⟨(h n hn).1.ne_dot, (h n hn).2⟩

theorem proper_below {c : Cache} (hc : c.location.Proper) {names : List String} (h : Ordinary names) :
    (c.below names).Proper := by
  refine ⟨hc.slashes_le, fun n hn => ?_⟩
  rcases List.mem_append.mp hn with hn | hn
  · exact hc.isName n hn
  · exact (h n hn).1

/-- No link stands in the directory of the cache. -/
def NoLinks (c : Cache) (h : Host) : Prop :=
  ∀ q target m, c.Holds h q → h.tree.node? q ≠ some (.link target m)

theorem NoLinks.region {c : Cache} {h : Host} (hno : c.NoLinks h) : Region (c.Holds h) h :=
  ⟨fun _ _ ⟨d, hd, hp⟩ hq => ⟨d, hd, hp.trans hq⟩, hno⟩

/-- A path below the directory lands below its place. -/
theorem place_of_land {c : Cache} {h : Host} (hno : c.NoLinks h) {names : List String}
    (hn : Ordinary names) (hne : names ≠ []) {follow : Bool} {p : Place}
    (hp : h.land follow (c.below names) = some p) : ∃ d, c.place? h = some d ∧ p = d ++ names :=
  Host.land_below hn.plain hne (fun d hd q target m hq => hno q target m ⟨d, hd, hq⟩) hp

theorem holds_of_land {c : Cache} {h : Host} (hno : c.NoLinks h) {names : List String}
    (hn : Ordinary names) (hne : names ≠ []) {follow : Bool} {p : Place}
    (hp : h.land follow (c.below names) = some p) : c.Holds h p := by
  obtain ⟨d, hd, rfl⟩ := place_of_land hno hn hne hp
  exact ⟨d, hd, List.prefix_append d names⟩

/-- What is found at a path below the directory. -/
theorem node?_of_stat_below {c : Cache} (hc : c.location.Proper) {h : Host} (hno : c.NoLinks h)
    {names : List String} (hn : Ordinary names) (hne : names ≠ []) {p : Place} {n : Node}
    (hs : h.stat (c.below names).text = .ok (p, n)) :
    ∃ d, c.place? h = some d ∧ h.tree.node? (d ++ names) = some n := by
  obtain ⟨hland, hnode⟩ := Host.land_of_locate (proper_below hc hn) (Host.locate_of_stat hs)
  obtain ⟨d, hd, rfl⟩ := place_of_land hno hn hne hland
  exact ⟨d, hd, hnode⟩

theorem ordinary_index : Ordinary ["index.json"] := by
  intro n hn
  rw [List.mem_singleton.mp hn]
  exact ⟨⟨by decide, by decide, by decide⟩, by decide⟩

theorem ordinary_payload (s : String) : Ordinary ["files", Sha256.hex s ++ ".json"] := by
  intro n hn
  rcases List.mem_cons.mp hn with rfl | hn
  · exact ⟨⟨by decide, by decide, by decide⟩, by decide⟩
  · rw [List.mem_singleton.mp hn]
    exact Sha256.isName_hex_json s

theorem payloadPath_eq (c : Cache) (s : String) :
    c.payloadPath (Sha256.hex s ++ ".json") = c.below ["files", Sha256.hex s ++ ".json"] := by
  have hproper : (⟨0, [Sha256.hex s ++ ".json"]⟩ : Path).Proper :=
    ⟨Nat.zero_le 2, fun n hn => List.mem_singleton.mp hn ▸ (Sha256.isName_hex_json s).1⟩
  have htext : (⟨0, [Sha256.hex s ++ ".json"]⟩ : Path).text = Sha256.hex s ++ ".json" := by
    simp [Path.text, String.intercalate_singleton]
  have hread := Path.ofString_text hproper
  rw [htext] at hread
  rw [payloadPath, hread]
  simp [Path.join, Path.isAbsolute, payloadDir, Path.child, below]

/-! ## 2. Stored runs -/

/-- A run whose outcome was stored. -/
structure Record where
  /-- The files as they were. -/
  host : Host
  /-- The files that were checked. -/
  files : List String
  /-- What came out. -/
  outcome : Outcome

/-- A cache as it is used: enabled, in a proper directory, and condensing with SHA-256. -/
structure InUse (c : Cache) : Prop where
  proper : c.location.Proper
  enabled : c.enabled = true
  digest : c.digest = Sha256.hex

/-- The entry of a run in the index. -/
def Record.entry (r : Record) (fingerprint : String) : CacheEntry :=
  ⟨fingerprint, secondsOf r.host.now, fingerprint ++ ".json", r.files⟩

section Directory

variable (c : Cache) (name : String) (config : Option Config) (records : List Record)

/-- A run has a fingerprint. -/
def Marked (r : Record) (fingerprint : String) : Prop :=
  c.fingerprint r.host name config r.files = .ok fingerprint

/-- The index that names a run, and no other. -/
def indexValue (r : Record) (fingerprint : String) : Value :=
  CacheIndex.toValue c.version [(name, r.entry fingerprint)]

/-- What may be in a file of the directory: in the index the entry of a stored run, in the file of an
outcome the outcome of a stored run with that fingerprint, elsewhere anything. -/
structure Genuine (names : List String) (bytes : List UInt8) : Prop where
  index : names = ["index.json"] → ∃ r ∈ records, ∃ fp text, c.Marked name config r fp ∧
    Json.writePretty (c.indexValue name r fp) = .ok text ∧ bytes = Utf8.encode text
  payload : ∀ s, names = ["files", Sha256.hex s ++ ".json"] → ∃ r ∈ records, ∃ text,
    c.Marked name config r (Sha256.hex s) ∧ Json.writePretty r.outcome.toValue = .ok text ∧
      bytes = Utf8.encode text

/-- What may be written at a place of the directory. -/
def Writes (h : Host) (q : Place) (bytes : List UInt8) : Prop :=
  ∀ d names, c.place? h = some d → q = d ++ names → c.Genuine name config records names bytes

/-- A directory that holds what was stored, or less. -/
structure Consistent (h : Host) : Prop where
  noLinks : c.NoLinks h
  genuine : ∀ q bytes m, c.Holds h q → h.tree.node? q = some (.file bytes m) →
    c.Writes name config records h q bytes

/-- The data that was written reads back. -/
def Rereads : Prop := ∀ r ∈ records, Json.Rereads r.outcome.toValue ∧
  ∀ fp, c.Marked name config r fp → Json.Rereads (c.indexValue name r fp)

/-- The cache on a host, with any diagnostics. -/
def on (diagnostics : Option Diagnostics) (h : Host) : Site := ⟨{ c with diagnostics }, h⟩

end Directory

variable {c : Cache} {name : String} {config : Option Config} {records : List Record}
  {ds : Option Diagnostics} {h h' : Host}

theorem Genuine.cons (r : Record) {names : List String} {bytes : List UInt8}
    (hg : c.Genuine name config records names bytes) :
    c.Genuine name config (r :: records) names bytes := by
  refine ⟨fun hn => ?_, fun s hn => ?_⟩
  · obtain ⟨r', hr', hrest⟩ := hg.index hn
    exact ⟨r', List.mem_cons_of_mem r hr', hrest⟩
  · obtain ⟨r', hr', hrest⟩ := hg.payload s hn
    exact ⟨r', List.mem_cons_of_mem r hr', hrest⟩

theorem Consistent.cons (r : Record) (hc : c.Consistent name config records h) :
    c.Consistent name config (r :: records) h :=
  ⟨hc.noLinks, fun q bytes m hq hnode d names hd hdq => (hc.genuine q bytes m hq hnode d names hd hdq).cons r⟩

theorem holds_congr (hp : c.place? h' = c.place? h) : c.Holds h' = c.Holds h := by
  funext q
  rw [Holds, Holds, hp]

/-- What may be written depends on where paths land, and on nothing else of the host. -/
def Steady (writes : Host → Place → List UInt8 → Prop) : Prop :=
  ∀ h h', (∀ follow path, h'.land follow path = h.land follow path) → writes h' = writes h

theorem steady_writes (c : Cache) (name : String) (config : Option Config) (records : List Record) :
    Steady (c.Writes name config records) := by
  intro h h' hland
  have hp : c.place? h' = c.place? h := hland true c.location
  funext q bytes
  rw [Writes, Writes, hp]

theorem NoLinks.effect {written : Place → List UInt8 → Prop} (hno : c.NoLinks h)
    (he : Effect (c.Holds h) written h h') : c.NoLinks h' := by
  have hp : c.place? h' = c.place? h := he.land_eq true c.location
  intro q target m hq
  rw [holds_congr hp] at hq
  exact (hno.region.effect he).noLink q target m hq

/-- The files of the directory hold what may be written. -/
def Filled (c : Cache) (writes : Host → Place → List UInt8 → Prop) (h : Host) : Prop :=
  ∀ q bytes m, c.Holds h q → h.tree.node? q = some (.file bytes m) → writes h q bytes

/-- That stays so if nothing else is written to them. -/
theorem Filled.effect {writes : Host → Place → List UInt8 → Prop} (hw : Steady writes) (hk : c.Filled writes h)
    (he : Effect (c.Holds h) (writes h) h h') : c.Filled writes h' := by
  have hp : c.place? h' = c.place? h := he.land_eq true c.location
  intro q bytes m hq hnode
  rw [holds_congr hp] at hq
  rw [hw h h' he.land_eq]
  rcases he.node q with hsame | ⟨-, m', hdir⟩ | ⟨-, -, hnone | ⟨n, hnew, hdir⟩ | ⟨bs, m', hfile, hbs⟩⟩
  · exact hk q bytes m hq (hsame ▸ hnode)
  · rw [hdir] at hnode
    cases hnode
  · rw [hnone] at hnode
    cases hnode
  · rw [hnew] at hnode
    cases hnode
    cases hdir
  · rw [hfile] at hnode
    cases hnode
    exact hbs

/-- A directory stays consistent if nothing but stored runs is written to it. -/
theorem Consistent.effect (hc : c.Consistent name config records h)
    (he : Effect (c.Holds h) (c.Writes name config records h) h h') :
    c.Consistent name config records h' :=
  ⟨hc.noLinks.effect he, Filled.effect (steady_writes c name config records) hc.genuine he⟩

/-- A directory that is not there is consistent. -/
theorem Consistent.vacant (hv : ∀ q, c.Holds h q → h.tree.node? q = none) :
    c.Consistent name config [] h := by
  refine ⟨fun q target m hq hnode => ?_, fun q bytes m hq hnode => ?_⟩
  · rw [hv q hq] at hnode
    cases hnode
  · rw [hv q hq] at hnode
    cases hnode

/-- A directory stays consistent if it stays where it is and as it is. -/
theorem Consistent.kept (hc : c.Consistent name config records h) (hp : c.place? h' = c.place? h)
    (hk : ∀ q, c.Holds h q → h'.tree.node? q = h.tree.node? q) :
    c.Consistent name config records h' := by
  refine ⟨fun q target m hq => ?_, fun q bytes m hq hnode => ?_⟩
  · rw [holds_congr hp] at hq
    rw [hk q hq]
    exact hc.noLinks q target m hq
  · rw [holds_congr hp] at hq
    rw [hk q hq] at hnode
    intro d names hd
    exact hc.genuine q bytes m hq hnode d names (hp ▸ hd)

/-- A file found below the directory holds what it may. -/
theorem Consistent.genuine_of_readBytes (hc : c.Consistent name config records h)
    (hproper : c.location.Proper) {names : List String} (hn : Ordinary names) (hne : names ≠ [])
    {bytes : List UInt8} (hread : h.readBytes (c.below names).text = .ok bytes) :
    c.Genuine name config records names bytes := by
  obtain ⟨p, m, hs⟩ := Host.readBytes_eq_ok_iff.mp hread
  obtain ⟨d, hd, hnode⟩ := node?_of_stat_below hproper hc.noLinks hn hne hs
  exact hc.genuine _ _ m ⟨d, hd, List.prefix_append d names⟩ hnode d names hd rfl

theorem exists_material (hu : c.InUse) {files : List String} {fp : String}
    (hfp : c.fingerprint h name config files = .ok fp) :
    ∃ text, c.material h name config files = .ok text ∧ fp = Sha256.hex text := by
  unfold fingerprint at hfp
  cases hm : c.material h name config files with
  | error e =>
    rw [hm] at hfp
    cases hfp
  | ok text =>
    rw [hm, hu.digest] at hfp
    cases hfp
    exact ⟨text, rfl, rfl⟩

/-! ## 3. Reading -/

theorem exec_lift {α : Type} (r : Except Fault α) (s : Site) : exec (lift r) s = (r, s) := by
  cases r <;> rfl

theorem isFile_iff {path : String} :
    h.isFile path = .ok true ↔ ∃ p bytes m, h.stat path = .ok (p, .file bytes m) := by
  unfold Host.isFile Host.probe
  constructor
  · intro hf
    split at hf
    · rename_i p n hs
      cases n with
      | file bytes m => exact ⟨p, bytes, m, hs⟩
      | dir m | shut m | link target m => cases hf
    · cases hf
    · cases hf
    · cases hf
  · rintro ⟨p, bytes, m, hs⟩
    rw [hs]

theorem readBytes_of_isFile {path : String} (hf : h.isFile path = .ok true) :
    ∃ bytes, h.readBytes path = .ok bytes := by
  obtain ⟨p, bytes, m, hs⟩ := isFile_iff.mp hf
  exact ⟨bytes, Host.readBytes_of_stat hs⟩

theorem isFile_of_readBytes {path : String} {bytes : List UInt8} (hb : h.readBytes path = .ok bytes) :
    h.isFile path = .ok true := by
  obtain ⟨p, m, hs⟩ := Host.readBytes_eq_ok_iff.mp hb
  exact isFile_iff.mpr ⟨p, bytes, m, hs⟩

/-- What is read as JSON is a file. -/
theorem isFile_of_readJson {path : String} {w : Value} (hw : h.readJson path = .ok w) :
    h.isFile path = .ok true := by
  obtain ⟨bytes, hb⟩ := Host.exists_readBytes_of_readJson hw
  exact isFile_of_readBytes hb

/-- What an index holds is read, if it is of the version of the cache. -/
theorem exec_entriesOf_of_holds {w : Value} {i : CacheIndex} (hw : CacheIndex.Holds w c.version i) :
    exec (entriesOf w) (c.on ds h) = (.ok i, c.on ds h) := by
  obtain ⟨es, hes, hread⟩ := hw.entries
  unfold entriesOf
  rw [exec_bind, exec_get]
  simp only [hw.version, hes, Option.getD_some]
  rw [if_pos (show c.version = (c.on ds h).cache.version from rfl), exec_lift, hread]
  rfl

/-- The index of a stored run is read back. -/
theorem exec_entriesOf (r : Record) (fp : String) :
    exec (entriesOf (c.indexValue name r fp)) (c.on ds h) =
      (.ok [(name, r.entry fp)], c.on ds h) := by
  have hholds := CacheIndex.holds_toValue c.version (i := [(name, r.entry fp)]) (by simp [Assoc.keys])
  rw [CacheIndex.arranged, List.mergeSort_singleton] at hholds
  exact exec_entriesOf_of_holds hholds

theorem exec_loadIndex_of_error {e : FileFault} (hf : h.isFile (c.below ["index.json"]).text = .error e) :
    exec loadIndex (c.on ds h) = (.error (.file e), c.on ds h) := by
  have hsite : (c.on ds h).host.isFile (c.on ds h).cache.indexPath.text = .error e := hf
  unfold loadIndex
  rw [exec_bind, exec_get]
  simp only [hsite]
  rfl

theorem exec_loadIndex_of_absent (hf : h.isFile (c.below ["index.json"]).text = .ok false) :
    exec loadIndex (c.on ds h) = (.ok [], c.on ds h) := by
  have hsite : (c.on ds h).host.isFile (c.on ds h).cache.indexPath.text = .ok false := hf
  unfold loadIndex
  rw [exec_bind, exec_get]
  simp only [hsite]
  rfl

theorem exec_loadIndex_of_json {w : Value} (hf : h.isFile (c.below ["index.json"]).text = .ok true)
    (hw : h.readJson (c.below ["index.json"]).text = .ok w) :
    exec loadIndex (c.on ds h) = exec (entriesOf w) (c.on ds h) := by
  have hsite : (c.on ds h).host.isFile (c.on ds h).cache.indexPath.text = .ok true := hf
  have hjson : (c.on ds h).host.readJson (c.on ds h).cache.indexPath.text = .ok w := hw
  unfold loadIndex
  rw [exec_bind, exec_get]
  simp only
  rw [exec_bind, exec_lift, hsite]
  simp only [Except.mapError, Bool.not_true, Bool.false_eq_true, if_false, hjson]

/-- An index that is empty or names one stored run. -/
def Single (c : Cache) (name : String) (config : Option Config) (records : List Record)
    (i : CacheIndex) : Prop :=
  i = [] ∨ ∃ r ∈ records, ∃ fp, c.Marked name config r fp ∧ i = [(name, r.entry fp)]

/-- The index of a consistent directory is empty or names one stored run. -/
theorem exec_loadIndex (hu : c.InUse) (hc : c.Consistent name config records h)
    (hre : c.Rereads name config records) (ds : Option Diagnostics) :
    ∃ loaded, exec loadIndex (c.on ds h) = (loaded, c.on ds h) ∧
      (∀ i, loaded = .ok i → c.Single name config records i) ∧
      (h.isFile (c.below ["index.json"]).text = .ok true → ∃ i, loaded = .ok i ∧ i ≠ []) := by
  cases hfile : h.isFile (c.below ["index.json"]).text with
  | error e => exact ⟨_, exec_loadIndex_of_error hfile, nofun, nofun⟩
  | ok there =>
    cases there with
    | false => exact ⟨_, exec_loadIndex_of_absent hfile, fun i hi => .inl (Except.ok.inj hi).symm, nofun⟩
    | true =>
      obtain ⟨bytes, hread⟩ := readBytes_of_isFile hfile
      have hg := hc.genuine_of_readBytes hu.proper ordinary_index (by simp) hread
      obtain ⟨r, hr, fp, text, hfp, hw, rfl⟩ := hg.index rfl
      have hjson := Json.readJson_of_written ((hre r hr).2 fp hfp) hw hread
      refine ⟨.ok [(name, r.entry fp)], ?_, ?_, fun _ => ⟨_, rfl, by simp⟩⟩
      · rw [exec_loadIndex_of_json hfile hjson]
        exact exec_entriesOf r fp
      · exact fun i hi => .inr ⟨r, hr, fp, hfp, (Except.ok.inj hi).symm⟩

/-- An outcome that may be used again: its entry and the outcome itself were stored, and have the
fingerprint that the files of the entry have now. -/
def Reusable (c : Cache) (name : String) (config : Option Config) (records : List Record) (h : Host)
    (o : Outcome) : Prop :=
  ∃ r₀ ∈ records, ∃ r₁ ∈ records, ∃ fp, c.Marked name config r₀ fp ∧ c.Marked name config r₁ fp ∧
    c.fingerprint h name config r₀.files = .ok fp ∧
      o = { r₁.outcome.unmended with files := r₀.files }

/-- The files of the cache are there, and every stored run still has its fingerprint. -/
structure InPlace (c : Cache) (name : String) (config : Option Config) (records : List Record)
    (h : Host) : Prop where
  index : h.isFile (c.below ["index.json"]).text = .ok true
  fresh : ∀ r ∈ records, ∀ fp, c.Marked name config r fp →
    r.files ≠ [] ∧ c.fingerprint h name config r.files = .ok fp
  payload : ∀ r ∈ records, ∀ fp, c.Marked name config r fp →
    ∃ bytes, h.readBytes (c.payloadPath (fp ++ ".json")).text = .ok bytes

/-- The fresh entry, given what reading the index has given. -/
theorem exec_freshEntry_of_load (name : String) (config : Option Config) {r : Except Fault CacheIndex}
    (hload : exec loadIndex (c.on ds h) = (r, c.on ds h')) :
    ∃ fresh, exec (freshEntry name config) (c.on ds h) = (fresh, c.on ds h') ∧
      ∀ e, fresh = .ok (some e) ↔ ∃ i, r = .ok i ∧ Assoc.get? name i = some e ∧ e.files ≠ [] ∧
        c.fingerprint h' name config e.files = .ok e.fingerprint := by
  unfold freshEntry
  rw [exec_bind, hload]
  cases r with
  | error f => exact ⟨.error f, rfl, fun e => ⟨nofun, fun ⟨i, hi, _⟩ => nomatch hi⟩⟩
  | ok i =>
    simp only [Except.ok.injEq, exists_eq_left']
    cases he : Assoc.get? name i with
    | none => exact ⟨.ok none, rfl, fun e => ⟨nofun, nofun⟩⟩
    | some e =>
      by_cases hempty : e.files = []
      · simp only [hempty, List.isEmpty_nil, if_true]
        refine ⟨.ok none, rfl, fun e' => ⟨nofun, ?_⟩⟩
        rintro ⟨he', hne, -⟩
        cases he'
        exact absurd hempty hne
      · have hne : e.files.isEmpty = false := by simpa using hempty
        simp only [hne, Bool.false_eq_true, if_false]
        rw [exec_bind, exec_get]
        simp only
        rw [exec_bind, exec_lift]
        have hsite : (c.on ds h').cache.fingerprint (c.on ds h').host name config e.files =
            c.fingerprint h' name config e.files := rfl
        rw [hsite]
        cases hnow : c.fingerprint h' name config e.files with
        | error f =>
          refine ⟨.error f, rfl, fun e' => ⟨nofun, ?_⟩⟩
          rintro ⟨he', -, hfp⟩
          cases he'
          cases hnow.symm.trans hfp
        | ok now =>
          refine ⟨_, rfl, fun e' => ⟨fun hsome => ?_, ?_⟩⟩
          · by_cases hsame : now = e.fingerprint
            · rw [if_pos hsame] at hsome
              cases hsome
              exact ⟨rfl, hempty, by rw [hnow, hsame]⟩
            · rw [if_neg hsame] at hsome
              cases hsome
          · rintro ⟨he', -, hfp⟩
            cases he'
            rw [if_pos (Except.ok.inj (hnow.symm.trans hfp))]

/-- The entry that is still fresh is that of a stored run. -/
theorem exec_freshEntry (hu : c.InUse) (hc : c.Consistent name config records h)
    (hre : c.Rereads name config records) (ds : Option Diagnostics) :
    ∃ fresh, exec (freshEntry name config) (c.on ds h) = (fresh, c.on ds h) ∧
      (∀ e, fresh = .ok (some e) → ∃ r ∈ records, ∃ fp, c.Marked name config r fp ∧ e = r.entry fp ∧
        c.fingerprint h name config r.files = .ok fp) ∧
      (c.InPlace name config records h → ∃ e, fresh = .ok (some e)) := by
  obtain ⟨loaded, hload, hloaded, hthere⟩ := exec_loadIndex hu hc hre ds
  obtain ⟨fresh, hexec, hfresh⟩ := exec_freshEntry_of_load name config hload
  have hget : ∀ e : CacheEntry, Assoc.get? name [(name, e)] = some e := fun e => by simp [Assoc.get?]
  refine ⟨fresh, hexec, fun e he => ?_, fun hp => ?_⟩
  · obtain ⟨i, hi, hentry, -, hnow⟩ := (hfresh e).mp he
    rcases hloaded i hi with rfl | ⟨r, hr, fp, hfp, rfl⟩
    · cases hentry
    · obtain rfl := Option.some.inj ((hget _).symm.trans hentry)
      exact ⟨r, hr, fp, hfp, rfl, hnow⟩
  · obtain ⟨i, hi, hne⟩ := hthere hp.index
    rcases hloaded i hi with rfl | ⟨r, hr, fp, hfp, rfl⟩
    · exact absurd rfl hne
    · obtain ⟨hfiles, hnow⟩ := hp.fresh r hr fp hfp
      exact ⟨r.entry fp, (hfresh _).mpr ⟨_, hi, hget _, hfiles, hnow⟩⟩

/-- The outcome of a fresh entry, if its file can be read. -/
theorem payload_spec (hu : c.InUse) (hc : c.Consistent name config records h)
    (hre : c.Rereads name config records) {r : Record} {fp : String}
    (hfp : c.Marked name config r fp) :
    (∃ r₁ ∈ records, c.Marked name config r₁ fp ∧
      payload (c.on ds h) (r.entry fp) = .ok { r₁.outcome.unmended with files := r.files }) ∨
      ∃ e, h.readBytes (c.payloadPath (fp ++ ".json")).text = .error e ∧
        payload (c.on ds h) (r.entry fp) = .error (.file e) := by
  obtain ⟨material, -, rfl⟩ := exists_material hu hfp
  have hpath : (c.on ds h).cache.payloadPath (r.entry (Sha256.hex material)).resultFile =
      c.below ["files", Sha256.hex material ++ ".json"] := payloadPath_eq c material
  have hhost : (c.on ds h).host = h := rfl
  unfold payload
  rw [hpath, hhost, payloadPath_eq]
  cases hread : h.readBytes (c.below ["files", Sha256.hex material ++ ".json"]).text with
  | error e =>
    refine .inr ⟨e, rfl, ?_⟩
    rw [Host.readJson_of_readBytes_error hread]
    rfl
  | ok bytes =>
    left
    have hg := hc.genuine_of_readBytes hu.proper (ordinary_payload material) (by simp) hread
    obtain ⟨r₁, hr₁, text, hfp₁, hw, rfl⟩ := hg.payload material rfl
    refine ⟨r₁, hr₁, hfp₁, ?_⟩
    rw [Json.readJson_of_written (hre r₁ hr₁).1 hw hread]
    show (do
      let o ← (Outcome.ofValue r₁.outcome.toValue).mapError Fault.shape
      pure { o with files := r.files }) = _
    rw [Outcome.ofValue_toValue]
    rfl

/-- **Fetching** leaves the files alone and does not fail.  What it gives may be used again, and it gives
something if all is in place. -/
theorem exec_fetch (hu : c.InUse) (hc : c.Consistent name config records h)
    (hre : c.Rereads name config records) (ds : Option Diagnostics) :
    ∃ stored ds', exec (fetch name config) (c.on ds h) = (.ok stored, c.on ds' h) ∧
      (∀ o, stored = some o → c.Reusable name config records h o) ∧
      (c.InPlace name config records h → ∃ o, stored = some o) := by
  obtain ⟨fresh, hexec, hfresh, hplace⟩ := exec_freshEntry hu hc hre ds
  have henabled : (c.on ds h).cache.enabled = true := hu.enabled
  unfold fetch
  rw [exec_bind, exec_get]
  simp only [henabled, Bool.not_true, Bool.false_eq_true, if_false]
  rw [exec_bind, exec_lift_run, hexec]
  cases fresh with
  | error f =>
    refine ⟨none, ds.map fun ds => ds.warn ("Failed to read cache for " ++ name ++ ": " ++ f.message)
      source trouble, rfl, nofun, fun hp => ?_⟩
    obtain ⟨e, he⟩ := hplace hp
    cases he
  | ok entry =>
    cases entry with
    | none =>
      refine ⟨none, ds, rfl, nofun, fun hp => ?_⟩
      obtain ⟨e, he⟩ := hplace hp
      cases he
    | some e =>
      obtain ⟨r₀, hr₀, fp, hfp, rfl, hnow⟩ := hfresh e rfl
      simp only
      rw [exec_bind, exec_get]
      simp only
      rcases payload_spec hu hc hre hfp with ⟨r₁, hr₁, hfp₁, hpay⟩ | ⟨e, hread, hpay⟩
      · rw [hpay]
        refine ⟨_, ds, rfl, fun o ho => ?_, fun _ => ⟨_, rfl⟩⟩
        exact ⟨r₀, hr₀, r₁, hr₁, fp, hfp, hfp₁, hnow, (Option.some.inj ho).symm⟩
      · rw [hpay]
        refine ⟨none, ds, rfl, nofun, fun hp => ?_⟩
        obtain ⟨bytes, hbytes⟩ := hp.payload r₀ hr₀ fp hfp
        cases hread.symm.trans hbytes

/-- Nothing is fetched where no index is. -/
theorem exec_fetch_of_absent (he : c.enabled = true)
    (hindex : h.isFile (c.below ["index.json"]).text = .ok false) :
    exec (fetch name config) (c.on ds h) = (.ok none, c.on ds h) := by
  have hfresh : exec (freshEntry name config) (c.on ds h) = (.ok none, c.on ds h) := by
    unfold freshEntry
    rw [exec_bind, exec_loadIndex_of_absent hindex]
    rfl
  have henabled : (c.on ds h).cache.enabled = true := he
  unfold fetch
  rw [exec_bind, exec_get]
  simp only [henabled, Bool.not_true, Bool.false_eq_true, if_false]
  rw [exec_bind, exec_lift_run, hfresh]
  rfl

/-! ## 4. Storing -/

/-- A step of storing: whatever its outcome, the cache is still the same, and in its directory nothing else was
written than may be. -/
def Stores (c : Cache) (writes : Host → Place → List UInt8 → Prop) (h : Host) (s : Site) : Prop :=
  ∃ ds h', s = c.on ds h' ∧ Effect (c.Holds h) (writes h) h h'

theorem exec_onFiles {α : Type} (op : FileOp α) (ds : Option Diagnostics) (h : Host) :
    exec (onFiles op) (c.on ds h) = ((exec op h).1.mapError .file, c.on ds (exec op h).2) := by
  unfold onFiles
  rw [exec_bind, exec_get]
  have hrun : StateT.run (ExceptT.run op) (c.on ds h).host = exec op h := rfl
  simp only [hrun]
  cases exec op h with
  | mk r h' => cases r <;> rfl

theorem exec_of_onFiles {α : Type} {op : FileOp α} {a : α} {ds ds' : Option Diagnostics}
    (he : exec (onFiles op) (c.on ds h) = (.ok a, c.on ds' h')) : exec op h = (.ok a, h') := by
  rw [exec_onFiles] at he
  cases hop : exec op h with
  | mk r h₁ =>
    rw [hop] at he
    obtain ⟨hr, hs⟩ := Prod.mk.inj he
    have hh : h₁ = h' := congrArg Site.host hs
    cases r with
    | error e => cases hr
    | ok a' => rw [Except.ok.inj hr, hh]

section Steps

variable {writes : Host → Place → List UInt8 → Prop}

theorem Stores.of_exec {α : Type} {op : Op α} {r : Except Fault α}
    (he : exec op (c.on ds h) = (r, c.on ds h)) : c.Stores writes h (exec op (c.on ds h)).2 :=
  ⟨ds, h, by rw [he], Effect.refl h⟩

theorem Stores.onFiles {α : Type} {op : FileOp α} (he : Effect (c.Holds h) (writes h) h (exec op h).2) :
    c.Stores writes h (exec (onFiles op) (c.on ds h)).2 :=
  ⟨ds, (exec op h).2, by rw [exec_onFiles], he⟩

theorem Stores.bind (hw : Steady writes) {α β : Type} {op : Op α} {k : α → Op β}
    (h₁ : c.Stores writes h (exec op (c.on ds h)).2)
    (h₂ : ∀ a ds' h', exec op (c.on ds h) = (.ok a, c.on ds' h') → Effect (c.Holds h) (writes h) h h' →
      c.Stores writes h' (exec (k a) (c.on ds' h')).2) :
    c.Stores writes h (exec (op >>= k) (c.on ds h)).2 := by
  obtain ⟨ds', h', hs', heff⟩ := h₁
  rw [exec_bind]
  cases hop : exec op (c.on ds h) with
  | mk r s' =>
    rw [hop] at hs'
    cases r with
    | error e => exact ⟨ds', h', hs', heff⟩
    | ok a =>
      have hp : c.place? h' = c.place? h := heff.land_eq true c.location
      obtain ⟨ds'', h'', hs'', heff'⟩ := h₂ a ds' h' (by rw [hop, ← hs']) heff
      rw [holds_congr hp, hw h h' heff.land_eq] at heff'
      refine ⟨ds'', h'', ?_, heff.trans heff'⟩
      rw [← hs'', ← hs']

theorem Ordinary.beside {front : List String} {n : String} (hn : Ordinary (front ++ [n])) :
    Ordinary (front ++ [n ++ ".tmp"]) := by
  intro m hm
  rcases List.mem_append.mp hm with hm | hm
  · exact hn m (List.mem_append_left _ hm)
  · rw [List.mem_singleton.mp hm]
    exact Path.isName_append (hn n (by simp)).1.no_slash (by decide) (by decide)

/-- The file beside the one to be written. -/
theorem beside_below (c : Cache) (front : List String) (n : String) :
    (c.below (front ++ [n])).parent.child ((c.below (front ++ [n])).name ++ ".tmp") =
      c.below (front ++ [n ++ ".tmp"]) := by
  simp [below, Path.parent, Path.child, Path.name, ← List.append_assoc]

/-- Writing a value writes it where its path lands, by way of a file beside it. -/
theorem Stores.writeJson (hw : Steady writes) (hproper : c.location.Proper) (hno : c.NoLinks h)
    (front : List String) {n : String} (hn : Ordinary (front ++ [n])) {v : Value}
    (hbeside : ∀ q bytes, h.land true (c.below (front ++ [n ++ ".tmp"])) = some q → writes h q bytes)
    (hfile : ∀ q text, h.land false (c.below (front ++ [n])) = some q → Json.writePretty v = .ok text →
      writes h q (Utf8.encode text)) :
    c.Stores writes h (exec (writeJson (c.below (front ++ [n])) v) (c.on ds h)).2 := by
  have hordinary := hn.beside
  unfold Cache.writeJson
  rw [beside_below]
  refine Stores.bind hw (Stores.onFiles (FileOp.effect_makeDirs _ h)) fun _ ds₁ h₁ _ heff₁ => ?_
  have hno₁ := hno.effect heff₁
  refine Stores.bind hw (Stores.of_exec (exec_lift _ _)) fun text ds₂ h₂ htext heff₂ => ?_
  have hv : Json.writePretty v = .ok text := by
    rw [exec_lift] at htext
    exact mapError_eq_ok_iff.mp (Prod.mk.inj htext).1
  have hno₂ := hno₁.effect heff₂
  have hland₂ : ∀ follow path, h₂.land follow path = h.land follow path :=
    fun follow path => (heff₂.land_eq follow path).trans (heff₁.land_eq follow path)
  refine Stores.bind hw (Stores.onFiles (FileOp.effect_writeBytes hno₂.region (proper_below hproper hordinary)
    (fun q => holds_of_land hno₂ hordinary (by simp)) _ fun q hq => ?_)) fun _ ds₃ h₃ hexec heff₃ => ?_
  · rw [hw h h₂ hland₂]
    exact hbeside q _ ((hland₂ true _).symm.trans hq)
  obtain ⟨q₀, hq₀, hnode⟩ :=
    FileOp.node?_of_writeBytes (proper_below hproper hordinary) (exec_of_onFiles hexec)
  have hno₃ := hno₂.effect heff₃
  refine Stores.onFiles (FileOp.effect_move hno₃.region (proper_below hproper hordinary)
    (proper_below hproper hn) (fun q => holds_of_land hno₃ hordinary (by simp))
    (fun q => holds_of_land hno₃ hn (by simp)) fun p q bytes m hp hmoved hq => ?_)
  have hsame : p = q₀ := by
    obtain ⟨d, hd, rfl⟩ := place_of_land hno₃ hordinary (by simp) hp
    obtain ⟨d', hd', rfl⟩ := place_of_land hno₂ hordinary (by simp) hq₀
    have hplace : c.place? h₃ = c.place? h₂ := heff₃.land_eq true c.location
    cases hd.symm.trans (hplace.trans hd')
    rfl
  rw [hsame, hnode] at hmoved
  cases hmoved
  have hland₃ : ∀ follow path, h₃.land follow path = h.land follow path :=
    fun follow path => (heff₃.land_eq follow path).trans (hland₂ follow path)
  rw [hw h h₃ hland₃]
  exact hfile q text ((hland₃ false _).symm.trans hq) hv

end Steps

/-- A name with an ending that no file read by the cache has. -/
theorem genuine_beside (front : List String) (n : String) (bytes : List UInt8) :
    c.Genuine name config records (front ++ [n ++ ".tmp"]) bytes := by
  have hend : ∀ (whole : List String) (m : String), front ++ [n ++ ".tmp"] = whole ++ [m ++ ".json"] → False := by
    intro whole m heq
    have hlast := congrArg List.getLast? heq
    simp only [List.getLast?_concat, Option.some.injEq] at hlast
    have hchars := congrArg (fun s : String => s.toList.getLast?) hlast
    simp at hchars
  exact ⟨fun hn => (hend [] "index" hn).elim, fun s hn => (hend ["files"] (Sha256.hex s) hn).elim⟩

/-- What may be in a file may be written where a path to it lands. -/
theorem writes_of_land (hno : c.NoLinks h) {names : List String} (hn : Ordinary names) (hne : names ≠ [])
    {bytes : List UInt8} (hg : c.Genuine name config records names bytes) {follow : Bool} (q : Place)
    (hq : h.land follow (c.below names) = some q) : c.Writes name config records h q bytes := by
  intro d names' hd hdq
  obtain ⟨d', hd', rfl⟩ := place_of_land hno hn hne hq
  cases hd.symm.trans hd'
  rw [← List.append_cancel_left hdq]
  exact hg

/-- Writing a value that may be in its file. -/
theorem Stores.writeGenuine (hproper : c.location.Proper) (hno : c.NoLinks h) (front : List String)
    {n : String} (hn : Ordinary (front ++ [n])) {v : Value}
    (hg : ∀ text, Json.writePretty v = .ok text →
      c.Genuine name config records (front ++ [n]) (Utf8.encode text)) :
    c.Stores (c.Writes name config records) h (exec (Cache.writeJson (c.below (front ++ [n])) v) (c.on ds h)).2 :=
  Stores.writeJson (steady_writes c name config records) hproper hno front hn
    (fun q bytes => writes_of_land hno hn.beside (by simp) (genuine_beside front n bytes) q)
    (fun q text hq hv => writes_of_land hno hn (by simp) (hg text hv) q hq)

theorem genuine_index {r : Record} (hr : r ∈ records) {fp text : String}
    (hfp : c.Marked name config r fp) (hw : Json.writePretty (c.indexValue name r fp) = .ok text) :
    c.Genuine name config records ["index.json"] (Utf8.encode text) :=
  ⟨fun _ => ⟨r, hr, fp, text, hfp, hw, rfl⟩, fun _ hn => by simp at hn⟩

theorem genuine_payload {r : Record} (hr : r ∈ records) {m text : String}
    (hfp : c.Marked name config r (Sha256.hex m)) (hw : Json.writePretty r.outcome.toValue = .ok text) :
    c.Genuine name config records ["files", Sha256.hex m ++ ".json"] (Utf8.encode text) := by
  refine ⟨fun hn => ?_, fun s hn => ?_⟩
  · simp at hn
  · have hname : Sha256.hex m ++ ".json" = Sha256.hex s ++ ".json" := by
      simpa using hn
    rw [String.append_left_inj] at hname
    rw [hname] at hfp
    exact ⟨r, hr, text, hfp, hw, rfl⟩

theorem exec_saveIndex (r : Record) (fp : String) (ds : Option Diagnostics) (h : Host) :
    exec (saveIndex [(name, r.entry fp)]) (c.on ds h) =
      exec (Cache.writeJson (c.below ["index.json"]) (c.indexValue name r fp)) (c.on ds h) := by
  unfold saveIndex
  rw [exec_bind, exec_get]
  rfl

/-- The writing part of storing a run. -/
theorem Stores.writeRun (hu : c.InUse) (hno : c.NoLinks h) {records' : List Record} {i : CacheIndex}
    (hi : c.Single name config records' i) {r : Record} (hr : r ∈ records) {fp : String}
    (hfp : c.Marked name config r fp) :
    c.Stores (c.Writes name config records) h (exec (do
      Cache.writeJson (c.payloadPath (fp ++ ".json")) r.outcome.toValue
      saveIndex (Assoc.put name (r.entry fp) i)
      match Assoc.get? name i with
      | none => pure ()
      | some old =>
        if old.resultFile ≠ fp ++ ".json" then
          Cache.onFiles (FileOp.unlink (c.payloadPath old.resultFile).text)) (c.on ds h)).2 := by
  obtain ⟨m, -, rfl⟩ := exists_material hu hfp
  have hput : Assoc.put name (r.entry (Sha256.hex m)) i = [(name, r.entry (Sha256.hex m))] := by
    rcases hi with rfl | ⟨r', -, fp', -, rfl⟩ <;> simp [Assoc.put]
  rw [payloadPath_eq, hput]
  have hw := steady_writes c name config records
  refine Stores.bind hw (Stores.writeGenuine hu.proper hno ["files"] (ordinary_payload m) fun text =>
    genuine_payload hr hfp) fun _ ds₁ h₁ _ heff₁ => ?_
  have hno₁ := hno.effect heff₁
  have hindex : c.Stores (c.Writes name config records) h₁
      (exec (saveIndex [(name, r.entry (Sha256.hex m))]) (c.on ds₁ h₁)).2 := by
    rw [exec_saveIndex]
    exact Stores.writeGenuine hu.proper hno₁ [] ordinary_index fun text => genuine_index hr hfp
  refine Stores.bind hw hindex fun _ ds₂ h₂ _ heff₂ => ?_
  have hno₂ := hno₁.effect heff₂
  rcases hi with rfl | ⟨r', -, fp', hfp', rfl⟩
  · exact Stores.of_exec (exec_pure _ _)
  · obtain ⟨m', -, rfl⟩ := exists_material hu hfp'
    have hget : Assoc.get? name [(name, r'.entry (Sha256.hex m'))] = some (r'.entry (Sha256.hex m')) := by
      simp [Assoc.get?]
    have hpath : c.payloadPath (r'.entry (Sha256.hex m')).resultFile =
        c.below ["files", Sha256.hex m' ++ ".json"] := payloadPath_eq c m'
    simp only [hget, hpath]
    split
    · exact Stores.onFiles (FileOp.effect_unlink hno₂.region (proper_below hu.proper (ordinary_payload m'))
        fun q => holds_of_land hno₂ (ordinary_payload m') (by simp))
    · exact Stores.of_exec (exec_pure _ _)

/-- Storing writes nothing but the run at hand. -/
theorem Stores.storeEntry (hu : c.InUse) (hc : c.Consistent name config records h)
    (hre : c.Rereads name config records) {o : Outcome} (ho : Order.sortedDistinct o.files = o.files)
    (ds : Option Diagnostics) :
    c.Stores (c.Writes name config (⟨h, o.files, o⟩ :: records)) h
      (exec (storeEntry name o config) (c.on ds h)).2 := by
  obtain ⟨loaded, hload, hloaded, -⟩ := exec_loadIndex hu hc hre ds
  unfold Cache.storeEntry
  rw [exec_bind, exec_get]
  simp only [ho]
  rw [exec_bind, exec_lift]
  cases hfp : c.fingerprint h name config o.files with
  | error e =>
    have hsite : (c.on ds h).cache.fingerprint (c.on ds h).host name config o.files = .error e := hfp
    rw [hsite]
    exact ⟨ds, h, rfl, Effect.refl h⟩
  | ok fp =>
    have hsite : (c.on ds h).cache.fingerprint (c.on ds h).host name config o.files = .ok fp := hfp
    rw [hsite]
    simp only
    rw [exec_bind, hload]
    cases loaded with
    | error e => exact ⟨ds, h, rfl, Effect.refl h⟩
    | ok i => exact Stores.writeRun hu hc.noLinks (hloaded i rfl) List.mem_cons_self hfp

theorem run_store_eq (s : Site) (he : s.cache.enabled = true) (o : Outcome) :
    (store name o config).run s = match exec (storeEntry name o config) s with
      | (.ok (), s') => ((), s')
      | (.error f, s') =>
        (warn ("Failed to write cache for " ++ name ++ ": " ++ f.message)).run s' := by
  unfold store
  rw [StateT.run_bind]
  show (if s.cache.enabled = true then _ else _ : StateM Site Unit).run s = _
  rw [if_pos he, StateT.run_bind]
  show (exec (storeEntry name o config) s >>= _ : Id _) = _
  cases exec (storeEntry name o config) s with
  | mk r s' => cases r <;> rfl

/-- A cache that is not enabled stores nothing. -/
theorem run_store_off (s : Site) (he : s.cache.enabled = false) (o : Outcome) : (store name o config).run s = ((), s) := by
  unfold store
  rw [StateT.run_bind]
  show (if s.cache.enabled = true then _ else _ : StateM Site Unit).run s = _
  rw [if_neg (by rw [he]; exact Bool.false_ne_true)]
  rfl

/-- An outcome has been stored. -/
def afterStore (name : String) (o : Outcome) (config : Option Config) (s : Site) : Site :=
  ((store name o config).run s).2

theorem afterStore_of_ok {o : Outcome} {s s' : Site} (he : s.cache.enabled = true)
    (hexec : exec (storeEntry name o config) s = (.ok (), s')) : afterStore name o config s = s' := by
  rw [afterStore, run_store_eq s he, hexec]

/-- **Storing** a run leaves the directory consistent and changes no file outside of it. -/
theorem run_store (hu : c.InUse) (hc : c.Consistent name config records h)
    (hre : c.Rereads name config records) {o : Outcome} (ho : Order.sortedDistinct o.files = o.files)
    (ds : Option Diagnostics) :
    ∃ ds' h' written, (store name o config).run (c.on ds h) = ((), c.on ds' h') ∧
      Effect (c.Holds h) written h h' ∧ c.Consistent name config (⟨h, o.files, o⟩ :: records) h' := by
  obtain ⟨ds', h', hs, heff⟩ := Stores.storeEntry hu hc hre ho ds
  have hc' := (hc.cons ⟨h, o.files, o⟩).effect heff
  rw [run_store_eq _ hu.enabled]
  cases hexec : exec (storeEntry name o config) (c.on ds h) with
  | mk r s' =>
    rw [hexec] at hs
    cases hs
    cases r with
    | ok _ => exact ⟨ds', h', _, rfl, heff, hc'⟩
    | error f => exact ⟨_, h', _, rfl, heff, hc'⟩

end Cache

end AgentLint
