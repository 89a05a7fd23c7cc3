import AgentLint.Proofs.Cache.History
import AgentLint.Proofs.Cache.Ledger
import AgentLint.Proofs.FileTree.ShortForm
import AgentLint.Proofs.Rule.Instructions

/-!
# A cache nobody notices

Rules that see nothing but the path, the text and the options of a file give the same outcome with a cache as
without one, at every run of every history (`cached_eq_uncached`).

The rules for instruction files are not of this kind: one of them looks whether imported files are there, and
the fingerprint of a run does not track these.  Such a run gives the outcome of a host on which the files
themselves read the same but imports may have come or gone since; as long as none has, nobody notices
(`instructions_cached`).  `stale_after_removal` is a history in which one has gone.
-/

namespace AgentLint

theorem Outcome.unmended_unmended (o : Outcome) : o.unmended.unmended = o.unmended := by
  simp only [Outcome.unmended, List.map_map]
  rfl

namespace Family

open Cache

variable {f : Family} {registry : Registry} {config : Option Config} {c : Cache} {past : List Host}
  {records : List Record} {s : Site} {files : List String}

/-- A path that leads to a file leads to the text that a run reads. -/
theorem textAt_of_readBytes {h : Host} {path : String} {bytes : List UInt8}
    (hread : h.readBytes path = .ok bytes) : textAt h path = h.readText path := by
  have hshort := Host.readBytes_normal hread
  unfold textAt Host.readText
  rw [hshort, hread]

/-- A file that can be checked has bytes. -/
theorem exists_readBytes {h : Host} (hf : c.Checkable h files) {path : String} (hp : path ∈ files) :
    ∃ bytes, h.readBytes path = .ok bytes := by
  obtain ⟨q, bytes, m, hstat, -⟩ := hf.regular path hp
  exact ⟨bytes, Host.readBytes_of_stat hstat⟩

/-- Files that read the same on two hosts are read alike by a run. -/
theorem textAt_eq {h h₀ : Host} (hf : c.Checkable h files) {path : String} (hp : path ∈ files)
    (hread : h.readBytes path = h₀.readBytes path) : textAt h path = textAt h₀ path := by
  obtain ⟨bytes, hbytes⟩ := exists_readBytes hf hp
  rw [textAt_of_readBytes hbytes, textAt_of_readBytes (hread ▸ hbytes), Host.readText_congr hread]

/-! ## 1. A history -/

/-- The built-in family of instruction files. -/
def instructions : Family := ⟨"claude-md", .claudeMd, ["**/CLAUDE.md", "**/.claude/rules/*.md"], false⟩

/-- An instruction file, and the file that it imports. -/
def sampleHost : Host where
  tree := [(["CLAUDE.md"], .file (Utf8.encode "@x") 1), (["x"], .file [] 2)]
  cwd := []
  home := "/"
  accounts := []
  now := 0

/-- A cache beside them. -/
def sampleCache : Cache := { location := ⟨0, ["c"]⟩, version := "1" }

/-- Nothing is wrong with the file. -/
def sampleOutcome : Outcome := { files := ["CLAUDE.md"] }

/-- The first run over the file. -/
def sampleRun : Record := ⟨sampleHost, ["CLAUDE.md"], sampleOutcome⟩

/-- The first run, as it is stored. -/
def sampleDeposit : Deposit := ⟨"1", instructions.name, none, sampleOutcome, sampleHost⟩

/-- What the first run leaves. -/
def afterRun : Site := ((store instructions.name sampleOutcome none).run (sampleCache.on none sampleHost)).2

/-- The same without the imported file. -/
def afterRemoval : Host := { afterRun.host with tree := afterRun.host.tree.without ["x"] }

/-- The kernel compares the two by name; comparing the first run with what it is defined to be would compute it. -/
theorem afterRun_eq : afterRun = afterStore instructions.name sampleOutcome none (sampleCache.on none sampleHost) := rfl

theorem inUse_sampleCache : sampleCache.InUse := by
  refine ⟨⟨Nat.zero_le 2, fun n hn => ?_⟩, rfl, rfl⟩
  rw [List.mem_singleton.mp hn]
  exact ⟨by decide, by decide, by decide⟩

/-- What can be seen before the first run. -/
theorem seen_sampleHost :
    sampleCache.place? sampleHost = some ["c"] ∧
      sampleHost.stat "CLAUDE.md" = .ok (["CLAUDE.md"], .file (Utf8.encode "@x") 1) ∧
      sampleHost.isFile (sampleCache.below ["index.json"]).text = .ok false ∧
      ((instructions.lint sampleHost Builtin.registry none ["CLAUDE.md"]).toOption.map fun o =>
        (o.errors.length, o.warnings.length, o.deprecated.length, o.files)) = some (0, 0, 0, ["CLAUDE.md"]) := by
  decide +kernel

/-- What is computed for storing the first run: it has a fingerprint, can be written, and reads back, and the
directories of the cache can be made. -/
theorem seen_sampleDeposit :
    ((sampleDeposit.material sampleCache).toOption ≠ none ∧
        (Json.writePretty sampleOutcome.toValue).toOption ≠ none) ∧
      (Json.checksOut sampleOutcome.toValue = true ∧ Json.checksOut (.float (secondsOf sampleHost.now)) = true) ∧
      (∀ k ≤ 1, sampleHost.land false ⟨0, ["c"].take k⟩ = some (["c"].take k)) ∧
      (exec (FileOp.makeDirs (sampleCache.below ["files"])) sampleHost).1.toOption = some () ∧
      ((exec (FileOp.makeDirs (sampleCache.below ["files"])) sampleHost).2.stat
        (sampleCache.below ["files"]).text).toOption = some (["c"] ++ ["files"], .dir 0) := by
  decide +kernel

/-- An index of the first run reads back. -/
theorem rereads_sampleIndex (text : String) :
    Json.Rereads (CacheIndex.toValue "1" [(instructions.name, ⟨Sha256.hex text, secondsOf sampleHost.now,
      Sha256.hex text ++ ".json", ["CLAUDE.md"]⟩)]) := by
  obtain ⟨-, ⟨-, htime⟩, -⟩ := seen_sampleDeposit
  have hsafe := Sha256.safeText_hex text
  have hname : Text.Whole instructions.name := by decide
  have hfiles : ∀ p ∈ ["CLAUDE.md"], Text.Whole p := by decide
  refine CacheIndex.rereads_of_faithful (by decide) (by simp [Assoc.keys]) fun f hf => ?_
  rw [List.mem_singleton.mp hf]
  exact ⟨hname, Text.whole_of_safe hsafe, Text.whole_of_safe (hsafe.append (by decide)), hfiles,
    Json.rereads_of_checksOut htime⟩

theorem rereads_sampleRun : sampleCache.Rereads instructions.name none [sampleRun] := by
  obtain ⟨-, ⟨houtcome, -⟩, -⟩ := seen_sampleDeposit
  intro r hr
  rw [List.mem_singleton.mp hr]
  refine ⟨Json.rereads_of_checksOut houtcome, fun fp hfp => ?_⟩
  obtain ⟨text, -, rfl⟩ := exists_material inUse_sampleCache hfp
  exact rereads_sampleIndex text

theorem vacant_sampleHost : ∀ q, sampleCache.Holds sampleHost q → sampleHost.tree.node? q = none := by
  rintro q ⟨d, hd, hq⟩
  cases seen_sampleHost.1.symm.trans hd
  obtain ⟨rest, rfl⟩ := hq
  simp [FileTree.node?, sampleHost, Assoc.get?]

/-- The file can be checked wherever it is found. -/
theorem checkable_sample {h : Host} (hplace : sampleCache.place? h = some ["c"])
    (hs : h.stat "CLAUDE.md" = .ok (["CLAUDE.md"], .file (Utf8.encode "@x") 1)) :
    sampleCache.Checkable h ["CLAUDE.md"] := by
  refine ⟨List.pairwise_singleton _ _, ?_, ?_⟩
  · intro p hp
    rw [List.mem_singleton.mp hp]
    have hall : ("CLAUDE.md".toList.all fun c => decide ¬ (0xD800 ≤ Text.codeOf c ∧ Text.codeOf c ≤ 0xDBFF)) =
        true := by decide
    intro c hc
    unfold Json.NoFirstHalf
    exact of_decide_eq_true (List.all_eq_true.mp hall c hc)
  · intro p hp
    rw [List.mem_singleton.mp hp]
    refine ⟨_, _, _, hs, ?_⟩
    rintro ⟨d, hd, hq⟩
    cases hplace.symm.trans hd
    exact absurd hq (by decide)

theorem checkable_sampleHost : sampleCache.Checkable sampleHost ["CLAUDE.md"] := by
  obtain ⟨hplace, hstat, -⟩ := seen_sampleHost
  exact checkable_sample hplace hstat

/-- One text only is condensed as long as the file keeps its time of change. -/
theorem noCollision_sample {h : Host}
    (hm : (sampleCache.material h instructions.name none ["CLAUDE.md"]).toOption =
      (sampleCache.material sampleHost instructions.name none ["CLAUDE.md"]).toOption) :
    sampleCache.NoCollision instructions.name none [sampleRun] h := by
  have hone : ∀ a, sampleCache.Condensed instructions.name none [sampleRun] h a →
      (sampleCache.material sampleHost instructions.name none ["CLAUDE.md"]).toOption = some a := by
    rintro a ⟨r, hr, hthen | hnow⟩
    · rw [List.mem_singleton.mp hr] at hthen
      exact congrArg Except.toOption hthen
    · rw [List.mem_singleton.mp hr] at hnow
      rw [← hm]
      exact congrArg Except.toOption hnow
  intro a b ha hb _
  exact Option.some.inj ((hone a ha).symm.trans (hone b hb))

theorem eq_sampleOutcome {x : Except Fault Outcome}
    (hx : (x.toOption.map fun o => (o.errors.length, o.warnings.length, o.deprecated.length, o.files)) =
      some (0, 0, 0, ["CLAUDE.md"])) : x = .ok sampleOutcome := by
  cases x with
  | error e => cases hx
  | ok o =>
    obtain ⟨errors, warnings, deprecated, files⟩ := o
    simp only [Except.toOption, Option.map_some, Option.some.injEq, Prod.mk.injEq,
      List.length_eq_zero_iff] at hx
    obtain ⟨rfl, rfl, rfl, rfl⟩ := hx
    rfl

theorem fetch_sampleHost : exec (fetch instructions.name none) (sampleCache.on none sampleHost) =
    (.ok none, sampleCache.on none sampleHost) := by
  obtain ⟨-, -, habsent, -⟩ := seen_sampleHost
  exact exec_fetch_of_absent rfl habsent

theorem recorded_sampleHost (hlint : instructions.lint sampleHost registry none ["CLAUDE.md"] = .ok sampleOutcome) :
    instructions.recorded registry none ["CLAUDE.md"] (sampleCache.on none sampleHost) = [sampleRun] := by
  have hsite : instructions.lint (sampleCache.on none sampleHost).host registry none ["CLAUDE.md"] =
      .ok sampleOutcome := hlint
  unfold recorded
  rw [fetch_sampleHost, hsite]
  rfl

theorem site_afterRun (hlint : instructions.lint sampleHost registry none ["CLAUDE.md"] = .ok sampleOutcome) :
    (exec (instructions.lintCached registry none ["CLAUDE.md"]) (sampleCache.on none sampleHost)).2 = afterRun := by
  rw [afterRun_eq, afterStore]
  exact site_lintCached_of_miss fetch_sampleHost rfl hlint

/-- The first run, with any rules that find nothing. -/
theorem history_afterRun (hlint : instructions.lint sampleHost registry none ["CLAUDE.md"] = .ok sampleOutcome) :
    History instructions registry none sampleCache [afterRun.host, sampleHost] [sampleRun] afterRun := by
  have hstart : History instructions registry none sampleCache [sampleHost] []
      (sampleCache.on none sampleHost) := History.start none sampleHost vacant_sampleHost
  have hrun := History.run ["CLAUDE.md"] hstart checkable_sampleHost
  rw [site_afterRun hlint, recorded_sampleHost hlint] at hrun
  exact hrun

theorem legible_sampleDeposit : Legible sampleCache [.stored sampleDeposit] := by
  obtain ⟨-, ⟨houtcome, -⟩, -⟩ := seen_sampleDeposit
  have hname : Text.Whole sampleDeposit.name := by decide
  have hfiles : sampleDeposit.files = ["CLAUDE.md"] := checkable_sampleHost.sorted.sortedDistinct_eq
  refine legible_singleton (Json.rereads_of_checksOut houtcome)
    (Json.rereads_of_returns (Json.returns_text_of_whole hname) (by decide)) ?_
  rw [Deposit.entry, hfiles]
  exact rereads_sampleIndex _

/-- The places of the path of the cache. -/
theorem onWay_sampleCache {q : Place} (hq : OnWay sampleHost sampleCache.location q) : q = [] ∨ q = ["c"] := by
  obtain ⟨-, -, hland, -⟩ := seen_sampleDeposit
  have hprefix : q <+: ["c"] := hq.isPrefix hland
  simpa [List.prefix_cons_iff] using hprefix

theorem ledger_sampleHost : Ledger sampleCache ["c"] [] sampleHost := by
  obtain ⟨-, -, hland, -⟩ := seen_sampleDeposit
  have hplace := seen_sampleHost.1
  have hgrounded : sampleHost.tree.Grounded := FileTree.grounded_of_flat (by decide)
  exact .start sampleHost (.of_land hplace hland ⟨hgrounded, 0, rfl⟩ (by decide)) fun q hq =>
    vacant_sampleHost q ⟨_, hplace, hq⟩

/-- The first run takes effect. -/
theorem exists_afterRun : ∃ h', afterRun = sampleCache.on none h' ∧ Furnished sampleCache ["c"] sampleHost h' ∧
    ∃ s, Stocked sampleCache ["c"] s h' ∧ s.Rereads ∧ Present sampleCache sampleDeposit s := by
  have hu := inUse_sampleCache
  have hre := legible_sampleDeposit
  obtain ⟨⟨hmaterial, hwritable⟩, -, -, hmade, hopens⟩ := seen_sampleDeposit
  obtain ⟨-, -, habsent, -⟩ := seen_sampleHost
  obtain ⟨text, htext⟩ := Option.ne_none_iff_exists'.mp hmaterial
  obtain ⟨written, hwritten⟩ := Option.ne_none_iff_exists'.mp hwritable
  obtain ⟨s₀, hs₀, -⟩ := ledger_sampleHost.accounts hu (hre.mono nofun)
  have hroomy : Roomy sampleCache := roomy_of_front (by decide) (by decide)
  obtain ⟨h', hexec, -⟩ := hs₀.exec_storeEntry_of_made hu hroomy habsent (Prod.ext (eq_ok_of_toOption hmade) rfl)
    ⟨0, Host.locate_of_stat (eq_ok_of_toOption hopens)⟩ (eq_ok_of_toOption htext)
    ⟨written, eq_ok_of_toOption hwritten⟩ none
  have hok : (exec (storeEntry instructions.name sampleOutcome none)
      ((sampleCache.ofVersion "1").on none sampleHost)).1 = .ok () := congrArg Prod.fst hexec
  obtain ⟨s, hs, ha, hp, hf⟩ := ledger_sampleHost.exists_present hu (hre.mono nofun) (events_store hok)
  have hhost : Call.host sampleCache sampleHost ⟨"1", none, .store instructions.name sampleOutcome none⟩ = h' :=
    (host_store "1" none instructions.name sampleOutcome none hu.enabled sampleHost).trans
      (congrArg (fun ended => ended.2.host) hexec)
  rw [hhost] at hs hf
  exact ⟨h', afterRun_eq.trans (afterStore_of_ok hu.enabled hexec), hf, s, hs, ha.rereads hre, hp⟩

/-! ### Outside the directory -/

/-- The host without the imported file, before the first run. -/
def removedHost : Host := { sampleHost with tree := sampleHost.tree.without ["x"] }

/-- A host that differs from another in the directory of the cache alone. -/
structure AlikeOutside (h h' : Host) : Prop where
  only_tree : h' = { h with tree := h'.tree }
  node?_eq : ∀ q, ¬ ["c"] <+: q → h'.tree.node? q = h.tree.node? q

theorem alikeOutside_of_furnished {h : Host} (hf : Furnished sampleCache ["c"] sampleHost h) :
    AlikeOutside sampleHost h := by
  refine ⟨hf.only_tree, fun q hq => (hf.outside q hq).resolve_right fun ⟨hway, hnone, _⟩ => ?_⟩
  rcases onWay_sampleCache hway with rfl | rfl
  · cases hnone
  · exact hq (List.prefix_refl _)

/-- Removing the imported file from both keeps them alike. -/
theorem AlikeOutside.without {h : Host} (ha : AlikeOutside sampleHost h) :
    AlikeOutside removedHost { h with tree := h.tree.without ["x"] } := by
  refine ⟨?_, fun q hq => ?_⟩
  · rw [ha.only_tree]
    rfl
  · by_cases hx : ["x"] <+: q
    · have hne : q ≠ [] := by rintro rfl; simp at hx
      rw [removedHost, FileTree.node?_without _ _ _ hne, FileTree.node?_without _ _ _ hne, if_pos hx, if_pos hx]
    · rw [removedHost, FileTree.node?_without_of_not hx, FileTree.node?_without_of_not hx, ha.node?_eq q hq]

/-- What can be seen with and without the imported file. -/
theorem seen_both : ∀ h ∈ [sampleHost, removedHost],
    (∀ path ∈ ["CLAUDE.md", "x"], ∀ q ∈ h.looked path, ¬ ["c"] <+: q) ∧
      h.stat "CLAUDE.md" = .ok (["CLAUDE.md"], .file (Utf8.encode "@x") 1) ∧
      (textAt h "CLAUDE.md").toOption = some "@x" ∧
      (h.expandUser (Path.ofString "x")).toOption = some (Path.ofString "x") := by
  decide +kernel

section Alike

variable {h h' : Host} (ha : AlikeOutside h h') (hh : h ∈ [sampleHost, removedHost])

include ha hh

theorem stat_alike {path : String} (hp : path ∈ ["CLAUDE.md", "x"]) : h'.stat path = h.stat path :=
  Host.stat_congr (by rw [ha.only_tree]) fun q hq => ha.node?_eq q ((seen_both h hh).1 path hp q hq)

theorem seen_alike : h'.stat "CLAUDE.md" = .ok (["CLAUDE.md"], .file (Utf8.encode "@x") 1) ∧
    (sampleCache.material h' instructions.name none ["CLAUDE.md"]).toOption =
      (sampleCache.material sampleHost instructions.name none ["CLAUDE.md"]).toOption := by
  have hstat := (stat_alike ha hh List.mem_cons_self).trans (seen_both h hh).2.1
  refine ⟨hstat, congrArg Except.toOption (material_congr _ _ fun p hp => ?_)⟩
  rw [Order.mem_sortedDistinct] at hp
  rw [List.mem_singleton.mp hp, Host.mtime?, Host.mtime?, hstat, seen_sampleHost.2.1]

end Alike

theorem noLink_sampleHost (q : Place) (target : String) (m : Int) :
    sampleHost.tree.node? q ≠ some (.link target m) := by
  simp only [FileTree.node?, sampleHost, Assoc.get?]
  split_ifs <;> simp

/-- What can be seen after the first run. -/
theorem seen_afterRun :
    sampleCache.place? afterRun.host = some ["c"] ∧
      afterRun.host.stat "CLAUDE.md" = .ok (["CLAUDE.md"], .file (Utf8.encode "@x") 1) ∧
      (sampleCache.material afterRun.host instructions.name none ["CLAUDE.md"]).toOption =
        (sampleCache.material sampleHost instructions.name none ["CLAUDE.md"]).toOption := by
  obtain ⟨h, hafter, hf, -⟩ := exists_afterRun
  rw [hafter]
  exact ⟨(hf.land_eq _ _).trans seen_sampleHost.1, seen_alike (alikeOutside_of_furnished hf) List.mem_cons_self⟩

/-! ## 2. Rules that see the text alone -/

/-- **A cached run finds what an uncached run finds**, or fails as it does, mended texts aside. -/
theorem cached_eq_uncached (hu : c.InUse) (hdet : ContentDetermined registry f.category)
    (hist : History f registry config c past records s) (hre : c.Rereads f.name config records)
    (hno : c.NoCollision f.name config records s.host) (hf : c.Checkable s.host files) :
    (exec (f.lintCached registry config files) s).1.map Outcome.unmended =
      (f.lint s.host registry config files).map Outcome.unmended := by
  rcases hist.answer hu hre hno hf with hnow | ⟨r, -, hlint, hread, hstored⟩
  · rw [hnow]
  · have hsame : f.lint s.host registry config files = f.lint r.host registry config files :=
      lint_congr fun path hp =>
        ⟨textAt_eq hf hp (hread path hp), fun content _ rule hrule => hdet rule hrule path content _ _⟩
    rw [hstored, hsame, hlint]
    exact congrArg Except.ok r.outcome.unmended_unmended

/-- Rules about the size of a file. -/
def sizeRules : Registry := Registry.empty.addAll (Builtin.instructionRules.take 2)

theorem contentDetermined_sizeRules : ContentDetermined sizeRules .claudeMd := by
  have hrules : sizeRules.ofCategory .claudeMd = Builtin.instructionRules.take 2 := rfl
  have hids : ∀ rule ∈ Builtin.instructionRules.take 2, rule.info.id ≠ Builtin.importRule := by decide
  intro rule hrule path content h h'
  rw [hrules] at hrule
  exact Builtin.agreesAt_instructions (List.mem_of_mem_take hrule) fun hid => absurd hid (hids rule hrule)

theorem second_run_unnoticed :
    (exec (instructions.lintCached sizeRules none ["CLAUDE.md"]) afterRun).1.map Outcome.unmended =
      (instructions.lint afterRun.host sizeRules none ["CLAUDE.md"]).map Outcome.unmended := by
  obtain ⟨hplace, hstat, hmaterial⟩ := seen_afterRun
  exact cached_eq_uncached inUse_sampleCache contentDetermined_sizeRules
    (history_afterRun (eq_sampleOutcome (by decide +kernel))) rereads_sampleRun
    (noCollision_sample hmaterial) (checkable_sample hplace hstat)

/-! ## 3. Instruction files -/

theorem agreesAt_builtin (hcat : f.category = .claudeMd) {h h' : Host} {path content : String}
    (himports : Builtin.ImportsAgree h h' path content) :
    ∀ rule ∈ Builtin.registry.ofCategory f.category, rule.AgreesAt path content h h' := by
  have hrules : Builtin.registry.ofCategory .claudeMd = Builtin.instructionRules := rfl
  intro rule hrule
  rw [hcat, hrules] at hrule
  exact Builtin.agreesAt_instructions hrule fun _ => himports

/-- **A cached run over instruction files** finds what an uncached run finds on some host, now or when an
outcome was stored, that has the same files; if the imports of the files are there on it as they are now, that
is what an uncached run finds now. -/
theorem instructions_cached (hu : c.InUse) (hcat : f.category = .claudeMd)
    (hist : History f Builtin.registry config c past records s) (hre : c.Rereads f.name config records)
    (hno : c.NoCollision f.name config records s.host) (hf : c.Checkable s.host files) :
    ∃ h₀ ∈ s.host :: records.map Record.host,
      (∀ path ∈ files, s.host.readText path = h₀.readText path) ∧
      (exec (f.lintCached Builtin.registry config files) s).1.map Outcome.unmended =
        (f.lint h₀ Builtin.registry config files).map Outcome.unmended ∧
      ((∀ path ∈ files, ∀ content, h₀.readText path = .ok content →
          Builtin.ImportsAgree h₀ s.host path content) →
        (exec (f.lintCached Builtin.registry config files) s).1.map Outcome.unmended =
          (f.lint s.host Builtin.registry config files).map Outcome.unmended) := by
  rcases hist.answer hu hre hno hf with hnow | ⟨r, hr, hlint, hread, hstored⟩
  · refine ⟨s.host, List.mem_cons_self, fun _ _ => rfl, ?_, fun _ => ?_⟩ <;> rw [hnow]
  · have hthen : (exec (f.lintCached Builtin.registry config files) s).1.map Outcome.unmended =
        (f.lint r.host Builtin.registry config files).map Outcome.unmended := by
      rw [hstored, hlint]
      exact congrArg Except.ok r.outcome.unmended_unmended
    refine ⟨r.host, List.mem_cons_of_mem _ (List.mem_map_of_mem hr),
      fun path hp => Host.readText_congr (hread path hp), hthen, fun himports => ?_⟩
    have hsame : f.lint s.host Builtin.registry config files = f.lint r.host Builtin.registry config files :=
      lint_congr fun path hp => ⟨textAt_eq hf hp (hread path hp), fun content hc => by
        obtain ⟨bytes, hbytes⟩ := exists_readBytes hf hp
        rw [textAt_of_readBytes (hread path hp ▸ hbytes)] at hc
        exact agreesAt_builtin hcat (himports path hp content hc)⟩
    rw [hthen, hsame]

/-! ### The imported file is removed -/

section Alike

variable {h h' : Host} (ha : AlikeOutside h h') (hh : h ∈ [sampleHost, removedHost])

include ha hh

theorem importsAgree_alike : Builtin.ImportsAgree h h' "CLAUDE.md" "@x" := by
  have himports : ∀ i ∈ Markdown.imports "@x", i.path = "x" := by decide +kernel
  have htext : ((Path.ofString "CLAUDE.md").parent.join (Path.ofString "x")).text = "x" := by decide
  have hexpand := eq_ok_of_toOption (seen_both h hh).2.2.2
  have hexpand' : h'.expandUser (Path.ofString "x") = .ok (Path.ofString "x") := by
    rw [ha.only_tree]
    exact hexpand
  intro i hi
  rw [himports i hi, Builtin.importAnswer, Builtin.importAnswer, hexpand, hexpand']
  show h'.exists? _ = h.exists? _
  rw [htext, Host.exists?, Host.exists?, Host.probe, Host.probe, stat_alike ha hh (by simp)]

/-- **The directory of the cache does not matter to a run without it.** -/
theorem lint_alike : instructions.lint h' Builtin.registry none ["CLAUDE.md"] =
    instructions.lint h Builtin.registry none ["CLAUDE.md"] := by
  obtain ⟨-, hstat, htext, -⟩ := seen_both h hh
  have hbytes : h.readBytes "CLAUDE.md" = .ok (Utf8.encode "@x") := Host.readBytes_of_stat hstat
  have hbytes' : h'.readBytes "CLAUDE.md" = .ok (Utf8.encode "@x") := Host.readBytes_of_stat (seen_alike ha hh).1
  refine lint_congr fun path hp => ?_
  rw [List.mem_singleton.mp hp]
  refine ⟨?_, fun content hcontent => ?_⟩
  · rw [textAt_of_readBytes hbytes, textAt_of_readBytes hbytes', Host.readText_congr (hbytes'.trans hbytes.symm)]
  · obtain rfl : "@x" = content := Except.ok.inj ((eq_ok_of_toOption htext).symm.trans hcontent)
    exact agreesAt_builtin rfl (importsAgree_alike ha hh)

end Alike

theorem alikeOutside_afterRemoval : AlikeOutside removedHost afterRemoval := by
  obtain ⟨h, hafter, hf, -⟩ := exists_afterRun
  rw [afterRemoval, hafter]
  exact (alikeOutside_of_furnished hf).without

theorem sameLinks_afterRun : FileTree.SameLinks sampleHost.tree afterRun.host.tree := by
  obtain ⟨h, hafter, hf, -⟩ := exists_afterRun
  rw [hafter]
  exact hf.sameLinks

theorem noLink_afterRun (q : Place) (target : String) (m : Int) :
    afterRun.host.tree.node? q ≠ some (.link target m) := fun hl =>
  noLink_sampleHost q target m ((sameLinks_afterRun q target m).mp hl)

section Removal

variable {h : Host} (hlinks : ∀ q target m, h.tree.node? q ≠ some (.link target m))

include hlinks

theorem land_removal (follow : Bool) (path : Path) :
    { h with tree := h.tree.without ["x"] }.land follow path = h.land follow path :=
  have hcwd : { h with tree := h.tree.without ["x"] }.cwd = h.cwd := rfl
  Host.land_eq hcwd (FileTree.SameLinks.without fun q target m _ => hlinks q target m) follow path

/-- The walk to the directory of the cache looks at nothing but the directory. -/
theorem looked_sampleCache (hcwd : h.cwd = []) : ∀ q ∈ h.looked sampleCache.location.text, q = ["c"] := by
  have htext : sampleCache.location.text = "c" := by decide
  have hnames : rawNames "c" = ["c"] := by decide
  have hnode : ∀ target m, h.tree.node? ["c"] ≠ some (.link target m) := fun target m => hlinks _ target m
  intro q hq
  rw [Host.looked, htext, hnames, hcwd, ite_self] at hq
  have hq : q ∈ h.tree.lookedNames (h.tree.looked (mostLinks - 1)) [] ["c"] := hq
  cases hn : h.tree.node? ["c"] with
  | none => simp_all [FileTree.lookedNames]
  | some node => cases node <;> simp_all [FileTree.lookedNames]

/-- The removal is aside from the cache. -/
theorem aside_removal (hs : Seat sampleCache ["c"] h) (hcwd : h.cwd = []) :
    Aside sampleCache ["c"] h { h with tree := h.tree.without ["x"] } := by
  have hkept : ∀ q, ["c"] <+: q → (h.tree.without ["x"]).node? q = h.tree.node? q := by
    rintro q ⟨rest, rfl⟩
    exact FileTree.node?_without_of_not (by simp)
  have hland := land_removal hlinks
  refine ⟨⟨(hland _ _).trans hs.place, (hland _ _).trans hs.unlinked, fun q ⟨k, hk⟩ => hs.straight q ⟨k, ?_⟩,
    ⟨hs.grounded.tree.without _, ?_⟩, hs.away⟩, hkept, fun ⟨m, hm⟩ => ⟨m, ?_⟩⟩
  · rw [← hland]
    exact hk
  · rw [hcwd]
    exact FileTree.isDir_nil _
  · rw [← hm]
    exact Host.locate_congr rfl fun q hq => hkept q (looked_sampleCache hlinks hcwd q hq ▸ List.prefix_refl _)

end Removal

/-- What can be seen after the removal. -/
theorem seen_afterRemoval :
    sampleCache.place? afterRemoval = some ["c"] ∧
      afterRemoval.stat "CLAUDE.md" = .ok (["CLAUDE.md"], .file (Utf8.encode "@x") 1) ∧
      (sampleCache.material afterRemoval instructions.name none ["CLAUDE.md"]).toOption =
        (sampleCache.material sampleHost instructions.name none ["CLAUDE.md"]).toOption ∧
      ((instructions.lint afterRemoval Builtin.registry none ["CLAUDE.md"]).toOption.map fun o =>
        o.errors.map Finding.message) = some ["Imported file not found: x"] := by
  have hh : removedHost ∈ [sampleHost, removedHost] := List.mem_cons_of_mem _ List.mem_cons_self
  have hplace : sampleCache.place? afterRemoval = some ["c"] :=
    (land_removal noLink_afterRun true sampleCache.location).trans seen_afterRun.1
  obtain ⟨hstat, hmaterial⟩ := seen_alike alikeOutside_afterRemoval hh
  refine ⟨hplace, hstat, hmaterial, ?_⟩
  rw [lint_alike alikeOutside_afterRemoval hh]
  decide +kernel

theorem history_afterRemoval : History instructions Builtin.registry none sampleCache
    [afterRemoval, afterRun.host, sampleHost] [sampleRun] (sampleCache.on none afterRemoval) := by
  obtain ⟨-, -, -, hseen⟩ := seen_sampleHost
  have hlint : instructions.lint sampleHost Builtin.registry none ["CLAUDE.md"] = .ok sampleOutcome :=
    eq_sampleOutcome hseen
  refine History.change none afterRemoval (history_afterRun hlint) (Change.remove ?_ ?_ _)
  · exact fun q target m _ => noLink_afterRun q target m
  · rintro q ⟨d, hd, hq⟩
    cases seen_afterRun.1.symm.trans hd
    obtain ⟨rest, rfl⟩ := hq
    simp

theorem fetch_afterRemoval : (exec (fetch instructions.name none) (sampleCache.on none afterRemoval)).1 =
    .ok (some sampleDeposit.answer) := by
  obtain ⟨h, hafter, hf, s, hs, hre, hp⟩ := exists_afterRun
  have hhost : h = afterRun.host := by
    rw [hafter]
    rfl
  have haside : Aside sampleCache ["c"] h afterRemoval := by
    rw [hhost] at hs ⊢
    exact aside_removal noLink_afterRun hs.shelf.toSeat (by rw [← hhost, hf.cwd_eq]; rfl)
  obtain ⟨text, htext⟩ := Option.ne_none_iff_exists'.mp seen_sampleDeposit.1.1
  refine (hs.aside haside).fetch_of_present inUse_sampleCache hre hp ⟨text, eq_ok_of_toOption htext⟩
    (List.cons_ne_nil _ _) (fun p hp => ?_) none
  rw [List.mem_singleton.mp hp]
  show afterRemoval.mtime? "CLAUDE.md" = sampleHost.mtime? "CLAUDE.md"
  rw [Host.mtime?, Host.mtime?, seen_afterRemoval.2.1, seen_sampleHost.2.1]

theorem run_after_removal :
    ∃ h₀ ∈ [afterRemoval, sampleHost],
      (∀ path ∈ ["CLAUDE.md"], afterRemoval.readText path = h₀.readText path) ∧
      (exec (instructions.lintCached Builtin.registry none ["CLAUDE.md"])
          (sampleCache.on none afterRemoval)).1.map Outcome.unmended =
        (instructions.lint h₀ Builtin.registry none ["CLAUDE.md"]).map Outcome.unmended ∧
      ((∀ path ∈ ["CLAUDE.md"], ∀ content, h₀.readText path = .ok content →
          Builtin.ImportsAgree h₀ afterRemoval path content) →
        (exec (instructions.lintCached Builtin.registry none ["CLAUDE.md"])
            (sampleCache.on none afterRemoval)).1.map Outcome.unmended =
          (instructions.lint afterRemoval Builtin.registry none ["CLAUDE.md"]).map Outcome.unmended) := by
  obtain ⟨hplace, hstat, hmaterial, -⟩ := seen_afterRemoval
  exact instructions_cached inUse_sampleCache rfl history_afterRemoval rereads_sampleRun
    (noCollision_sample hmaterial) (checkable_sample hplace hstat)

/-- **The removal goes unnoticed**: the run with the cache reports nothing, a run without it does. -/
theorem stale_after_removal :
    instructions ∈ Family.builtin ∧
      ∃ past records s, History instructions Builtin.registry none sampleCache past records s ∧
        sampleCache.Rereads instructions.name none records ∧
        sampleCache.NoCollision instructions.name none records s.host ∧
        sampleCache.Checkable s.host ["CLAUDE.md"] ∧
        ((exec (instructions.lintCached Builtin.registry none ["CLAUDE.md"]) s).1.toOption.map fun o =>
          o.errors.map Finding.message) = some [] ∧
        ((instructions.lint s.host Builtin.registry none ["CLAUDE.md"]).toOption.map fun o =>
          o.errors.map Finding.message) = some ["Imported file not found: x"] := by
  obtain ⟨hplace, hstat, hmaterial, herrors⟩ := seen_afterRemoval
  refine ⟨by decide, _, _, _, history_afterRemoval, rereads_sampleRun, noCollision_sample hmaterial,
    checkable_sample hplace hstat, ?_, herrors⟩
  have hcons : sampleCache.Consistent instructions.name none [sampleRun] afterRemoval :=
    (history_afterRemoval.invariant inUse_sampleCache rereads_sampleRun).consistent
  obtain ⟨stored, ds, hfetch, -⟩ := exec_fetch inUse_sampleCache hcons rereads_sampleRun none
  have hanswer := fetch_afterRemoval
  rw [hfetch] at hanswer
  obtain rfl := Except.ok.inj hanswer
  have hfiles : sampleDeposit.answer.files = ["CLAUDE.md"] := checkable_sampleHost.sorted.sortedDistinct_eq
  have hsame : ((some sampleDeposit.answer).filter fun o => sameFiles o.files ["CLAUDE.md"]) =
      some sampleDeposit.answer := by
    have hfilter : sameFiles sampleDeposit.answer.files ["CLAUDE.md"] = true := by
      rw [hfiles]
      decide
    exact if_pos hfilter
  rw [exec_lintCached_of_hit hfetch hsame]
  rfl

end Family

end AgentLint
