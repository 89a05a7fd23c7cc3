import AgentLint.Proofs.Config.Flattening
import Mathlib.Data.List.Nodup

/-!
# Writing a configuration and reading it back

`Config.toValue` writes the rules in the order of their ids, so what is read back has them in that order
(`Config.inOrder`) and is the same configuration otherwise: `parse_toValue` says so for every configuration whose
rules are distinct and whose overrides have patterns (`WellFormed`).  Whatever is read, merged or loaded is like that
(`Made.wellFormed`).

As the order of the rules is all that writing forgets, two configurations are written alike exactly if they are the
same up to this order (`Same`).
-/

namespace AgentLint

/-- Settings of rules in the order of their ids. -/
def RuleSettings.inOrder (rs : RuleSettings) : RuleSettings := rs.mergeSort fun a b => a.1 ≤ b.1

/-- An override with its rules in that order. -/
def Override.inOrder (o : Override) : Override := { o with rules := RuleSettings.inOrder o.rules }

namespace Config

/-- A configuration with its rules in that order. -/
def inOrder (c : Config) : Config :=
  { c with rules := RuleSettings.inOrder c.rules, overrides := c.overrides.map Override.inOrder }

/-! ## 1. Configurations that come up -/

/-- No rule is set twice, and every override has a pattern. -/
structure WellFormed (c : Config) : Prop where
  rules : (Assoc.keys c.rules).Nodup
  files : ∀ o ∈ c.overrides, o.files ≠ []
  overrides : ∀ o ∈ c.overrides, (Assoc.keys o.rules).Nodup

/-- What reading, merging and loading give. -/
inductive Made : Config → Prop where
  /-- Read from a value. -/
  | parsed {source : String} {v : Value} {c : Config} (h : parse source v = .ok c) : Made c
  /-- One over another. -/
  | merged {parent child : Config} (keys : ScalarKeys) (hparent : Made parent) (hchild : Made child) :
    Made (merge parent child keys)
  /-- Loaded from a file. -/
  | loaded {h : Host} {path : Path} {c : Config} (hload : load h path = .ok c) : Made c

theorem ne_nil_of_patternsOf {v : Value} {vs : List Value} {files : List String}
    (h : patternsOf (v :: vs) = .ok files) : files ≠ [] := by
  unfold patternsOf at h
  split at h
  · rename_i ps hps
    cases h
    rw [List.mapM_cons] at hps
    obtain ⟨p, -, hps⟩ := Option.bind_eq_some_iff.mp hps
    obtain ⟨qs, -, hps⟩ := Option.bind_eq_some_iff.mp hps
    cases hps
    exact List.cons_ne_nil p qs
  · cases h

theorem ne_nil_of_parseFiles {place : String} {v : Value} {files : List String} (h : parseFiles place v = .ok files) :
    files ≠ [] := by
  unfold parseFiles at h
  split at h
  · cases h
    exact List.cons_ne_nil _ _
  · exact ne_nil_of_patternsOf h
  · cases h

/-- An override that is read has patterns and distinct rules. -/
theorem of_parseOverride {place : String} {v : Value} {o : Override} (h : parseOverride place v = .ok o) :
    o.files ≠ [] ∧ (Assoc.keys o.rules).Nodup := by
  unfold parseOverride at h
  split at h
  · obtain ⟨files, hfiles, h⟩ := bind_eq_ok_iff.mp h
    obtain ⟨rules, hrules, h⟩ := bind_eq_ok_iff.mp h
    cases h
    exact ⟨ne_nil_of_parseFiles hfiles, nodup_parseRules hrules⟩
  · cases h

theorem of_mem_parseBlocks {source : String} {vs : List Value} {index : Nat} {os : List Override}
    (h : parseBlocks source index vs = .ok os) : ∀ o ∈ os, o.files ≠ [] ∧ (Assoc.keys o.rules).Nodup := by
  induction vs generalizing index os with
  | nil =>
    cases h
    exact nofun
  | cons v vs ih =>
    rw [parseBlocks] at h
    obtain ⟨block, hblock, h⟩ := bind_eq_ok_iff.mp h
    obtain ⟨rest, hrest, h⟩ := bind_eq_ok_iff.mp h
    cases h
    exact List.forall_mem_cons.mpr ⟨of_parseOverride hblock, ih hrest⟩

theorem of_mem_parseOverrides {source : String} {v : Value} {os : List Override}
    (h : parseOverrides source v = .ok os) : ∀ o ∈ os, o.files ≠ [] ∧ (Assoc.keys o.rules).Nodup := by
  unfold parseOverrides at h
  split at h
  · cases h
    exact nofun
  · exact of_mem_parseBlocks h
  · cases h

theorem wellFormed_empty : WellFormed {} := ⟨List.nodup_nil, nofun, nofun⟩

theorem wellFormed_parse {source : String} {v : Value} {c : Config} (h : parse source v = .ok c) : WellFormed c := by
  have hrules := nodup_parse h
  unfold parse at h
  split at h
  · simp only [bind_eq_ok_iff] at h
    obtain ⟨_, -, _, -, _, -, os, hos, _, -, hc⟩ := h
    cases hc
    have hblocks := of_mem_parseOverrides hos
    exact ⟨hrules, fun o ho => (hblocks o ho).1, fun o ho => (hblocks o ho).2⟩
  · cases h

theorem WellFormed.merge {parent child : Config} (hp : WellFormed parent) (hc : WellFormed child) (keys : ScalarKeys) :
    WellFormed (parent.merge child keys) := by
  refine ⟨Assoc.nodup_keys_putAll hp.rules child.rules, ?_, ?_⟩
  · intro o ho
    rcases List.mem_append.mp ho with ho | ho
    · exact hp.files o ho
    · exact hc.files o ho
  · intro o ho
    rcases List.mem_append.mp ho with ho | ho
    · exact hp.overrides o ho
    · exact hc.overrides o ho

/-- What is put together of well-formed configurations is well-formed. -/
theorem wellFormed_foldl_over : ∀ {rs : List Loaded} {a : Loaded}, WellFormed a.1 → (∀ r ∈ rs, WellFormed r.1) →
    WellFormed (rs.foldl Loaded.over a).1
  | [], _, ha, _ => ha
  | r :: rs, a, ha, hrs => by
    rw [List.forall_mem_cons] at hrs
    exact wellFormed_foldl_over (a := a.over r) (ha.merge hrs.1 r.2) hrs.2

/-- Whatever is loaded is well-formed, by induction on the depth of the calls. -/
theorem wellFormed_loadAux {h : Host} : ∀ {fuel : Nat} {path : Path} {chain : List Path} {r : Loaded},
    loadAux h .ample fuel path chain = .ok r → WellFormed r.1
  | 0, _, _, _, hr => by cases hr
  | fuel + 1, path, chain, r, hr => by
    rw [loadAux_succ] at hr
    obtain ⟨f, -, -, hs, rs, hrs, rfl⟩ := loadStep_eq_ok_iff.mp hr
    have hown : WellFormed (own h f).1 := wellFormed_parse (hs.parse_eq f.text)
    by_cases hnil : rs = []
    · rw [hnil, assembled_nil]
      exact hown
    · have hall : ∀ r ∈ rs, WellFormed r.1 := by
        intro r hr
        obtain ⟨p, -, hp⟩ := exists_of_mem_forall₂ hrs hr
        exact wellFormed_loadAux hp
      rw [assembled_of_ne_nil h f hnil]
      exact (wellFormed_foldl_over wellFormed_empty hall).merge hown (own h f).2

theorem wellFormed_load {h : Host} {path : Path} {c : Config} (hload : load h path = .ok c) : WellFormed c := by
  unfold load at hload
  obtain ⟨r, hr, rfl⟩ := map_eq_ok_iff.mp hload
  exact wellFormed_loadAux hr

theorem Made.wellFormed {c : Config} (h : Made c) : WellFormed c := by
  induction h with
  | parsed h => exact wellFormed_parse h
  | merged keys _ _ hparent hchild => exact hparent.merge hchild keys
  | loaded hload => exact wellFormed_load hload

/-! ## 2. Reading what was written -/

variable {place rule source : String}

theorem parse?_word (s : Severity) : Severity.parse? (.text s.word) = some s := by
  cases s <;> decide +kernel

theorem parseSetting_settingValue (s : RuleSetting) : parseSetting place rule (settingValue s) = .ok s := by
  obtain ⟨severity, options⟩ := s
  cases options with
  | none =>
    have hvalue : settingValue ⟨severity, none⟩ = .text severity.word := rfl
    rw [hvalue, parseSetting]
    · dsimp only
      rw [parse?_word]
      rfl
    · nofun
  | some os =>
    have hvalue : settingValue ⟨severity, some os⟩ =
      .map [(.text "severity", .text severity.word), (.text "options", .map os)] := rfl
    have hseverity : Entries.get? "severity" [(.text "severity", .text severity.word), (.text "options", .map os)] =
      some (.text severity.word) := rfl
    have hoptions : Entries.get "options" [(.text "severity", .text severity.word), (.text "options", .map os)] =
      .map os := rfl
    rw [hvalue, parseSetting, hseverity, hoptions]
    dsimp only
    rw [parse?_word]
    rfl

theorem parseEntries_values : ∀ (rs acc : RuleSettings),
    parseEntries place acc (rs.map fun e => (.text e.1, settingValue e.2)) = .ok (Assoc.putAll acc rs)
  | [], acc => rfl
  | e :: rs, acc => by
    have hshown : (Value.text e.1).display? = some e.1 := rfl
    rw [List.map_cons, parseEntries, hshown]
    dsimp only
    rw [parseSetting_settingValue]
    exact parseEntries_values rs _

theorem rulesValue_eq (rs : RuleSettings) :
    rulesValue rs = .map ((RuleSettings.inOrder rs).map fun e => (.text e.1, settingValue e.2)) := by
  rw [rulesValue, Entries.ofFields, List.map_map]
  rfl

theorem parseRules_rulesValue {rs : RuleSettings} (hrs : (Assoc.keys rs).Nodup) :
    parseRules place (rulesValue rs) = .ok (RuleSettings.inOrder rs) := by
  have hnodup : (Assoc.keys (RuleSettings.inOrder rs)).Nodup :=
    ((List.mergeSort_perm rs _).map Prod.fst).nodup_iff.mpr hrs
  rw [rulesValue_eq, parseRules, parseEntries_values, Assoc.putAll_of_nodup hnodup]
  rfl

theorem patternsOf_texts (ts : List String) : patternsOf (ts.map .text) = .ok ts := by
  have hmap : (ts.map Value.text).mapM Value.display? = some ts := by
    induction ts with
    | nil => rfl
    | cons t ts ih =>
      rw [List.map_cons, List.mapM_cons, ih]
      rfl
  rw [patternsOf, hmap]

theorem parseOverride_overrideValue {o : Override} (hfiles : o.files ≠ []) (hrules : (Assoc.keys o.rules).Nodup) :
    parseOverride place (overrideValue o) = .ok o.inOrder := by
  have hread : parseFiles place (textsValue o.files) = .ok o.files := by
    obtain ⟨f, fs, hfs⟩ := List.exists_cons_of_ne_nil hfiles
    rw [textsValue, hfs, List.map_cons, parseFiles, ← List.map_cons, patternsOf_texts]
  have hget : Entries.get "files" [(.text "files", textsValue o.files), (.text "rules", rulesValue o.rules)] =
    textsValue o.files := rfl
  have hget' : Entries.get "rules" [(.text "files", textsValue o.files), (.text "rules", rulesValue o.rules)] =
    rulesValue o.rules := rfl
  have hvalue : overrideValue o =
    .map [(.text "files", textsValue o.files), (.text "rules", rulesValue o.rules)] := rfl
  rw [hvalue, parseOverride, hget, hget', hread, parseRules_rulesValue hrules]
  rfl

theorem parseBlocks_overrideValues : ∀ {os : List Override} (index : Nat), (∀ o ∈ os, o.files ≠ []) →
    (∀ o ∈ os, (Assoc.keys o.rules).Nodup) →
      parseBlocks source index (os.map overrideValue) = .ok (os.map Override.inOrder)
  | [], _, _, _ => rfl
  | o :: os, index, hfiles, hrules => by
    rw [List.forall_mem_cons] at hfiles hrules
    rw [List.map_cons, parseBlocks, parseOverride_overrideValue hfiles.1 hrules.1,
      parseBlocks_overrideValues (index + 1) hfiles.2 hrules.2]
    rfl

/-- The fields of a written configuration. -/
def writtenFields (c : Config) : Entries :=
  [(.text "rules", rulesValue c.rules), (.text "overrides", .list (c.overrides.map overrideValue)),
    (.text "ignorePatterns", textsValue c.ignorePatterns),
    (.text "reportUnusedDisableDirectives", .bool c.reportUnused), (.text "maxWarnings", .ofInt? c.maxWarnings)]

theorem toValue_eq (c : Config) : c.toValue = .map (writtenFields c) := rfl

/-- **What was written is read back**, with the rules in order. -/
theorem parse_writtenFields {c : Config} (hc : WellFormed c) : parse source c.toValue = .ok c.inOrder := by
  have hignore : parseIgnore source (Entries.get? "ignorePatterns" (writtenFields c)) =
    .ok (c.ignorePatterns.map .text) := rfl
  have hlimit : parseLimit source (Entries.get "maxWarnings" (writtenFields c)) = .ok c.maxWarnings := by
    have hget : Entries.get "maxWarnings" (writtenFields c) = .ofInt? c.maxWarnings := rfl
    rw [hget]
    cases c.maxWarnings <;> rfl
  have hrules : parseRules source (Entries.get "rules" (writtenFields c)) = .ok (RuleSettings.inOrder c.rules) :=
    parseRules_rulesValue hc.rules
  have hoverrides : parseOverrides source (Entries.get "overrides" (writtenFields c)) =
    .ok (c.overrides.map Override.inOrder) := parseBlocks_overrideValues 0 hc.files hc.overrides
  have hreport : Entries.get? "reportUnusedDisableDirectives" (writtenFields c) = some (.bool c.reportUnused) := rfl
  rw [toValue_eq, parse, hignore, hlimit, hrules, hoverrides, hreport]
  simp only [bind, Except.bind, patternsOf_texts]
  rfl

/-! ## 3. What writing forgets -/

/-- The same settings, in whatever order. -/
def SameRules (rs ss : RuleSettings) : Prop := ∀ id, Assoc.get? id rs = Assoc.get? id ss

/-- The same configuration up to the order in which rules were set. -/
structure Same (c d : Config) : Prop where
  rules : SameRules c.rules d.rules
  overrides : List.Forall₂ (fun o p => o.files = p.files ∧ SameRules o.rules p.rules) c.overrides d.overrides
  ignorePatterns : c.ignorePatterns = d.ignorePatterns
  reportUnused : c.reportUnused = d.reportUnused
  maxWarnings : c.maxWarnings = d.maxWarnings

theorem sameRules_inOrder {rs : RuleSettings} (hrs : (Assoc.keys rs).Nodup) : SameRules (RuleSettings.inOrder rs) rs :=
  Assoc.get?_perm (List.mergeSort_perm rs _).symm hrs

theorem same_inOrder {c : Config} (hc : WellFormed c) : Same c.inOrder c := by
  refine ⟨sameRules_inOrder hc.rules, ?_, rfl, rfl, rfl⟩
  have hos := hc.overrides
  show List.Forall₂ _ (c.overrides.map Override.inOrder) c.overrides
  generalize c.overrides = os at hos ⊢
  induction os with
  | nil => exact .nil
  | cons o os ih =>
    rw [List.forall_mem_cons] at hos
    exact .cons ⟨rfl, sameRules_inOrder hos.1⟩ (ih hos.2)

/-- The order of the ids decides the order of the rules. -/
theorem rules_inOrder_eq {rs ss : RuleSettings} (hrs : (Assoc.keys rs).Nodup) (hss : (Assoc.keys ss).Nodup)
    (h : SameRules rs ss) : RuleSettings.inOrder rs = RuleSettings.inOrder ss := by
  have hperm : rs.Perm ss := by
    refine (List.perm_ext_iff_of_nodup (List.Nodup.of_map _ hrs) (List.Nodup.of_map _ hss)).mpr fun e => ?_
    obtain ⟨id, s⟩ := e
    rw [← Assoc.get?_eq_some_iff hrs, ← Assoc.get?_eq_some_iff hss, h id]
  have hsorted : ∀ ts : RuleSettings, (RuleSettings.inOrder ts).Pairwise fun a b => a.1 ≤ b.1 := by
    intro ts
    let le (a b : String × RuleSetting) : Bool := decide (a.1 ≤ b.1)
    have htrans : ∀ a b c, le a b = true → le b c = true → le a c = true := by
      intro a b c hab hbc
      exact decide_eq_true (String.le_trans (of_decide_eq_true hab) (of_decide_eq_true hbc))
    have htotal : ∀ a b, (le a b || le b a) = true := by
      intro a b
      simpa [le] using String.le_total a.1 b.1
    exact (List.pairwise_mergeSort htrans htotal ts).imp fun hab => of_decide_eq_true hab
  have hsame : (RuleSettings.inOrder rs).Perm (RuleSettings.inOrder ss) :=
    (List.mergeSort_perm rs _).trans (hperm.trans (List.mergeSort_perm ss _).symm)
  refine List.Perm.eq_of_pairwise (fun a b ha hb hab hba => ?_) (hsorted rs) (hsorted ss) hsame
  have hid := String.le_antisymm hab hba
  have ha := Assoc.get?_of_mem hrs (List.mem_mergeSort.mp ha)
  have hb := Assoc.get?_of_mem hss (List.mem_mergeSort.mp hb)
  rw [hid, h b.1, hb] at ha
  exact Prod.ext hid (Option.some.inj ha).symm

theorem Same.symm {c d : Config} (h : Same c d) : Same d c :=
  ⟨fun id => (h.rules id).symm, (h.overrides.imp fun _ _ ho => ⟨ho.1.symm, fun id => (ho.2 id).symm⟩).flip,
    h.ignorePatterns.symm, h.reportUnused.symm, h.maxWarnings.symm⟩

theorem Same.trans {b c d : Config} (h : Same b c) (h' : Same c d) : Same b d := by
  refine ⟨fun id => (h.rules id).trans (h'.rules id), ?_, h.ignorePatterns.trans h'.ignorePatterns,
    h.reportUnused.trans h'.reportUnused, h.maxWarnings.trans h'.maxWarnings⟩
  have hos := h.overrides
  have hps := h'.overrides
  generalize b.overrides = ms at hos ⊢
  generalize c.overrides = os at hos hps
  generalize d.overrides = ps at hps ⊢
  induction hos generalizing ps with
  | nil =>
    cases hps
    exact .nil
  | cons hm _ ih =>
    cases hps with
    | cons ho hps => exact .cons ⟨hm.1.trans ho.1, fun id => (hm.2 id).trans (ho.2 id)⟩ (ih _ hps)

/-- The same configurations are one and the same once their rules are in order. -/
theorem Same.inOrder_eq {c d : Config} (hc : WellFormed c) (hd : WellFormed d) (h : Same c d) :
    c.inOrder = d.inOrder := by
  have hrules := rules_inOrder_eq hc.rules hd.rules h.rules
  have hoverrides : c.overrides.map Override.inOrder = d.overrides.map Override.inOrder := by
    have hos := hc.overrides
    have hps := hd.overrides
    have hsame := h.overrides
    generalize c.overrides = os at hos hsame ⊢
    generalize d.overrides = ps at hps hsame ⊢
    induction hsame with
    | nil => rfl
    | @cons o p os ps hop _ ih =>
      rw [List.forall_mem_cons] at hos hps
      have hfirst : o.inOrder = p.inOrder := by
        rw [Override.inOrder, Override.inOrder, hop.1, rules_inOrder_eq hos.1 hps.1 hop.2]
      rw [List.map_cons, List.map_cons, hfirst, ih hos.2 hps.2]
  rw [inOrder, inOrder, hrules, hoverrides, h.ignorePatterns, h.reportUnused, h.maxWarnings]

theorem rulesValue_inOrder {rs : RuleSettings} (hrs : (Assoc.keys rs).Nodup) :
    rulesValue (RuleSettings.inOrder rs) = rulesValue rs := by
  have hnodup : (Assoc.keys (RuleSettings.inOrder rs)).Nodup :=
    ((List.mergeSort_perm rs _).map Prod.fst).nodup_iff.mpr hrs
  have htwice := rules_inOrder_eq hnodup hrs (sameRules_inOrder hrs)
  rw [rulesValue_eq, htwice, ← rulesValue_eq]

/-- Putting the rules in order does not change what is written. -/
theorem toValue_inOrder {c : Config} (hc : WellFormed c) : c.inOrder.toValue = c.toValue := by
  have hoverrides : (c.overrides.map Override.inOrder).map overrideValue = c.overrides.map overrideValue := by
    rw [List.map_map]
    refine List.map_congr_left fun o ho => ?_
    have hrules := rulesValue_inOrder (hc.overrides o ho)
    rw [Function.comp_apply, overrideValue, Override.inOrder, hrules, overrideValue]
  have hrules := rulesValue_inOrder hc.rules
  rw [toValue_eq, writtenFields, toValue_eq, writtenFields, inOrder]
  dsimp only
  rw [hoverrides, hrules]

/-- **Configurations are written alike exactly if they are the same.** -/
theorem toValue_eq_iff {c d : Config} (hc : WellFormed c) (hd : WellFormed d) :
    c.toValue = d.toValue ↔ Same c d := by
  constructor
  · intro h
    have hread : parse "" c.toValue = .ok c.inOrder := parse_writtenFields hc
    rw [h, parse_writtenFields hd] at hread
    have hsame := same_inOrder hd
    rw [Except.ok.inj hread] at hsame
    exact (same_inOrder hc).symm.trans hsame
  · intro h
    rw [← toValue_inOrder hc, h.inOrder_eq hc hd, toValue_inOrder hd]

/-- **A configuration survives being written and read**, and all that writing forgets is the order of its rules. -/
theorem parse_toValue {c : Config} (hc : Made c) :
    (∀ source, ∃ c', parse source c.toValue = .ok c' ∧ Same c' c ∧ c'.toValue = c.toValue) ∧
      ∀ d, Made d → (c.toValue = d.toValue ↔ Same c d) :=
  ⟨fun _ => ⟨c.inOrder, parse_writtenFields hc.wellFormed, same_inOrder hc.wellFormed, toValue_inOrder hc.wellFormed⟩,
    fun _ hd => toValue_eq_iff hc.wellFormed hd.wellFormed⟩

/-- A severity by another name, a rule that is no text, a single pattern: read once, they survive. -/
theorem parse_toValue_spelled :
    let v : Value := .map [(.text "rules", .map [(.text "b", .text " Warning"),
        (.int 1, .map [(.text "severity", .text "OFF"), (.text "options", .null)])]),
      (.text "overrides", .list [.map [(.text "files", .text "*.md"), (.text "rules", .null)]])]
    ∃ c, parse "" v = .ok c ∧ c.rules.map (fun e => (e.1, e.2.severity)) = [("b", .warn), ("1", .off)] ∧
      c.overrides.map Override.files = [["*.md"]] ∧ Made c ∧
        ∃ c', parse "" c.toValue = .ok c' ∧ Same c' c ∧ c'.toValue = c.toValue := by
  intro v
  have hparse : ((parse "" v).toOption.map fun c =>
      (c.rules.map (fun e => (e.1, e.2.severity)), c.overrides.map Override.files)) =
      some ([("b", .warn), ("1", .off)], [["*.md"]]) := by decide +kernel
  obtain ⟨c, hc, hvalues⟩ := Option.map_eq_some_iff.mp hparse
  rw [Prod.mk.injEq] at hvalues
  have hmade : Made c := .parsed (eq_ok_of_toOption hc)
  exact ⟨c, eq_ok_of_toOption hc, hvalues.1, hvalues.2, hmade, (parse_toValue hmade).1 ""⟩

end Config

end AgentLint
