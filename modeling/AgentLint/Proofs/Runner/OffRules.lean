import AgentLint.Proofs.Runner.Conservation

/-!
# Rules that are off

A configuration switches a rule off if its base says so and no override says otherwise.  Such a rule is
passed over wherever rules are run, and its issues are dropped wherever issues are sorted by the
configuration.  There is one place where they are not.  An issue that names a rule but no file has no
path to ask about, and `Runner.severityOf` takes the severity that the rule has by itself.

`findings_of_off_rule` says what this comes to.  After any requests, the findings of a rule that is off
are the issues without a file that were staged for it from outside, graded by the rule itself; there are
none exactly if there were no such issues or the rule is off by itself.

The invariant is `Holds`: the staged issues of the rule that have no file are those that the requests so
far have staged.  What rules report always has a file, so running them adds nothing to these.
-/

namespace AgentLint

/-! ## 1. Off in every layer -/

/-- A configuration that switches a rule off: the base does so, and no override says otherwise. -/
structure Config.SwitchesOff (c : Config) (rule : String) : Prop where
  base : ∃ s, (Assoc.valuesOf rule c.rules).getLast? = some s ∧ s.severity = .off
  blocks : ∀ o ∈ c.overrides, ∀ s, (Assoc.valuesOf rule o.rules).getLast? = some s →
    s.severity = .off

namespace Resolver

/-- Whatever layer it is, it has no other severity for the rule. -/
theorem off_of_rulesOf {c : Config} {rule : String} (h : c.SwitchesOff rule) {layer : Layer}
    {s : RuleSetting} (hs : (Assoc.valuesOf rule (rulesOf (some c) layer)).getLast? = some s) :
    s.severity = .off := by
  cases layer with
  | base =>
    obtain ⟨s', hs', hoff⟩ := h.base
    rwa [← Option.some.inj (hs'.symm.trans hs)]
  | block i =>
    cases ho : c.overrides[i]? with
    | none => simp [rulesOf, ho, Assoc.valuesOf] at hs
    | some o =>
      refine h.blocks o (List.mem_of_getElem? ho) s ?_
      simpa [rulesOf, ho] using hs

/-- What the winners come to has their severities. -/
theorem severity_of_readAll {registry : Registry} (rule : String) {ws : Assoc String (Layer × RuleSetting)}
    {found : Assoc String Resolved} (h : readAll registry ws = .ok found) :
    (Assoc.get? rule found).map Resolved.severity = (Assoc.get? rule ws).map fun d => d.2.severity := by
  rcases get?_readAll rule h with ⟨hw, hf⟩ | ⟨d, os, hw, -, hf⟩ <;> rw [hw, hf] <;> rfl

/-- **A rule that is switched off is off at every path**, or the question has no answer there. -/
theorem severityAt_of_switchesOff {c : Config} {rule : String} (h : c.SwitchesOff rule)
    {registry : Registry} {path : String} {s : Severity}
    (hs : severityAt (some c) registry rule path = .ok s) : s = .off := by
  cases hl : layersAt (some c) (Path.normal path) with
  | error e => simp [severityAt, resolveAfresh, hl, bind, Except.bind, Except.map, Except.mapError] at hs
  | ok layers =>
    cases hread : readAll registry (winners layers) with
    | error e => simp [severityAt, resolveAfresh, hl, hread, bind, Except.bind, Except.map, Except.mapError] at hs
    | ok found =>
      simp only [severityAt, resolveAfresh, hl, hread, bind, Except.bind, Except.map, Except.mapError,
        Except.ok.injEq] at hs
      have hfound := severity_of_readAll rule hread
      rw [get?_winners] at hfound
      cases hd : (mentions rule layers).getLast? with
      | some d =>
        obtain ⟨rules, hmem, hlast⟩ := exists_of_getLast?_mentions hd
        rw [rules_of_mem_layersAt hl hmem] at hlast
        rw [hd, Option.map_some, off_of_rulesOf h hlast, Option.map_eq_some_iff] at hfound
        obtain ⟨r, hr, hroff⟩ := hfound
        rw [hr] at hs
        exact hs.symm.trans hroff
      | none =>
        -- The base is always among the layers, and it mentions the rule.
        obtain ⟨b, hb, -⟩ := h.base
        have hmem : b ∈ Assoc.valuesOf rule c.rules := List.mem_of_getLast? hb
        have hbase : (Layer.base, c.rules) ∈ layers := by
          cases hblocks : blocksAt (Path.normal path) 0 c.overrides with
          | error e => simp [layersAt, hblocks, Except.map] at hl
          | ok bs =>
            simp only [layersAt, hblocks, Except.map, Except.ok.injEq] at hl
            rw [← hl]
            exact List.mem_cons_self
        have hmention : (Layer.base, b) ∈ mentions rule layers :=
          List.mem_flatMap.mpr ⟨_, hbase, List.mem_map.mpr ⟨b, hmem, rfl⟩⟩
        rw [List.getLast?_eq_none_iff.mp hd] at hmention
        exact absurd hmention List.not_mem_nil

end Resolver

/-- An issue that names this rule and no file. -/
def Issue.isUnfiled (rule : String) (i : Issue) : Bool := i.rule = some rule && i.file.isNone

/-- A finding of this rule. -/
def Finding.isOf (rule : String) (f : Finding) : Bool :=
  match f.rule with
  | .text r => r = rule
  | _ => false

namespace Runner

/-! ## 2. Requests -/

/-- What may be asked of a runner. -/
inductive Request where
  /-- To run the rules of a category on a text. -/
  | call (c : Call)
  /-- To run one rule on a text, with what other rules have left of it. -/
  | single (host : Host) (rule : Rule) (path content : String) (shared : Shared content)
  /-- To stage an issue. -/
  | stage (i : Issue)
  /-- To give the outcome so far. -/
  | outcome

/-- The runner after a request, whether or not it failed. -/
def Request.perform (r : Runner) : Request → Runner
  | .call c => (r.runCategory c.host c.category c.path c.content).1
  | .single host rule path content shared => (r.runRule host rule path content shared).1
  | .stage i => Runner.stage r i
  | .outcome => (Runner.outcome r).1

/-- The runner after some requests. -/
def after (r : Runner) (requests : List Request) : Runner := requests.foldl Request.perform r

/-- The issues of a rule without a file that a request stages. -/
def Request.unfiled (rule : String) : Request → List Issue
  | .stage i => if i.isUnfiled rule then [i] else []
  | .call _ => []
  | .single .. => []
  | .outcome => []

/-! ## 3. What requests leave -/

section Holds

variable {config : Option Config} {registry : Registry} {rule : String} {us : List Issue}
  {r : Runner}

/-- The invariant of requests: the resolver is sound, and the staged issues of the rule that have no
file are these. -/
structure Holds (config : Option Config) (registry : Registry) (rule : String) (us : List Issue)
    (r : Runner) : Prop where
  sound : Resolver.Sound config registry r.resolver
  registry_eq : r.registry = registry
  unfiled : r.staged.filter (Issue.isUnfiled rule) = us

theorem Holds.of_eq (h : Holds config registry rule us r) {r' : Runner}
    (hres : r'.resolver = r.resolver) (hreg : r'.registry = r.registry)
    (hst : r'.staged = r.staged) : Holds config registry rule us r' :=
  ⟨hres ▸ h.sound, hreg.trans h.registry_eq, by rw [hst, h.unfiled]⟩

/-- One more issue on the stage. -/
theorem Holds.append (h : Holds config registry rule us r) {r' : Runner} {i : Issue}
    (hres : r'.resolver = r.resolver) (hreg : r'.registry = r.registry)
    (hst : r'.staged = r.staged ++ [i]) :
    Holds config registry rule (us ++ (Request.stage i).unfiled rule) r' := by
  refine ⟨hres ▸ h.sound, hreg.trans h.registry_eq, ?_⟩
  rw [hst, List.filter_append, h.unfiled, List.filter_singleton, Request.unfiled]
  cases i.isUnfiled rule <;> rfl

theorem unfiled_stage_of_filed {i : Issue} {path : String} (h : i.file = some path) :
    (Request.stage i).unfiled rule = [] := by
  simp [Request.unfiled, Issue.isUnfiled, h]

theorem Holds.enter (h : Holds config registry rule us r) (path content : String) :
    Holds config registry rule us (r.enter path content) := by
  unfold Runner.enter
  split
  · exact h
  · exact h.of_eq rfl rfl rfl

theorem Holds.noteDeprecated (h : Holds config registry rule us r) (i : RuleInfo) :
    Holds config registry rule us (r.noteDeprecated i) := by
  unfold Runner.noteDeprecated
  split
  · exact h.of_eq rfl rfl rfl
  · exact h

theorem Holds.ask {α : Type} (h : Holds config registry rule us r) {q : Query α}
    {a : Except Fault α} (hq : Resolver.Answers config registry q a) :
    ∃ r', Holds config registry rule us r' ∧ r.ask q = (r', a) := by
  obtain ⟨r', hs, hp, hask⟩ := ask_spec hq h.sound
  exact ⟨r', ⟨hs, hp.registry_eq.trans h.registry_eq, by rw [hp.staged, List.append_nil, h.unfiled]⟩,
    hask⟩

/-- Directives can only take away. -/
theorem Holds.stageUnlessCovered (h : Holds config registry rule us r) (rule' path : String)
    {i : Issue} (hi : i.file = some path) :
    Holds config registry rule us (r.stageUnlessCovered rule' path i) := by
  have hadd : ∀ {r' : Runner}, r'.resolver = r.resolver → r'.registry = r.registry →
      r'.staged = r.staged ++ [i] → Holds config registry rule us r' := fun hres hreg hst => by
    have hnew := h.append hres hreg hst
    rwa [unfiled_stage_of_filed hi, List.append_nil] at hnew
  cases ht : Assoc.get? path r.trackers with
  | none =>
    rw [Runner.stageUnlessCovered, ht]
    exact hadd rfl rfl rfl
  | some t =>
    rw [stageUnlessCovered_eq ht]
    cases t.covers rule' i.line with
    | true => exact h.of_eq rfl rfl (List.append_nil _)
    | false => exact hadd rfl rfl rfl

theorem Holds.stageReports (h : Holds config registry rule us r) (rule' path : String)
    (reports : List Report) : Holds config registry rule us (r.stageReports rule' path reports) := by
  induction reports generalizing r with
  | nil => exact h
  | cons rep reports ih => exact ih (h.stageUnlessCovered rule' path rfl)

/-- **One rule** leaves no issue without a file. -/
theorem Holds.runRule (h : Holds config registry rule us r) (host : Host) (rule' : Rule)
    (path content : String) (shared : Shared content) :
    Holds config registry rule us (r.runRule host rule' path content shared).1 := by
  obtain ⟨r₁, h₁, hask₁⟩ := (h.enter path content).ask
    (Resolver.answers_severity rule'.info.id path)
  obtain ⟨r₂, h₂, hask₂⟩ := (h₁.noteDeprecated rule'.info).ask
    (Resolver.answers_options rule'.info.id path)
  -- Passed over, without options, or run: only the last one stages anything.
  simp only [Runner.runRule, hask₁]
  cases Resolver.severityAt config registry rule'.info.id path with
  | error e => exact h₁
  | ok s =>
    cases s with
    | off => exact h₁
    | warn | error =>
      simp only [hask₂]
      cases Resolver.optionsAt config registry rule'.info.id path with
      | error e => exact h₂
      | ok options =>
        simp only
        split <;> exact h₂.stageReports _ _ _

theorem Holds.runRules (h : Holds config registry rule us r) (host : Host) (path content : String)
    (rules : List Rule) (shared : Shared content) :
    Holds config registry rule us (r.runRules host path content rules shared).1 := by
  induction rules generalizing r shared with
  | nil => exact h
  | cons rule' rest ih =>
    have hone := h.runRule host rule' path content shared
    rw [Runner.runRules]
    cases hrun : r.runRule host rule' path content shared with
    | mk r₁ end_ =>
      rw [hrun] at hone
      cases end_ with
      | error e => exact hone
      | ok shared => exact ih hone shared

/-- **An issue from outside** is staged as it is if it has no file. -/
theorem Holds.stage (h : Holds config registry rule us r) (i : Issue) :
    Holds config registry rule (us ++ (Request.stage i).unfiled rule) (r.stage i) := by
  unfold Runner.stage
  cases hfile : i.file with
  | none => cases i.rule <;> exact h.append rfl rfl rfl
  | some path =>
    cases i.rule with
    | none => exact h.append rfl rfl rfl
    | some rule' =>
      rw [unfiled_stage_of_filed hfile, List.append_nil]
      exact h.stageUnlessCovered rule' path hfile

/-- **One request**, whatever it is. -/
theorem Holds.perform (h : Holds config registry rule us r) (q : Request) :
    Holds config registry rule (us ++ q.unfiled rule) (q.perform r) := by
  cases q with
  | stage i => exact h.stage i
  | single host rule' path content shared =>
    rw [Request.unfiled, List.append_nil]
    exact h.runRule host rule' path content shared
  | call c =>
    rw [Request.unfiled, List.append_nil]
    exact (h.enter c.path c.content).runRules c.host c.path c.content _ .fresh
  | outcome =>
    rw [Request.unfiled, List.append_nil]
    obtain ⟨r', h', hask⟩ := h.ask (answers_classified r.staged)
    rw [← h.registry_eq] at hask
    simpa only [Request.perform, Runner.outcome, hask] using h'

/-- **Requests in turn**, by induction over them. -/
theorem Holds.after (h : Holds config registry rule us r) (requests : List Request) :
    Holds config registry rule (us ++ requests.flatMap (Request.unfiled rule)) (r.after requests) := by
  induction requests generalizing r us with
  | nil =>
    rw [List.flatMap_nil, List.append_nil]
    exact h
  | cons q qs ih =>
    rw [List.flatMap_cons, ← List.append_assoc]
    exact ih (h.perform q)

end Holds

/-! ## 4. Sorting what is staged -/

/-- The findings of one severity that some issues of a rule become, graded by the rule itself. -/
def gradedByRule (registry : Registry) (rule : String) (s : Severity) (is : List Issue) :
    List Finding :=
  if Resolver.defaultSeverity registry rule = s then is.map Issue.finding else []

theorem isOf_finding (rule : String) (i : Issue) :
    i.finding.isOf rule = decide (i.rule = some rule) := by
  cases hr : i.rule <;> simp [Finding.isOf, Issue.finding, Value.ofText?, hr]

/-- **Sorting drops a rule that is off** from what has a file, and takes what has none for what the
rule itself says. -/
theorem filter_isOf_classified {c : Config} {rule : String} (hoff : c.SwitchesOff rule)
    {registry : Registry} : ∀ {is : List Issue} {ew : List Finding × List Finding},
      classified (some c) registry is = .ok ew →
        ew.1.filter (Finding.isOf rule) =
            gradedByRule registry rule .error (is.filter (Issue.isUnfiled rule)) ∧
          ew.2.filter (Finding.isOf rule) =
            gradedByRule registry rule .warn (is.filter (Issue.isUnfiled rule))
  | [], ew, h => by
    obtain rfl := Except.ok.inj h
    simp [gradedByRule]
  | i :: is, ew, h => by
    obtain ⟨s, rest, hsev, hrest, rfl⟩ := classified_cons_eq_ok_iff.mp h
    have ih := filter_isOf_classified hoff hrest
    rw [List.filter_cons]
    by_cases hrule : i.rule = some rule
    · have hof : i.finding.isOf rule = true := by rw [isOf_finding]; simpa using hrule
      cases hfile : i.file with
      | none =>
        have hun : i.isUnfiled rule = true := by simp [Issue.isUnfiled, hrule, hfile]
        simp only [severityOfIssue, hrule, hfile, Except.ok.injEq] at hsev
        rw [if_pos hun]
        cases s <;> simp [filed, gradedByRule, hsev, hof, ih]
      | some path =>
        have hun : i.isUnfiled rule = false := by simp [Issue.isUnfiled, hfile]
        simp only [severityOfIssue, hrule, hfile] at hsev
        rw [Resolver.severityAt_of_switchesOff hoff hsev, hun]
        exact ih
    · have hof : i.finding.isOf rule = false := by rw [isOf_finding]; simpa using hrule
      have hun : i.isUnfiled rule = false := by simp [Issue.isUnfiled, hrule]
      rw [hun]
      cases s <;> simpa [filed, hof] using ih

/-! ## 5. The outcome -/

/-- Warnings about directives name no rule. -/
theorem filter_isOf_unusedWarnings (rule : String) (r : Runner) :
    r.unusedWarnings.filter (Finding.isOf rule) = [] := by
  rw [List.filter_eq_nil_iff]
  intro f hf
  obtain ⟨path, s, rfl⟩ := exists_of_mem_unusedWarnings hf
  exact Bool.false_ne_true

theorem filter_isOf_eq_nil {rule : String} {fs : List Finding} :
    fs.filter (Finding.isOf rule) = [] ↔ ∀ f ∈ fs, f.isOf rule = false := by
  simp [List.filter_eq_nil_iff]

/-- **What a rule that is off leaves.**  After any requests, the findings of the rule, those that are
diagnostics set aside, are the issues without a file that were staged for it, in order and graded by
the rule itself.  So there are none exactly if none were staged or the rule is off by itself. -/
theorem findings_of_off_rule (c : Config) (registry : Registry) (diagnostics : Option Diagnostics)
    (reportUnused : Bool) (rule : String) (hoff : c.SwitchesOff rule) (requests : List Request)
    (o : Outcome) :
    let start : Runner := { registry, resolver := { config := some c, registry, diagnostics }, reportUnused }
    let unfiled := requests.flatMap (Request.unfiled rule)
    (start.after requests).outcome.2 = .ok o →
      let ds := (start.after requests).outcome.1.resolver.diagnostics.getD []
      ∃ errors warnings,
        o.errors = errors ++ ds.errors.map diagnosticFinding ∧
        o.warnings = warnings ++ ds.warnings.map diagnosticFinding ∧
        errors.filter (Finding.isOf rule) = gradedByRule registry rule .error unfiled ∧
        warnings.filter (Finding.isOf rule) = gradedByRule registry rule .warn unfiled ∧
        ((∀ f ∈ errors ++ warnings, f.isOf rule = false) ↔
          unfiled = [] ∨ Resolver.defaultSeverity registry rule = .off) := by
  intro start unfiled ho ds
  have hstart : Holds (some c) registry rule [] start :=
    ⟨Resolver.sound_fresh (some c) registry diagnostics, rfl, rfl⟩
  have hafter : Holds (some c) registry rule unfiled (start.after requests) := hstart.after requests
  obtain ⟨r, -, hask⟩ := hafter.ask (answers_classified (start.after requests).staged)
  rw [← hafter.registry_eq] at hask
  cases hsorted : classified (some c) (start.after requests).registry
      (start.after requests).staged with
  | error e =>
    rw [hsorted] at hask
    simp [Runner.outcome, hask, Except.map] at ho
  | ok ew =>
    obtain ⟨errors, warnings⟩ := ew
    rw [hsorted] at hask
    have hds : ds = r.resolver.diagnostics.getD [] := by
      show (start.after requests).outcome.1.resolver.diagnostics.getD [] = _
      simp only [Runner.outcome, hask]
    have hkept := filter_isOf_classified hoff hsorted
    rw [hafter.registry_eq, hafter.unfiled] at hkept
    obtain ⟨herrors, hwarnings⟩ := hkept
    have hwarn : (warnings ++ if r.reportUnused then r.unusedWarnings else []).filter
        (Finding.isOf rule) = gradedByRule registry rule .warn unfiled := by
      rw [List.filter_append, hwarnings]
      split
      · rw [filter_isOf_unusedWarnings, List.append_nil]
      · rw [List.filter_nil, List.append_nil]
    rw [outcome_eq hask, Except.ok.injEq] at ho
    refine ⟨errors, _, ?_, ?_, herrors, hwarn, ?_⟩
    · rw [← ho, hds]
    · rw [← ho, hds]
    · rw [← filter_isOf_eq_nil, List.filter_append, herrors, hwarn, List.append_eq_nil_iff]
      cases hd : Resolver.defaultSeverity registry rule <;> simp [gradedByRule, hd]

/-- A rule that is off, run on a text and named by two issues: the one with a file is dropped, the one
without is an error, as the rule says. -/
theorem findings_of_silent_probe :
    let probe : Rule := {
      info := { id := "probe", name := "Probe", description := "Probes.", category := .claudeMd }
      check := fun _ => Check.report { message := "reported" } }
    let c : Config := {
      rules := [("probe", ⟨.off, none⟩)]
      overrides := [⟨["docs/**"], [("other", ⟨.warn, none⟩), ("probe", ⟨.off, none⟩)]⟩] }
    let registry : Registry := [("probe", probe)]
    let start : Runner := { registry, resolver :=
      { config := some c, registry, diagnostics := none } }
    let requests : List Request := [
      .call ⟨⟨[], [], "/", [], 0⟩, .claudeMd, "docs/CLAUDE.md", "text"⟩,
      .stage { message := "filed", file := some "CLAUDE.md", rule := some "probe" },
      .stage { message := "unfiled", rule := some "probe" }]
    c.SwitchesOff "probe" ∧ ∃ o, (start.after requests).outcome.2 = .ok o ∧
      (o.errors.filter (Finding.isOf "probe")).map Finding.message = ["unfiled"] ∧
      (o.warnings.filter (Finding.isOf "probe")).map Finding.message = [] := by
  intro probe c registry start requests
  have hoff : c.SwitchesOff "probe" := by
    refine ⟨⟨⟨.off, none⟩, rfl, rfl⟩, fun o ho s hs => ?_⟩
    rw [List.mem_singleton.mp ho] at hs
    exact Option.some.inj hs ▸ rfl
  have hok : (start.after requests).outcome.2.isOk = true := by decide +kernel
  cases ho : (start.after requests).outcome.2 with
  | error e =>
    rw [ho] at hok
    exact absurd hok Bool.false_ne_true
  | ok o =>
    obtain ⟨errors, warnings, herrors, hwarnings, herr, hwarn, -⟩ :=
      findings_of_off_rule c registry none true "probe" hoff requests o ho
    have hds : (start.after requests).outcome.1.resolver.diagnostics = none := by decide +kernel
    have herrors' : o.errors = errors := by rw [herrors, hds]; exact List.append_nil errors
    have hwarnings' : o.warnings = warnings := by rw [hwarnings, hds]; exact List.append_nil warnings
    refine ⟨hoff, o, rfl, ?_, ?_⟩
    · rw [herrors', herr]
      decide +kernel
    · rw [hwarnings', hwarn]
      decide +kernel

/-- A rule that is off and still has an error in the outcome: an issue that names it and no file is not
looked up in the configuration. -/
theorem off_rule_without_file_is_reported :
    let probe : Rule := {
      info := { id := "probe", name := "probe", description := "", category := .claudeMd }
      check := fun _ => pure () }
    let c : Config := { rules := [("probe", ⟨.off, none⟩)] }
    let registry : Registry := Builtin.registry ++ [("probe", probe)]
    let start : Runner := { registry, resolver :=
      { config := some c, registry, diagnostics := none } }
    let r := start.after [.stage { message := "seen", rule := some "probe" }]
    c.SwitchesOff "probe" ∧ Assoc.has "probe" registry = true ∧
      (match r.outcome.2 with
        | .ok o => some ((o.errors.filter (Finding.isOf "probe")).map Finding.message)
        | .error _ => none) = some ["seen"] := by
  refine ⟨⟨⟨⟨.off, none⟩, rfl, rfl⟩, fun o ho => absurd ho List.not_mem_nil⟩, ?_, ?_⟩
  · decide +kernel
  · decide +kernel

end Runner

end AgentLint
