import AgentLint.Proofs.Cache.History
import AgentLint.Proofs.Family.Independence
import AgentLint.Proofs.FileTree.ShortForm

/-!
# How checking files fails

A file that cannot be read, and a file that should be JSON and is not, are errors in the outcome.  A rule that
fails ends the run, and the fault says which rule it was and on which file.  `ends_of_lint` says that this is not
all: three more things end a run, and none of them is the fault of a rule (`Escapes`).  They are a path that no
file can have, a JSON text that is refused by a limit of the reader rather than by the grammar, and a pattern of
the configuration that is refused when the settings at a path are worked out.

A run fails at the first of its files that fails by itself.  `endOf` is how a file ends without a runner: it
depends on the configuration, the registry and the host, and on nothing that other files have left.  The invariant
of a run is `Underway`.  Every staged issue has a severity, so that sorting them at the end cannot fail, and those
without a rule are the complaints so far.
-/

namespace AgentLint

/-! ## 1. The resolver only warns -/

namespace Resolver

section OnlyWarns

variable {α β : Type}

/-- Every diagnostic of a resolver is a warning. -/
def OnlyWarns (r : Resolver) : Prop := ∀ d ∈ r.diagnostics.getD [], d.level = .warning

/-- A question that adds nothing but warnings. -/
def Mild (q : Query α) : Prop := ∀ r, OnlyWarns r → OnlyWarns (q.run r).2

theorem Mild.pure (a : α) : Mild (Pure.pure a : Query α) := fun _ h => h

theorem Mild.bind {q : Query α} {k : α → Query β} (hq : Mild q) (hk : ∀ a, Mild (k a)) : Mild (q >>= k) := by
  intro r hr
  have hfirst := hq r hr
  show OnlyWarns ((ExceptT.run (q >>= k)).run r).2
  cases hrun : (ExceptT.run q).run r with
  | mk a r₁ =>
    have hr₁ : OnlyWarns r₁ := by
      have hrun' : q.run r = (a, r₁) := hrun
      rw [hrun'] at hfirst
      exact hfirst
    simp only [ExceptT.run_bind, StateT.run_bind, hrun]
    cases a with
    | error e => exact hr₁
    | ok a => exact hk a r₁ hr₁

theorem Mild.ofExcept (a : Except Fault α) : Mild (MonadExcept.ofExcept a : Query α) := by
  intro r hr
  cases a <;> exact hr

/-- A question about the resolver itself. -/
theorem Mild.get_bind {k : Resolver → Query α} (hk : ∀ r, OnlyWarns r → OnlyWarns ((k r).run r).2) :
    Mild (get >>= k) := hk

theorem OnlyWarns.reportRefused {r : Resolver} (h : OnlyWarns r) (rule : String) (why : OptionRefusal) :
    OnlyWarns (r.reportRefused rule why) := by
  unfold OnlyWarns Resolver.reportRefused
  cases hds : r.diagnostics with
  | none =>
    intro d hd
    cases hd
  | some ds =>
    intro d hd
    rcases Diagnostics.mem_add.mp hd with hold | rfl
    · exact h d (by rw [hds]; exact hold)
    · rfl

theorem mild_optionsIn (layer : Layer) (rule : String) (os : Entries) : Mild (optionsIn layer rule os) := by
  refine Mild.get_bind fun r hr => ?_
  cases Assoc.get? (layer, rule) r.checked with
  | some read => exact hr
  | none =>
    simp only
    cases readOptions r.registry rule os with
    | error e => exact hr
    | ok c =>
      cases c with
      | ok read => exact hr
      | error why => exact hr.reportRefused rule why

theorem mild_orDefault (rule : String) (read : Option Entries) : Mild (orDefault rule read) :=
  Mild.get_bind fun r => Mild.ofExcept (r.registry.optionsOrDefault rule read) r

theorem mild_settle (layer : Layer) (rule : String) (s : RuleSetting) : Mild (settle layer rule s) := by
  have hlast : ∀ read : Option Entries, Mild
      (do return ⟨s.severity, ← orDefault rule read⟩ : Query Resolved) :=
    fun read => (mild_orDefault rule read).bind fun _ => Mild.pure _
  unfold settle
  cases s.options with
  | none => exact (Mild.pure none).bind hlast
  | some os => exact (mild_optionsIn layer rule os).bind hlast

theorem mild_settleAll : ∀ ws : Assoc String (Layer × RuleSetting), Mild (settleAll ws)
  | [] => Mild.pure []
  | (rule, layer, s) :: rest =>
    (mild_settle layer rule s).bind fun _ => (mild_settleAll rest).bind fun _ => Mild.pure _

theorem mild_resolve (path : String) : Mild (resolve path) := by
  refine Mild.get_bind fun r hr => ?_
  cases Assoc.get? (Path.normal path) r.known with
  | some found => exact hr
  | none =>
    have hnote : ∀ found, Mild
        (do
          modify fun r => { r with known := Assoc.put (Path.normal path) found r.known }
          pure found : Query (Assoc String Resolved)) := fun _ _ hr => hr
    have hwork := (Mild.ofExcept ((layersAt r.config (Path.normal path)).mapError .pattern)).bind fun layers =>
      (mild_settleAll (winners layers)).bind hnote
    exact hwork r hr

theorem mild_severity (rule path : String) : Mild (severity rule path) := by
  refine (mild_resolve path).bind fun found => ?_
  cases Assoc.get? rule found with
  | some s => exact Mild.pure _
  | none => exact Mild.get_bind fun _ hr => hr

theorem mild_options (rule path : String) : Mild (options rule path) :=
  (mild_resolve path).bind fun _ => mild_orDefault rule _

end OnlyWarns

end Resolver

/-- An issue that carries no rule. -/
def Issue.isBare (i : Issue) : Bool := i.rule.isNone

/-- A finding that carries no rule. -/
def Finding.isBare (f : Finding) : Bool := f.rule.text?.isNone

theorem Issue.isBare_finding (i : Issue) : i.finding.isBare = i.isBare := by
  unfold Finding.isBare Issue.isBare Issue.finding
  cases i.rule <;> rfl

namespace Runner

section Underway

variable {config : Option Config} {registry : Registry} {reportUnused : Bool} {bare : List Issue}
variable {r : Runner} {host : Host} {path content : String}

/-! ## 2. How the rules of a file end -/

/-- How rules end that run one after the other on a text. -/
def endOf (config : Option Config) (registry : Registry) (host : Host) (path content : String) :
    List Rule → Shared content → Except Fault Unit
  | [], _ => .ok ()
  | rule :: rest, shared =>
    match optionsIfOn config registry rule.info.id path with
    | .error e => .error e
    | .ok none => endOf config registry host path content rest shared
    | .ok (some options) =>
      match rule.runOn ⟨rule.info.id, path, content, options, host⟩ shared with
      | (.ok (), trace) => endOf config registry host path content rest trace.toShared
      | (.error e, _) => .error (.crash rule.info.id path e)

/-- **Rules fail in two ways**: the setting of one of them cannot be worked out, or one of them fails itself. -/
theorem endOf_eq_error : ∀ {rules : List Rule} {shared : Shared content} {fault : Fault},
    endOf config registry host path content rules shared = .error fault →
      (∃ rule ∈ rules, optionsIfOn config registry rule.info.id path = .error fault) ∨
        ∃ rule ∈ rules, ∃ cause, fault = .crash rule.info.id path cause
  | [], _, _, h => by cases h
  | rule :: rest, shared, fault, h => by
    have hrest : ∀ {shared : Shared content}, endOf config registry host path content rest shared = .error fault →
        (∃ rule' ∈ rule :: rest, optionsIfOn config registry rule'.info.id path = .error fault) ∨
          ∃ rule' ∈ rule :: rest, ∃ cause, fault = .crash rule'.info.id path cause := by
      intro shared hends
      refine (endOf_eq_error hends).imp ?_ ?_
      · exact fun ⟨rule', hmem, he⟩ => ⟨rule', List.mem_cons_of_mem rule hmem, he⟩
      · exact fun ⟨rule', hmem, hcrash⟩ => ⟨rule', List.mem_cons_of_mem rule hmem, hcrash⟩
    rw [endOf] at h
    cases hon : optionsIfOn config registry rule.info.id path with
    | error e =>
      rw [hon] at h
      cases h
      exact .inl ⟨rule, List.mem_cons_self, hon⟩
    | ok options =>
      rw [hon] at h
      cases options with
      | none => exact hrest h
      | some options =>
        simp only at h
        cases hrun : rule.runOn ⟨rule.info.id, path, content, options, host⟩ shared with
        | mk end_ trace =>
          rw [hrun] at h
          cases end_ with
          | ok _ => exact hrest h
          | error cause =>
            cases h
            exact .inr ⟨rule, List.mem_cons_self, cause, rfl⟩

/-- A runner on its way ends as its rules do. -/
theorem runRules_snd : ∀ (rules : List Rule) {r : Runner} (_ : Ready config registry reportUnused r)
    (shared : Shared content), (r.runRules host path content rules shared).2 =
      endOf config registry host path content rules shared
  | [], _, _, _ => rfl
  | rule :: rest, r, hr, shared => by
    obtain ⟨r₁, hr₁, -, -, hrun⟩ := hr.runRule_eq rule path content
    rw [runRules, endOf, hrun]
    cases optionsIfOn config registry rule.info.id path with
    | error e => rfl
    | ok options =>
      cases options with
      | none => exact runRules_snd rest hr₁ shared
      | some options =>
        simp only [afterRule]
        cases rule.runOn ⟨rule.info.id, path, content, options, host⟩ shared with
        | mk end_ trace =>
          cases end_ with
          | error e => rfl
          | ok _ => exact runRules_snd rest (hr₁.stageReports _ _ _) trace.toShared

/-! ## 3. Runners on their way -/

/-- What holds of a runner on its way through files: the staged issues without a rule are these, all staged
issues have a severity, and the diagnostics are warnings. -/
structure Underway (config : Option Config) (registry : Registry) (reportUnused : Bool) (bare : List Issue)
    (r : Runner) : Prop extends Ready config registry reportUnused r where
  bare_eq : r.staged.filter Issue.isBare = bare
  severity : ∀ i ∈ r.staged, ∃ s, severityOfIssue config registry i = .ok s
  warns : r.resolver.OnlyWarns

theorem Underway.of_eq (h : Underway config registry reportUnused bare r) {r' : Runner}
    (hr' : Ready config registry reportUnused r') (hst : r'.staged = r.staged)
    (hres : r'.resolver = r.resolver) : Underway config registry reportUnused bare r' :=
  ⟨hr', hst ▸ h.bare_eq, hst ▸ h.severity, hres ▸ h.warns⟩

theorem Underway.enter (h : Underway config registry reportUnused bare r) (path content : String) :
    Underway config registry reportUnused bare (r.enter path content) := by
  refine h.of_eq (h.toReady.enter path content) ?_ (resolver_enter r path content)
  unfold Runner.enter
  split <;> rfl

theorem Underway.noteDeprecated (h : Underway config registry reportUnused bare r) (i : RuleInfo) :
    Underway config registry reportUnused bare (r.noteDeprecated i) := by
  obtain ⟨hr, hst, -⟩ := h.toReady.noteDeprecated i
  exact h.of_eq hr hst (Progress.noteDeprecated r i).2

theorem Underway.ask {α : Type} {q : Query α} {a : Except Fault α}
    (h : Underway config registry reportUnused bare r) (hq : Resolver.Answers config registry q a)
    (hmild : Resolver.Mild q) :
    ∃ r₁, r.ask q = (r₁, a) ∧ Underway config registry reportUnused bare r₁ := by
  obtain ⟨r₁, hask, hr₁, hst, -⟩ := h.toReady.ask hq
  refine ⟨r₁, hask, hr₁, hst ▸ h.bare_eq, hst ▸ h.severity, ?_⟩
  have hres : r₁.resolver = (q.run r.resolver).2 := (congrArg (fun x => x.1.resolver) hask).symm
  rw [hres]
  exact hmild r.resolver h.warns

/-- One more issue on the stage. -/
theorem Underway.append (h : Underway config registry reportUnused bare r) {r' : Runner} {i : Issue}
    (hr' : Ready config registry reportUnused r') (hst : r'.staged = r.staged ++ [i])
    (hres : r'.resolver = r.resolver) (hsev : ∃ s, severityOfIssue config registry i = .ok s) :
    Underway config registry reportUnused (bare ++ if i.isBare then [i] else []) r' := by
  refine ⟨hr', ?_, ?_, hres ▸ h.warns⟩
  · rw [hst, List.filter_append, h.bare_eq, List.filter_singleton]
    cases i.isBare <;> rfl
  · intro j hj
    rw [hst] at hj
    rcases List.mem_append.mp hj with hj | hj
    · exact h.severity j hj
    · exact List.mem_singleton.mp hj ▸ hsev

/-- A report of a rule whose path has settings. -/
theorem Underway.stageReport (h : Underway config registry reportUnused bare r) {rule path : String}
    {s : Severity} (hsev : Resolver.severityAt config registry rule path = .ok s) (rep : Report) :
    Underway config registry reportUnused bare
      (r.stageUnlessCovered rule path (.ofReport rule path rep)) := by
  have hr' := h.toReady.stageUnlessCovered rule path (.ofReport rule path rep)
  have hadd : ∀ {r' : Runner}, Ready config registry reportUnused r' →
      r'.staged = r.staged ++ [.ofReport rule path rep] → r'.resolver = r.resolver →
        Underway config registry reportUnused bare r' := fun hr' hst hres => by
    have hnew := h.append hr' hst hres ⟨s, hsev⟩
    rwa [if_neg (by simp [Issue.isBare, Issue.ofReport]), List.append_nil] at hnew
  cases ht : Assoc.get? path r.trackers with
  | none =>
    have heq : r.stageUnlessCovered rule path (.ofReport rule path rep) =
        { r with staged := r.staged ++ [.ofReport rule path rep] } := by
      rw [Runner.stageUnlessCovered, ht]
    rw [heq] at hr' ⊢
    exact hadd hr' rfl rfl
  | some t =>
    rw [stageUnlessCovered_eq ht] at hr' ⊢
    cases hcov : t.covers rule (Issue.ofReport rule path rep).line with
    | true =>
      rw [hcov] at hr'
      exact h.of_eq hr' (List.append_nil _) rfl
    | false =>
      rw [hcov] at hr'
      exact hadd hr' rfl rfl

theorem Underway.stageReports {rule path : String} {s : Severity}
    (hsev : Resolver.severityAt config registry rule path = .ok s) :
    ∀ (reports : List Report) {r : Runner}, Underway config registry reportUnused bare r →
      Underway config registry reportUnused bare (r.stageReports rule path reports)
  | [], _, h => h
  | rep :: reports, _, h => Underway.stageReports hsev reports (h.stageReport hsev rep)

/-- **One rule** adds issues that carry it, and their severity is known. -/
theorem Underway.runRule (h : Underway config registry reportUnused bare r) (host : Host) (rule : Rule)
    (path content : String) (shared : Shared content) :
    Underway config registry reportUnused bare (r.runRule host rule path content shared).1 := by
  obtain ⟨r₁, hask₁, h₁⟩ := (h.enter path content).ask (Resolver.answers_severity rule.info.id path)
    (Resolver.mild_severity rule.info.id path)
  obtain ⟨r₂, hask₂, h₂⟩ := (h₁.noteDeprecated rule.info).ask (Resolver.answers_options rule.info.id path)
    (Resolver.mild_options rule.info.id path)
  -- Passed over, without options, or run: only the last one stages anything.
  simp only [Runner.runRule, hask₁]
  cases hsev : Resolver.severityAt config registry rule.info.id path with
  | error e => exact h₁
  | ok s =>
    cases s with
    | off => exact h₁
    | warn | error =>
      simp only [hask₂]
      cases Resolver.optionsAt config registry rule.info.id path with
      | error e => exact h₂
      | ok options =>
        simp only
        split <;> exact Underway.stageReports hsev _ h₂

theorem Underway.runRules (h : Underway config registry reportUnused bare r) (host : Host)
    (path content : String) (rules : List Rule) (shared : Shared content) :
    Underway config registry reportUnused bare (r.runRules host path content rules shared).1 := by
  induction rules generalizing r shared with
  | nil => exact h
  | cons rule rest ih =>
    have hone := h.runRule host rule path content shared
    rw [Runner.runRules]
    cases hrun : r.runRule host rule path content shared with
    | mk r₁ end_ =>
      rw [hrun] at hone
      cases end_ with
      | error e => exact hone
      | ok shared => exact ih hone shared

/-- **A complaint** about a file is staged. -/
theorem Underway.complain (h : Underway config registry reportUnused bare r) {i : Issue}
    (hi : i.rule = none) : Underway config registry reportUnused (bare ++ [i]) (r.stage i) := by
  have hr' := h.toReady.stage hi
  have hbare : i.isBare = true := by rw [Issue.isBare, hi]; rfl
  rw [stage_of_no_rule r hi] at hr' ⊢
  have hsev : ∃ s, severityOfIssue config registry i = .ok s := by
    unfold severityOfIssue
    rw [hi]
    exact ⟨_, rfl⟩
  have hnew := h.append hr' rfl rfl hsev
  rwa [if_pos hbare] at hnew

/-! ## 4. Sorting what is staged -/

/-- **Sorting** what has a severity cannot fail, and it keeps the complaints, which are errors. -/
theorem classified_of_severity : ∀ {staged : List Issue},
    (∀ i ∈ staged, ∃ s, severityOfIssue config registry i = .ok s) →
    (∀ i ∈ staged.filter Issue.isBare, i.grade = some .error) →
      ∃ errors warnings, classified config registry staged = .ok (errors, warnings) ∧
        errors.filter Finding.isBare = (staged.filter Issue.isBare).map Issue.finding
  | [], _, _ => ⟨[], [], rfl, rfl⟩
  | i :: staged, hsev, hgrade => by
    obtain ⟨s, hs⟩ := hsev i List.mem_cons_self
    have hrest : ∀ j ∈ staged.filter Issue.isBare, j.grade = some .error := fun j hj => by
      obtain ⟨hmem, hbare⟩ := List.mem_filter.mp hj
      exact hgrade j (List.mem_filter.mpr ⟨List.mem_cons_of_mem i hmem, hbare⟩)
    obtain ⟨errors, warnings, hclass, hkept⟩ :=
      classified_of_severity (fun j hj => hsev j (List.mem_cons_of_mem i hj)) hrest
    rw [classified, hs, hclass]
    cases hbare : i.isBare with
    | true =>
      have hrule : i.rule = none := Option.isNone_iff_eq_none.mp hbare
      have herror : s = .error := by
        unfold severityOfIssue at hs
        rw [hrule, hgrade i (List.mem_filter.mpr ⟨List.mem_cons_self, hbare⟩)] at hs
        exact (Except.ok.inj hs).symm
      subst herror
      refine ⟨i.finding :: errors, warnings, rfl, ?_⟩
      rw [List.filter_cons_of_pos (by rw [Issue.isBare_finding, hbare]), List.filter_cons_of_pos hbare, hkept,
        List.map_cons]
    | false =>
      rw [List.filter_cons_of_neg (by simp [hbare])]
      cases s with
      | off => exact ⟨errors, warnings, rfl, hkept⟩
      | warn => exact ⟨errors, i.finding :: warnings, rfl, hkept⟩
      | error =>
        refine ⟨i.finding :: errors, warnings, rfl, ?_⟩
        rw [List.filter_cons_of_neg (by simp [Issue.isBare_finding, hbare]), hkept]

theorem mild_classify (registry : Registry) : ∀ staged : List Issue, Resolver.Mild (classify registry staged)
  | [] => Resolver.Mild.pure _
  | i :: staged => by
    have hsev : Resolver.Mild (severityOf registry i) := by
      unfold severityOf
      cases i.rule with
      | none => exact Resolver.Mild.pure _
      | some rule =>
        cases i.file with
        | none => exact Resolver.Mild.pure _
        | some path => exact Resolver.mild_severity rule path
    refine hsev.bind fun severity => (mild_classify registry staged).bind fun found => ?_
    cases severity <;> exact Resolver.Mild.pure _

/-- **The outcome of a runner on its way** is there, and its errors without a rule are the complaints. -/
theorem Underway.outcome (h : Underway config registry reportUnused bare r)
    (hgrade : ∀ i ∈ bare, i.grade = some .error) :
    ∃ o, r.outcome.2 = .ok o ∧ o.errors.filter Finding.isBare = bare.map Issue.finding := by
  obtain ⟨errors, warnings, hclass, hkept⟩ :=
    classified_of_severity h.severity fun i hi => hgrade i (h.bare_eq ▸ hi)
  obtain ⟨r₁, hask, h₁⟩ := h.ask (answers_classified r.staged) (mild_classify registry r.staged)
  rw [hclass, ← h.registry_eq] at hask
  refine ⟨_, outcome_eq hask, ?_⟩
  have hnone : (r₁.resolver.diagnostics.getD []).errors = [] := by
    rw [Diagnostics.errors, List.filter_eq_nil_iff]
    intro d hd
    simp [h₁.warns d hd]
  rw [hnone, List.map_nil, List.append_nil, hkept, h.bare_eq]

end Underway

end Runner

namespace Family

open Runner (Underway endOf optionsIfOn)

/-! ## 5. One file -/

/-- The rules of a family run on a file, and this is its text. -/
def RunsOn (f : Family) (h : Host) (path content : String) (around : Nat := Json.inUse) : Prop :=
  textAt h path = .ok content ∧ (f.isJson = true → ∃ v, Json.readInside around content = .ok v)

/-- A rule fails on a file. -/
def Crashes (f : Family) (registry : Registry) (config : Option Config) (h : Host) (path : String) (around : Nat)
    (fault : Fault) : Prop :=
  ∃ content, f.RunsOn h path content around ∧ ∃ rule ∈ registry.ofCategory f.category, ∃ cause,
    fault = .crash rule.info.id path cause ∧
      endOf config registry h path content (registry.ofCategory f.category) .fresh = .error fault

/-- What ends a run at a file although no rule has failed. -/
inductive Escapes (f : Family) (registry : Registry) (config : Option Config) (h : Host) (path : String)
    (around : Nat) : Fault → Prop where
  /-- No file can have this path: it holds a null character, or half of a character. -/
  | path {e : FileFault} (refused : refusal? (Path.normal path) = some e) :
    Escapes f registry config h path around (.file e)
  /-- The text is refused by a limit: it holds too long an integer, or is nested too deeply. -/
  | limit {content : String} {refusal : Json.Refusal} (isJson : f.isJson = true)
    (read : textAt h path = .ok content) (refused : Json.readInside around content = .error refusal)
    (limit : ∀ m, refusal ≠ .malformed m) : Escapes f registry config h path around (.json refusal)
  /-- The setting of a rule at the path cannot be worked out: a pattern of the configuration is refused, or the
  options of a rule do not just turn out invalid. -/
  | settings {content : String} {rule : Rule} {fault : Fault} (runs : f.RunsOn h path content around)
    (rules : rule ∈ registry.ofCategory f.category)
    (refused : optionsIfOn config registry rule.info.id path = .error fault)
    (ends : endOf config registry h path content (registry.ofCategory f.category) .fresh = .error fault) :
    Escapes f registry config h path around fault

/-- A file does not end a run. -/
def EndsWell (f : Family) (registry : Registry) (config : Option Config) (h : Host) (path : String)
    (around : Nat) : Prop :=
  ∀ fault, ¬ f.Crashes registry config h path around fault ∧ ¬ f.Escapes registry config h path around fault

/-- The error that a file makes before any rule sees it. -/
def complaint? (f : Family) (h : Host) (around : Nat) (path : String) : Option Issue :=
  match textAt h path with
  | .error e => some { message := "Cannot read file: " ++ e.message, file := some path, grade := some .error }
  | .ok content =>
    match f.isJson, Json.readInside around content with
    | true, .error (.malformed m) => some {
        message := "Invalid JSON: " ++ m.complaint.text
        file := some path
        line := some m.line
        grade := some .error }
    | _, _ => none

/-- How a file ends. -/
def fileEnd (f : Family) (registry : Registry) (config : Option Config) (h : Host) (around : Nat) (path : String) :
    Except Fault Unit :=
  match textAt h path with
  | .error (.file e) => if e.fromSystem then .ok () else .error (.file e)
  | .error (.decoding _) => .ok ()
  | .error e => .error e
  | .ok content =>
    match if f.isJson then (Json.readInside around content).map fun _ => () else .ok () with
    | .ok () => endOf config registry h path content (registry.ofCategory f.category) .fresh
    | .error (.malformed _) => .ok ()
    | .error e => .error (.json e)

section Files

variable {f : Family} {registry : Registry} {config : Option Config} {h : Host} {reportUnused : Bool}
variable {path : String} {around : Nat} {bare : List Issue} {r : Runner}

/-- A file is read, or the file system or the encoding is at fault, or the path is none. -/
theorem textAt_cases (h : Host) (path : String) :
    (∃ e, refusal? (Path.normal path) = some e ∧ textAt h path = .error (.file e)) ∨
      refusal? (Path.normal path) = none ∧ ((∃ content, textAt h path = .ok content) ∨
        (∃ d, textAt h path = .error (.decoding d)) ∨
        ∃ e, textAt h path = .error (.file e) ∧ e.fromSystem = true) := by
  unfold textAt
  cases hsay : refusal? (Path.normal path) with
  | some e => exact .inl ⟨e, rfl, Host.readText_of_readBytes_error (Host.readBytes_of_refusal? hsay)⟩
  | none =>
    refine .inr ⟨rfl, ?_⟩
    cases hread : h.readText (Path.normal path) with
    | ok content => exact .inl ⟨content, rfl⟩
    | error d =>
      rcases Host.readText_eq_error_iff.mp hread with ⟨e, he, rfl⟩ | ⟨_, r, -, -, rfl⟩
      · exact .inr (.inr ⟨e, rfl, Host.fromSystem_of_readBytes hsay he⟩)
      · exact .inr (.inl ⟨r, rfl⟩)

theorem fileEnd_of_runsOn {content : String} (hruns : f.RunsOn h path content around) :
    f.fileEnd registry config h around path =
      endOf config registry h path content (registry.ofCategory f.category) .fresh := by
  obtain ⟨hread, hjson⟩ := hruns
  rw [fileEnd, hread]
  cases hf : f.isJson with
  | false => rfl
  | true =>
    obtain ⟨v, hv⟩ := hjson hf
    simp only [hv]
    rfl

/-- **A file fails** by one of its rules or by none. -/
theorem fileEnd_eq_error_iff {fault : Fault} : f.fileEnd registry config h around path = .error fault ↔
    f.Crashes registry config h path around fault ∨ f.Escapes registry config h path around fault := by
  constructor
  · intro hend
    rcases textAt_cases h path with ⟨e, hsay, hread⟩ | ⟨-, ⟨content, hread⟩ | ⟨d, hread⟩ | ⟨e, hread, he⟩⟩
    · rw [fileEnd, hread] at hend
      simp only [fromSystem_of_refusal? hsay, Bool.false_eq_true, if_false] at hend
      cases hend
      exact .inr (.path hsay)
    · by_cases hruns : f.RunsOn h path content around
      · rw [fileEnd_of_runsOn hruns] at hend
        rcases Runner.endOf_eq_error hend with ⟨rule, hrule, hon⟩ | ⟨rule, hrule, cause, hcrash⟩
        · exact .inr (.settings hruns hrule hon hend)
        · exact .inl ⟨content, hruns, rule, hrule, cause, hcrash, hend⟩
      · cases hf : f.isJson with
        | false => exact absurd ⟨hread, fun hj => by rw [hf] at hj; cases hj⟩ hruns
        | true =>
          cases hjson : Json.readInside around content with
          | ok v => exact absurd ⟨hread, fun _ => ⟨v, hjson⟩⟩ hruns
          | error refusal =>
            have hno : ∀ m, refusal ≠ .malformed m := by
              rintro m rfl
              simp only [fileEnd, hread, hf, if_true, hjson, Except.map] at hend
              cases hend
            rw [fileEnd, hread, hf] at hend
            simp only [if_true, hjson, Except.map] at hend
            cases refusal with
            | malformed m => exact absurd rfl (hno m)
            | tooManyDigits n | tooDeep b =>
              cases hend
              exact .inr (.limit hf hread hjson hno)
    · rw [fileEnd, hread] at hend
      cases hend
    · rw [fileEnd, hread] at hend
      simp only [he, if_true] at hend
      cases hend
  · rintro (⟨content, hruns, -, -, -, -, hend⟩ | hescape)
    · rw [fileEnd_of_runsOn hruns, hend]
    · cases hescape with
      | path hsay =>
        rcases textAt_cases h path with ⟨e, hsay', hread⟩ | ⟨hno, -⟩
        · cases hsay.symm.trans hsay'
          rw [fileEnd, hread]
          simp only [fromSystem_of_refusal? hsay, Bool.false_eq_true, if_false]
        · cases hsay.symm.trans hno
      | limit hf hread hjson hno =>
        rw [fileEnd, hread, hf]
        simp only [if_true, hjson, Except.map]
      | settings hruns hrule hon hend => rw [fileEnd_of_runsOn hruns, hend]

theorem fileEnd_eq_ok_iff :
    f.fileEnd registry config h around path = .ok () ↔ f.EndsWell registry config h path around := by
  constructor
  · intro hend fault
    rw [← not_or, ← fileEnd_eq_error_iff, hend]
    exact nofun
  · intro hwell
    cases hend : f.fileEnd registry config h around path with
    | ok _ => rfl
    | error fault =>
      obtain ⟨hno, hno'⟩ := hwell fault
      exact absurd (fileEnd_eq_error_iff.mp hend) (not_or.mpr ⟨hno, hno'⟩)

/-- A file that ends well makes a complaint, or its rules run. -/
theorem complaint?_eq_none_iff (hwell : f.EndsWell registry config h path around) :
    f.complaint? h around path = none ↔ ∃ content, f.RunsOn h path content around := by
  cases hread : textAt h path with
  | error e => simp [complaint?, RunsOn, hread]
  | ok content =>
    cases hf : f.isJson with
    | false => simp [complaint?, RunsOn, hread, hf]
    | true =>
      cases hjson : Json.readInside around content with
      | ok v => simp [complaint?, RunsOn, hread, hf, hjson]
      | error refusal =>
        cases refusal with
        | malformed m => simp [complaint?, RunsOn, hread, hf, hjson]
        | tooManyDigits n | tooDeep b => exact absurd (.limit hf hread hjson nofun) (hwell _).2

theorem grade_of_complaint? {i : Issue} (hi : f.complaint? h around path = some i) : i.grade = some .error := by
  unfold complaint? at hi
  split at hi
  · cases hi
    rfl
  · split at hi <;> cases hi
    rfl

/-! ## 6. Files in turn -/

/-- The rules of a category on a text. -/
theorem underway_runCategory (hr : Underway config registry reportUnused bare r) (h : Host) (category : Category)
    (path content : String) :
    (r.runCategory h category path content).2 =
        endOf config registry h path content (registry.ofCategory category) .fresh ∧
      Underway config registry reportUnused bare (r.runCategory h category path content).1 := by
  have hentered := hr.enter path content
  unfold Runner.runCategory
  rw [hr.registry_eq]
  exact ⟨Runner.runRules_snd _ hentered.toReady _, hentered.runRules h path content _ _⟩

/-- **One file.**  It ends as it does by itself, and if it ends well, its complaint is on the stage. -/
theorem underway_lintFile (hr : Underway config registry reportUnused bare r) (f : Family) (h : Host)
    (around : Nat) (path : String) :
    (f.lintFile h r path around).2 = f.fileEnd registry config h around path ∧
      (f.fileEnd registry config h around path = .ok () → Underway config registry reportUnused
        (bare ++ (f.complaint? h around path).toList) (f.lintFile h r path around).1) := by
  unfold lintFile fileEnd complaint?
  cases hread : textAt h path with
  | error e =>
    cases e with
    | file e =>
      cases he : e.fromSystem with
      | true =>
        simp only [he, if_true]
        exact ⟨trivial, fun _ => hr.complain rfl⟩
      | false => exact ⟨by simp [he], fun hend => by simp [he] at hend⟩
    | decoding d => exact ⟨rfl, fun _ => hr.complain rfl⟩
    | _ => exact ⟨rfl, fun hend => by cases hend⟩
  | ok content =>
    obtain ⟨hend, hafter⟩ := underway_runCategory hr h f.category path content
    rw [← List.append_nil bare] at hafter
    cases hf : f.isJson with
    | false => exact ⟨hend, fun _ => hafter⟩
    | true =>
      cases hjson : Json.readInside around content with
      | ok v =>
        simp only [if_true, hjson, Except.map]
        exact ⟨hend, fun _ => hafter⟩
      | error refusal =>
        simp only [if_true, hjson, Except.map]
        cases refusal with
        | malformed m => exact ⟨rfl, fun _ => hr.complain rfl⟩
        | tooManyDigits n => exact ⟨rfl, fun hend => by cases hend⟩
        | tooDeep b => exact ⟨rfl, fun hend => by cases hend⟩

/-- **Files in turn**, by induction over them: they end as they do one by one, and if all of them end well,
their complaints are on the stage. -/
theorem underway_lintFiles (f : Family) (h : Host) (around : Nat) :
    ∀ (files : List String) {bare : List Issue} {r : Runner}, Underway config registry reportUnused bare r →
      (∀ fault, f.lintFiles h r files around = .error fault ↔
        forM files (f.fileEnd registry config h around) = .error fault) ∧
      ∀ r', f.lintFiles h r files around = .ok r' →
        Underway config registry reportUnused (bare ++ files.filterMap (f.complaint? h around)) r'
  | [], bare, r, hr => by
    have hends : ∀ fault, f.lintFiles h r [] around = .error fault ↔
        forM [] (f.fileEnd registry config h around) = .error fault := by
      intro fault
      constructor <;>
      · intro hfails
        cases hfails
    refine ⟨hends, fun r' hrun => ?_⟩
    cases hrun
    rw [List.filterMap_nil, List.append_nil]
    exact hr
  | path :: files, bare, r, hr => by
    obtain ⟨hend, hafter⟩ := underway_lintFile hr f h around path
    rw [lintFiles, List.forM_cons, ← hend]
    rw [← hend] at hafter
    cases hrun : f.lintFile h r path around with
    | mk r₁ end_ =>
      rw [hrun] at hafter
      cases end_ with
      | error e => exact ⟨fun fault => error_eq_error_iff, fun r' hrest => by cases hrest⟩
      | ok _ =>
        obtain ⟨hfails, hsucceeds⟩ := underway_lintFiles f h around files (hafter rfl)
        refine ⟨hfails, fun r' hrest => ?_⟩
        have hcons : bare ++ (path :: files).filterMap (f.complaint? h around) =
            (bare ++ (f.complaint? h around path).toList) ++ files.filterMap (f.complaint? h around) := by
          rw [List.append_assoc, List.filterMap_cons]
          cases f.complaint? h around path <;> rfl
        rw [hcons]
        exact hsucceeds r' hrest

/-- A cached run fails if the look-up in the cache does, or if it finds nothing that is good for the files and
the run without a cache fails. -/
theorem lintCached_eq_error_iff {files : List String} {s : Cache.Site} {fault : Fault} :
    (exec (f.lintCached registry config files around) s).1 = .error fault ↔
      (exec (Cache.fetch f.name config) s).1 = .error fault ∨
        ∃ stored s', exec (Cache.fetch f.name config) s = (.ok stored, s') ∧
          (stored.filter fun o => sameFiles o.files files) = none ∧
          f.lint s'.host registry config files around = .error fault := by
  cases hfetch : exec (Cache.fetch f.name config) s with
  | mk answer s' =>
    cases answer with
    | error e =>
      have hrun : exec (f.lintCached registry config files around) s = (.error e, s') := by
        unfold lintCached
        rw [exec_bind, hfetch]
      rw [hrun]
      exact ⟨fun h => .inl (error_eq_error_iff.mp h), fun h => error_eq_error_iff.mp (h.resolve_right nofun)⟩
    | ok stored =>
      have hother : ∀ {good : Option Outcome}, (stored.filter fun o => sameFiles o.files files) = good →
          ((Except.ok stored : Except Fault (Option Outcome)) = .error fault ∨
            ∃ stored' s'', (Except.ok stored, s') = ((Except.ok stored' : Except Fault (Option Outcome)), s'') ∧
              (stored'.filter fun o => sameFiles o.files files) = none ∧
              f.lint s''.host registry config files around = .error fault) →
            good = none ∧ f.lint s'.host registry config files around = .error fault := by
        rintro _ rfl (hfault | ⟨_, _, heq, hnone, hlint⟩)
        · cases hfault
        · cases heq
          exact ⟨hnone, hlint⟩
      cases hgood : stored.filter fun o => sameFiles o.files files with
      | some o =>
        rw [exec_lintCached_of_hit hfetch hgood]
        exact ⟨nofun, fun h => nomatch (hother hgood h).1⟩
      | none =>
        cases hlint : f.lint s'.host registry config files around with
        | error e =>
          rw [exec_lintCached_of_error hfetch hgood hlint]
          refine ⟨fun h => .inr ⟨stored, s', rfl, hgood, ?_⟩, fun h => ?_⟩
          · rw [hlint, Except.error.inj h]
          · rw [Except.error.inj (hlint.symm.trans (hother hgood h).2)]
        | ok o =>
          rw [exec_lintCached_of_miss hfetch hgood hlint]
          exact ⟨nofun, fun h => nomatch hlint.symm.trans (hother hgood h).2⟩

end Files

/-! ## 7. All files -/

section Lint

variable (f : Family) (registry : Registry) (config : Option Config) (h : Host) (files : List String)
variable (around : Nat)

/-- What the files of a run come to: an outcome that holds their complaints, or the first fault. -/
theorem lint_cases :
    (∀ fault, f.lint h registry config files around = .error fault ↔
      forM files (f.fileEnd registry config h around) = .error fault) ∧
    ∀ o, f.lint h registry config files around = .ok o → o.files = files ∧
      o.errors.filter Finding.isBare = files.filterMap fun path => (f.complaint? h around path).map Issue.finding := by
  have hstart : Underway config registry ((config.map Config.reportUnused).getD true) []
      (freshRunner registry config) :=
    ⟨ready_fresh config registry, rfl, List.forall_mem_nil _, List.forall_mem_nil _⟩
  obtain ⟨hfails, hsucceeds⟩ := underway_lintFiles f h around files hstart
  cases hr : f.lintFiles h (freshRunner registry config) files around with
  | error e =>
    have hrun : f.lint h registry config files around = .error e := by
      rw [lint, hr]
      rfl
    have hend := (hfails e).mp hr
    rw [hrun, hend]
    exact ⟨fun fault => error_eq_error_iff, fun o ho => by cases ho⟩
  | ok r =>
    -- Sorting at the end cannot fail, so there is an outcome.
    obtain ⟨o, ho, hkept⟩ := (hsucceeds r hr).outcome fun i hi => by
      obtain ⟨path, -, hpath⟩ := List.mem_filterMap.mp hi
      exact grade_of_complaint? hpath
    have hrun : f.lint h registry config files around = .ok { o with files } :=
      lint_eq_ok_iff.mpr ⟨r, o, hr, ho, rfl⟩
    refine ⟨fun fault => ?_, fun o' ho' => ?_⟩
    · rw [hrun, ← hfails fault, hr]
      exact ⟨fun he => (by cases he), fun he => (by cases he)⟩
    · cases hrun.symm.trans ho'
      exact ⟨rfl, by rw [hkept, List.nil_append, List.map_filterMap]⟩

/-- **A run fails at the first file that does not end well.** -/
theorem lint_eq_error_iff (fault : Fault) : f.lint h registry config files around = .error fault ↔
    ∃ before path after, files = before ++ path :: after ∧
      (∀ p ∈ before, f.EndsWell registry config h p around) ∧
      (f.Crashes registry config h path around fault ∨ f.Escapes registry config h path around fault) := by
  rw [(lint_cases f registry config h files around).1 fault, forM_eq_error_iff]
  simp only [fileEnd_eq_ok_iff, fileEnd_eq_error_iff]

/-- If there is an outcome, all files have ended well. -/
theorem endsWell_of_lint {o : Outcome} (ho : f.lint h registry config files around = .ok o) :
    ∀ path ∈ files, f.EndsWell registry config h path around := by
  have hall : forM files (f.fileEnd registry config h around) = .ok () := by
    cases hforM : forM files (f.fileEnd registry config h around) with
    | error e => exact nomatch ho.symm.trans (((lint_cases f registry config h files around).1 e).mpr hforM)
    | ok _ => rfl
  exact fun path hpath => fileEnd_eq_ok_iff.mp (forM_eq_ok_iff.mp hall path hpath)

/-- **How checking files ends**, however many calls are around it.  It fails at the first file that does not end
well, by a fault that names a rule and that file, or by one that escapes.  Otherwise there is an outcome, whose
errors without a rule are the complaints: one for each file that cannot be read or is no JSON, and none for a file
on which the rules have run.  A cache adds the ways in which the look-up fails. -/
theorem ends_of_lint :
    (∀ fault, f.lint h registry config files around = .error fault ↔
      ∃ before path after, files = before ++ path :: after ∧
        (∀ p ∈ before, f.EndsWell registry config h p around) ∧
        (f.Crashes registry config h path around fault ∨ f.Escapes registry config h path around fault)) ∧
    (∀ o, f.lint h registry config files around = .ok o → o.files = files ∧
      o.errors.filter Finding.isBare =
        files.filterMap (fun path => (f.complaint? h around path).map Issue.finding) ∧
      ∀ path ∈ files, f.complaint? h around path = none ↔ ∃ content, f.RunsOn h path content around) ∧
    ∀ (s : Cache.Site) fault, (exec (f.lintCached registry config files around) s).1 = .error fault ↔
      (exec (Cache.fetch f.name config) s).1 = .error fault ∨
        ∃ stored s', exec (Cache.fetch f.name config) s = (.ok stored, s') ∧
          (stored.filter fun o => sameFiles o.files files) = none ∧
          f.lint s'.host registry config files around = .error fault := by
  refine ⟨lint_eq_error_iff f registry config h files around, fun o ho => ?_, fun s fault => lintCached_eq_error_iff⟩
  obtain ⟨hfiles, hkept⟩ := (lint_cases f registry config h files around).2 o ho
  refine ⟨hfiles, hkept, fun path hpath => ?_⟩
  have hwell : f.EndsWell registry config h path around :=
    endsWell_of_lint f registry config h files around ho path hpath
  exact complaint?_eq_none_iff hwell

end Lint

/-- Three files of a JSON family, of which one is missing and one is no JSON: both are errors in the outcome, and a
rule that reports nothing runs on the third one. -/
theorem ends_of_lint_three_files :
    let probe : Rule := {
      info := { id := "probe", name := "Probe", description := "Probes.", category := .mcp }
      check := fun _ => pure () }
    let f : Family := ⟨"mcp", .mcp, ["**/.mcp.json"], true⟩
    let h : Host := ⟨[(["b"], .file (Utf8.encode "\x7b") 1), (["c"], .file (Utf8.encode "[]") 1)], [], "/", [], 0⟩
    f ∈ builtin ∧ ∃ o, f.lint h [("probe", probe)] none ["a", "b", "c"] = .ok o ∧
      (o.errors.filter Finding.isBare).map Finding.message =
        ["Cannot read file: [Errno 2] No such file or directory: 'a'",
          "Invalid JSON: Expecting property name enclosed in double quotes"] := by
  intro probe f h
  have hends : (f.lint h [("probe", probe)] none ["a", "b", "c"]).toOption.isSome = true := by decide +kernel
  obtain ⟨o, ho⟩ := Option.isSome_iff_exists.mp hends
  have hrun := eq_ok_of_toOption ho
  obtain ⟨-, hkept, -⟩ := (ends_of_lint f [("probe", probe)] none h ["a", "b", "c"] Json.inUse).2.1 o hrun
  refine ⟨by decide +kernel, o, hrun, ?_⟩
  rw [hkept]
  decide +kernel

/-- A host with one file, which should be JSON. -/
def oneFile (text : String) : Host := ⟨[([".mcp.json"], .file (Utf8.encode text) 1)], [], "/", [], 0⟩

theorem textAt_oneFile {text : String} (hsafe : Json.SafeText text) : textAt (oneFile text) ".mcp.json" = .ok text := by
  have hstat : (oneFile text).stat ".mcp.json" = .ok ([".mcp.json"], .file (Utf8.encode text) 1) := by
    have hsay : refusal? ".mcp.json" = none := by decide +kernel
    have hshort : longestPath < pathSize ".mcp.json" ↔ False := by decide +kernel
    have hrelative : ".mcp.json".startsWith "/" = false := by decide +kernel
    have hnames : rawNames ".mcp.json" = [".mcp.json"] := by decide +kernel
    unfold Host.stat Host.locate
    simp only [hsay, hshort, hrelative, hnames]
    rfl
  have hnormal : Path.normal ".mcp.json" = ".mcp.json" := by decide +kernel
  unfold textAt
  rw [hnormal, Host.readText_of_decode (Host.readBytes_of_stat hstat) (Json.decode_encode hsafe),
    Json.universalNewlines_of_safe hsafe]

/-- A number that is written with ones. -/
def ones (n : Nat) : String := String.ofList (List.replicate n '1')

theorem safeText_ones (n : Nat) : Json.SafeText (ones n) := by
  intro c hc
  rw [ones, String.toList_ofList] at hc
  rw [List.eq_of_mem_replicate hc]
  decide

theorem read_ones {n : Nat} (hlong : Decimal.mostDigits < n) : Json.read (ones n) = .error (.tooManyDigits n) := by
  have hone : ∀ c ∈ List.replicate n '1', c = '1' := fun c => List.eq_of_mem_replicate
  have hread : Json.read (ones n) = .error (.tooManyDigits (List.replicate n '1').length) := by
    refine Json.read_of_long (fun c hc => ?_) (fun c hc => ?_) (by rwa [List.length_replicate])
    · rw [hone c hc]
      decide
    · rw [hone c (List.mem_of_mem_head? hc)]
      decide
  rwa [List.length_replicate] at hread

/-- A file that holds a number with one digit too many is JSON, and no rule has failed: the run ends all the
same. -/
theorem long_number_ends_the_run :
    let f : Family := ⟨"mcp", .mcp, ["**/.mcp.json"], true⟩
    f ∈ builtin ∧ f.lint (oneFile (ones 4301)) Builtin.registry none [".mcp.json"] =
      .error (.json (.tooManyDigits 4301)) := by
  intro f
  refine ⟨by decide +kernel, ?_⟩
  rw [lint_eq_error_iff]
  exact ⟨[], ".mcp.json", [], rfl, nofun,
    .inr (.limit rfl (textAt_oneFile (safeText_ones 4301)) (read_ones (by decide)) nofun)⟩

end Family

end AgentLint
