import AgentLint.Conduct
import AgentLint.Proofs.Family.Locality
import AgentLint.Proofs.FileTree.Reading
import AgentLint.Proofs.Runner.Conservation

/-!
# Files do not influence each other

A run goes over its files with one runner: one resolver with its tables, one list of staged issues, one
table of directives.  None of it carries anything from one file to another.  `Runner.share` is what a runner
holds about one path.  Work on another path leaves the share as it is (`aside_lintFileBy`), and work on the
path itself turns equal shares into equal shares, whatever else the two runners hold (`alike_lintFileBy`).

What is carried over are the objects that all rules are handed.  So it takes rules that do not depend on what
other rules make of these (`Conduct.SameAt`).

From this `lint_independent`: two runs over different files, in any order, find the same in a file that
both of them check.
-/

namespace AgentLint

namespace Conduct

variable {σ : Type}

/-- Some rules make nothing else of the objects that are handed to all than what is among these. -/
def Keeps (k : Conduct σ) (among : σ → Prop) (rules : List Rule) : Prop :=
  ∀ rule ∈ rules, ∀ (c : Context) (s : Shared c.content) (m : σ), among m → among (k rule c s m).2

end Conduct

/-- Whether an issue is about a file. -/
def Issue.isAbout (path : String) (i : Issue) : Bool := i.file = some path

/-- Whether a finding is about a file. -/
def Finding.isAbout (path : String) (f : Finding) : Bool := f.file.text? = some path

theorem Issue.isAbout_finding (path : String) (i : Issue) : i.finding.isAbout path = i.isAbout path := by
  unfold Finding.isAbout Issue.isAbout Issue.finding
  cases i.file <;> rfl

namespace Runner

/-! ## 1. Shares -/

/-- What a runner holds about a path: its directives, and the staged issues about it. -/
def share (r : Runner) (path : String) : Option Tracker × List Issue :=
  (Assoc.get? path r.trackers, r.staged.filter (Issue.isAbout path))

section Share

variable {config : Option Config} {registry : Registry} {reportUnused : Bool} {σ : Type}
variable {r r' : Runner} {path other : String}

theorem share_enter_of_ne (h : other ≠ path) (content : String) :
    (r.enter other content).share path = r.share path := by
  unfold enter share
  split
  · rfl
  · simp [Assoc.get?_put, h]

theorem share_stageUnlessCovered_of_ne (hne : other ≠ path) (rule : String) {i : Issue}
    (hi : i.isAbout path = false) :
    (r.stageUnlessCovered rule other i).share path = r.share path := by
  unfold stageUnlessCovered share
  cases hget : Assoc.get? other r.trackers with
  | none => simp [List.filter_append, hi]
  | some t =>
    cases hq : t.query rule i.line with
    | mk covered t' => cases covered <;> simp [hq, Assoc.get?_put, hne, List.filter_append, hi]

theorem isAbout_ofReport (rule path other : String) (rep : Report) :
    (Issue.ofReport rule other rep).isAbout path = decide (other = path) := by
  simp [Issue.isAbout, Issue.ofReport]

theorem share_stageReports_of_ne (rule : String) (hne : other ≠ path) :
    ∀ (reports : List Report) (r : Runner),
      (r.stageReports rule other reports).share path = r.share path
  | [], _ => rfl
  | rep :: reports, r => by
    rw [← share_stageUnlessCovered_of_ne (r := r) hne rule (i := .ofReport rule other rep)
      (by simp [isAbout_ofReport, hne])]
    exact share_stageReports_of_ne rule hne reports _

/-- An issue without a rule is staged, whatever the directives say. -/
theorem stage_of_no_rule (r : Runner) {i : Issue} (hi : i.rule = none) :
    r.stage i = { r with staged := r.staged ++ [i] } := by
  unfold stage
  rw [hi]

theorem share_stage (r : Runner) (path : String) {i : Issue} (hi : i.rule = none) :
    (r.stage i).share path =
      ((r.share path).1, (r.share path).2 ++ if i.isAbout path then [i] else []) := by
  rw [stage_of_no_rule r hi, share, share, List.filter_append]
  cases habout : i.isAbout path <;> simp [habout]

/-- What a runner knows from the resolver and about deprecated rules is no part of a share. -/
theorem share_congr (hst : r'.staged = r.staged) (htr : r'.trackers = r.trackers) (path : String) :
    r'.share path = r.share path := by
  rw [share, share, hst, htr]

/-! ## 2. Runners on their way -/

/-- What holds of every runner on its way: the tables of its resolver are right, and its rules and its
switch are those of the start. -/
structure Ready (config : Option Config) (registry : Registry) (reportUnused : Bool) (r : Runner) :
    Prop where
  sound : Resolver.Sound config registry r.resolver
  registry_eq : r.registry = registry
  reportUnused_eq : r.reportUnused = reportUnused
  keys : (Assoc.keys r.trackers).Nodup

theorem Ready.enter (h : Ready config registry reportUnused r) (path content : String) :
    Ready config registry reportUnused (r.enter path content) := by
  unfold Runner.enter
  split
  · exact h
  · exact ⟨h.sound, h.registry_eq, h.reportUnused_eq, Assoc.nodup_keys_put h.keys _ _⟩

theorem Ready.stageUnlessCovered (h : Ready config registry reportUnused r) (rule path : String)
    (i : Issue) : Ready config registry reportUnused (r.stageUnlessCovered rule path i) := by
  unfold Runner.stageUnlessCovered
  split
  · exact ⟨h.sound, h.registry_eq, h.reportUnused_eq, h.keys⟩
  · simp only
    split <;> exact ⟨h.sound, h.registry_eq, h.reportUnused_eq, Assoc.nodup_keys_put h.keys _ _⟩

theorem Ready.stage (h : Ready config registry reportUnused r) {i : Issue} (hi : i.rule = none) :
    Ready config registry reportUnused (r.stage i) := by
  rw [stage_of_no_rule r hi]
  exact ⟨h.sound, h.registry_eq, h.reportUnused_eq, h.keys⟩

theorem Ready.stageReports (rule path : String) : ∀ (reports : List Report) {r : Runner},
    Ready config registry reportUnused r →
      Ready config registry reportUnused (r.stageReports rule path reports)
  | [], _, h => h
  | rep :: reports, _, h =>
    Ready.stageReports rule path reports (h.stageUnlessCovered rule path (.ofReport rule path rep))

/-- Asking the resolver gives an answer that depends on nothing else, and changes no share. -/
theorem Ready.ask {α : Type} {q : Query α} {a : Except Fault α}
    (h : Ready config registry reportUnused r) (hq : Resolver.Answers config registry q a) :
    ∃ r₁, r.ask q = (r₁, a) ∧ Ready config registry reportUnused r₁ ∧
      r₁.staged = r.staged ∧ r₁.trackers = r.trackers := by
  obtain ⟨res, hrun, hres⟩ := hq r.resolver h.sound
  refine ⟨{ r with resolver := res }, ?_, ⟨hres, h.registry_eq, h.reportUnused_eq, h.keys⟩, rfl, rfl⟩
  rw [Runner.ask, hrun]

theorem Ready.noteDeprecated (h : Ready config registry reportUnused r) (i : RuleInfo) :
    Ready config registry reportUnused (r.noteDeprecated i) ∧
      (r.noteDeprecated i).staged = r.staged ∧ (r.noteDeprecated i).trackers = r.trackers := by
  unfold Runner.noteDeprecated
  split
  · exact ⟨⟨h.sound, h.registry_eq, h.reportUnused_eq, h.keys⟩, rfl, rfl⟩
  · exact ⟨h, rfl, rfl⟩

/-! ## 3. Rules -/

/-- The options with which a rule runs at a path; `none` if it is off there. -/
def optionsIfOn (config : Option Config) (registry : Registry) (rule path : String) :
    Except Fault (Option Entries) :=
  match Resolver.severityAt config registry rule path with
  | .error e => .error e
  | .ok .off => .ok none
  | .ok _ => (Resolver.optionsAt config registry rule path).map some

/-- **One rule.**  Whether it runs, and with which options, is settled by the configuration; before it
does, only the directives of its path are read. -/
theorem Ready.runRuleBy_eq (hr : Ready config registry reportUnused r) (k : Conduct σ) (rule : Rule)
    (path content : String) :
    ∃ r₁, Ready config registry reportUnused r₁ ∧
      r₁.staged = (r.enter path content).staged ∧ r₁.trackers = (r.enter path content).trackers ∧
      ∀ h s m, r.runRuleBy k h rule path content s m =
        match optionsIfOn config registry rule.info.id path with
        | .error e => ((r₁, .error e), m)
        | .ok none => ((r₁, .ok s), m)
        | .ok (some options) =>
          (r₁.afterRule rule.info.id path (k rule ⟨rule.info.id, path, content, options, h⟩ s m).1,
            (k rule ⟨rule.info.id, path, content, options, h⟩ s m).2) := by
  obtain ⟨r₁, hask₁, hr₁, hst₁, htr₁⟩ :=
    (hr.enter path content).ask (Resolver.answers_severity rule.info.id path)
  obtain ⟨hr₂, hst₂, htr₂⟩ := hr₁.noteDeprecated rule.info
  obtain ⟨r₃, hask₃, hr₃, hst₃, htr₃⟩ := hr₂.ask (Resolver.answers_options rule.info.id path)
  unfold optionsIfOn
  cases hsev : Resolver.severityAt config registry rule.info.id path with
  | error e =>
    rw [hsev] at hask₁
    exact ⟨r₁, hr₁, hst₁, htr₁, fun h s m => by simp only [Runner.runRuleBy, hask₁]⟩
  | ok severity =>
    rw [hsev] at hask₁
    cases severity with
    | off => exact ⟨r₁, hr₁, hst₁, htr₁, fun h s m => by simp only [Runner.runRuleBy, hask₁]⟩
    | warn | error =>
      refine ⟨r₃, hr₃, hst₃.trans (hst₂.trans hst₁), htr₃.trans (htr₂.trans htr₁), fun h s m => ?_⟩
      cases hopt : Resolver.optionsAt config registry rule.info.id path with
      | error e =>
        rw [hopt] at hask₃
        simp only [Runner.runRuleBy, hask₁, hask₃, Except.map]
      | ok options =>
        rw [hopt] at hask₃
        simp only [Runner.runRuleBy, hask₁, hask₃, Except.map, afterRule]
        split <;> simp only [*]

/-- A rule that changes nothing leaves nothing else than it does in a plain run. -/
theorem runRuleBy_plain (r : Runner) (h : Host) (rule : Rule) (path content : String) (s : Shared content) :
    r.runRuleBy .plain h rule path content s () = (r.runRule h rule path content s, ()) := by
  simp only [Runner.runRuleBy, Runner.runRule, Conduct.plain]
  generalize (r.enter path content).ask (Resolver.severity rule.info.id path) = x
  rcases x with ⟨r₁, e | severity⟩
  · rfl
  · cases severity with
    | off => rfl
    | warn | error =>
      dsimp only
      generalize (r₁.noteDeprecated rule.info).ask (Resolver.options rule.info.id path) = y
      rcases y with ⟨r₂, e | options⟩
      · rfl
      · dsimp only
        generalize rule.runOn ⟨rule.info.id, path, content, options, h⟩ s = z
        rcases z with ⟨e | _, t⟩ <;> rfl

theorem Ready.runRule_eq (hr : Ready config registry reportUnused r) (rule : Rule) (path content : String) :
    ∃ r₁, Ready config registry reportUnused r₁ ∧
      r₁.staged = (r.enter path content).staged ∧ r₁.trackers = (r.enter path content).trackers ∧
      ∀ h s, r.runRule h rule path content s =
        match optionsIfOn config registry rule.info.id path with
        | .error e => (r₁, .error e)
        | .ok none => (r₁, .ok s)
        | .ok (some options) => r₁.afterRule rule.info.id path
            (rule.runOn ⟨rule.info.id, path, content, options, h⟩ s) := by
  obtain ⟨r₁, hr₁, hst, htr, hrun⟩ := hr.runRuleBy_eq .plain rule path content
  refine ⟨r₁, hr₁, hst, htr, fun h s => ?_⟩
  have hone := hrun h s ()
  rw [runRuleBy_plain] at hone
  split at hone <;> exact congrArg Prod.fst hone

/-! ## 4. Work on another path -/

/-- Work that a path has no part in. -/
structure Aside (config : Option Config) (registry : Registry) (reportUnused : Bool) (path : String)
    (r r' : Runner) : Prop where
  ready : Ready config registry reportUnused r'
  share_eq : r'.share path = r.share path

theorem Aside.trans {r r' r'' : Runner} (h : Aside config registry reportUnused path r r')
    (h' : Aside config registry reportUnused path r' r'') : Aside config registry reportUnused path r r'' :=
  ⟨h'.ready, h'.share_eq.trans h.share_eq⟩

section Conduct

variable {k : Conduct σ} {among : σ → Prop} {m m' : σ}

theorem aside_runRuleBy (hr : Ready config registry reportUnused r) (hne : other ≠ path) (h : Host)
    {rule : Rule} {rules : List Rule} (hrule : rule ∈ rules) (hkeeps : k.Keeps among rules) (content : String)
    (s : Shared content) (hm : among m) :
    Aside config registry reportUnused path r (r.runRuleBy k h rule other content s m).1.1 ∧
      among (r.runRuleBy k h rule other content s m).2 := by
  obtain ⟨r₁, hr₁, hst, htr, hrun⟩ := hr.runRuleBy_eq k rule other content
  have hbefore : Aside config registry reportUnused path r r₁ :=
    ⟨hr₁, (share_congr hst htr path).trans (share_enter_of_ne hne content)⟩
  rw [hrun]
  cases optionsIfOn config registry rule.info.id other with
  | error e => exact ⟨hbefore, hm⟩
  | ok options =>
    cases options with
    | none => exact ⟨hbefore, hm⟩
    | some options =>
      refine ⟨hbefore.trans ⟨hr₁.stageReports _ _ _, share_stageReports_of_ne _ hne _ r₁⟩, ?_⟩
      exact hkeeps rule hrule ⟨rule.info.id, other, content, options, h⟩ s m hm

theorem aside_runRulesBy (hne : other ≠ path) (h : Host) (content : String) :
    ∀ (rules : List Rule) {r : Runner} (_ : Ready config registry reportUnused r) (_ : k.Keeps among rules)
      (s : Shared content) {m : σ} (_ : among m),
      Aside config registry reportUnused path r (r.runRulesBy k h other content rules s m).1.1 ∧
        among (r.runRulesBy k h other content rules s m).2
  | [], _, hr, _, _, _, hm => ⟨⟨hr, rfl⟩, hm⟩
  | rule :: rules, r, hr, hkeeps, s, m, hm => by
    have hone := aside_runRuleBy hr hne h List.mem_cons_self hkeeps content s hm
    rw [runRulesBy]
    generalize r.runRuleBy k h rule other content s m = x at hone
    obtain ⟨⟨r₁, end_⟩, m₁⟩ := x
    cases end_ with
    | error e => exact hone
    | ok s₁ =>
      have hrest := aside_runRulesBy hne h content rules hone.1.ready
        (fun q hq => hkeeps q (List.mem_cons_of_mem _ hq)) s₁ hone.2
      exact ⟨hone.1.trans hrest.1, hrest.2⟩

theorem aside_runCategoryBy (hr : Ready config registry reportUnused r) (hne : other ≠ path) (h : Host)
    {category : Category} (hkeeps : k.Keeps among (registry.ofCategory category)) (content : String)
    (hm : among m) :
    Aside config registry reportUnused path r (r.runCategoryBy k h category other content m).1.1 ∧
      among (r.runCategoryBy k h category other content m).2 := by
  have hrest := aside_runRulesBy hne h content (registry.ofCategory category) (hr.enter other content) hkeeps
    .fresh hm
  rw [runCategoryBy, hr.registry_eq]
  exact ⟨Aside.trans ⟨hr.enter other content, share_enter_of_ne hne content⟩ hrest.1, hrest.2⟩

/-! ## 5. Work on the path -/

/-- Two runners with the same share in a path, after work that ended the same. -/
structure Alike {α : Type} (config : Option Config) (registry : Registry) (reportUnused : Bool)
    (path : String) (x x' : Runner × α) : Prop where
  left : Ready config registry reportUnused x.1
  right : Ready config registry reportUnused x'.1
  share_eq : x'.1.share path = x.1.share path
  end_eq : x'.2 = x.2

variable {h h' : Host} {content : String}

end Conduct

/-! ## 6. Classifying by file -/

/-- **Classifying goes file by file**: the findings about a file are those of the issues about it. -/
theorem classified_filter (path : String) : ∀ {staged : List Issue} {errors warnings : List Finding},
    classified config registry staged = .ok (errors, warnings) →
      classified config registry (staged.filter (Issue.isAbout path)) =
        .ok (errors.filter (Finding.isAbout path), warnings.filter (Finding.isAbout path))
  | [], errors, warnings, h => by
    cases h
    rfl
  | i :: staged, errors, warnings, h => by
    obtain ⟨severity, ⟨errors', warnings'⟩, hsev, hrest, h⟩ := classified_cons_eq_ok_iff.mp h
    have ih := classified_filter path hrest
    have habout := Issue.isAbout_finding path i
    cases hi : i.isAbout path with
    | false =>
      rw [List.filter_cons_of_neg (by simp [hi]), ih]
      cases severity <;> cases h <;> simp [habout, hi]
    | true =>
      rw [List.filter_cons_of_pos hi]
      refine classified_cons_eq_ok_iff.mpr ⟨severity, _, hsev, ih, ?_⟩
      cases severity <;> cases h <;> simp [filed, habout, hi]

theorem filter_diagnostics_isAbout (path : String) (ds : List Diagnostic) :
    (ds.map diagnosticFinding).filter (Finding.isAbout path) = [] := by
  rw [List.filter_eq_nil_iff]
  intro f hf
  obtain ⟨d, -, rfl⟩ := List.mem_map.mp hf
  exact Bool.false_ne_true

theorem isAbout_unusedWarning (path other : String) (s : Suppressed) :
    (unusedWarning other s).isAbout path = decide (other = path) := by
  show decide (some other = some path) = _
  simp only [Option.some.injEq]

/-- The warnings about the directives of a file. -/
theorem filter_unusedWarnings_isAbout (path : String) : ∀ {trackers : Assoc String Tracker},
    (Assoc.keys trackers).Nodup →
      (trackers.flatMap fun (p, t) => t.unused.map (unusedWarning p)).filter (Finding.isAbout path) =
        ((Assoc.get? path trackers).map fun t => t.unused.map (unusedWarning path)).getD []
  | [], _ => rfl
  | (p, t) :: trackers, h => by
    rw [Assoc.keys_cons, List.nodup_cons] at h
    rw [List.flatMap_cons, List.filter_append, filter_unusedWarnings_isAbout path h.2, Assoc.get?_cons]
    by_cases hpath : p = path
    · subst hpath
      rw [if_pos rfl, (Assoc.get?_eq_none_iff trackers p).mpr h.1, List.filter_eq_self.mpr]
      · simp
      · intro f hf
        obtain ⟨s, -, rfl⟩ := List.mem_map.mp hf
        rw [isAbout_unusedWarning, decide_eq_true rfl]
    · rw [if_neg hpath, List.filter_eq_nil_iff.mpr, List.nil_append]
      intro f hf
      obtain ⟨s, -, rfl⟩ := List.mem_map.mp hf
      rw [isAbout_unusedWarning, decide_eq_false hpath]
      exact Bool.false_ne_true

/-- **The findings about a file depend on the share in it alone.** -/
theorem findings_of_share (path : String) (hr : Ready config registry reportUnused r) {o : Outcome}
    (ho : r.outcome.2 = .ok o) :
    ∃ errors warnings, classified config registry (r.share path).2 = .ok (errors, warnings) ∧
      o.errors.filter (Finding.isAbout path) = errors ∧
      o.warnings.filter (Finding.isAbout path) = warnings ++
        if reportUnused then
          ((r.share path).1.map fun t => t.unused.map (unusedWarning path)).getD []
        else [] := by
  obtain ⟨r₁, hask, hr₁, -, htr⟩ := hr.ask (answers_classified r.staged)
  cases hclass : classified config registry r.staged with
  | error e =>
    rw [hclass] at hask
    rw [outcome, hr.registry_eq, hask] at ho
    cases ho
  | ok found =>
    obtain ⟨errors, warnings⟩ := found
    rw [hclass, ← hr.registry_eq] at hask
    rw [outcome_eq hask] at ho
    cases ho
    refine ⟨_, _, classified_filter path hclass, ?_, ?_⟩
    · rw [List.filter_append, filter_diagnostics_isAbout, List.append_nil]
    · rw [List.filter_append, List.filter_append, filter_diagnostics_isAbout, List.append_nil,
        hr₁.reportUnused_eq, unusedWarnings, htr]
      cases reportUnused with
      | false => rfl
      | true =>
        rw [if_pos rfl, if_pos rfl, filter_unusedWarnings_isAbout path hr.keys]
        rfl

end Share

end Runner

namespace Family

/-! ## 7. Whole runs -/

section Independence

open Runner (Ready Aside Alike)

variable {config : Option Config} {registry : Registry} {reportUnused : Bool} {f : Family} {σ : Type}
variable {r r' : Runner} {path other : String} {h h' : Host}

theorem aside_stage (hr : Ready config registry reportUnused r) {i : Issue} (hrule : i.rule = none)
    (habout : i.isAbout path = false) : Aside config registry reportUnused path r (r.stage i) :=
  ⟨hr.stage hrule, by rw [Runner.share_stage r path hrule, habout]; simp⟩

/-- A file that is not checked gives an issue about it at most, which depends on its text alone. -/
theorem lintFile_of_unchecked (hnone : f.checked? h path = none) :
    (∃ i : Issue, i.rule = none ∧ i.file = some path ∧
      ∀ h', textAt h' path = textAt h path → ∀ r, f.lintFile h' r path = (r.stage i, .ok ())) ∨
    ∃ e, ∀ h', textAt h' path = textAt h path → ∀ r, f.lintFile h' r path = (r, .error e) := by
  unfold checked? at hnone
  cases htext : textAt h path with
  | error e =>
    cases e with
    | file e =>
      cases hsystem : e.fromSystem with
      | true =>
        refine .inl ⟨⟨"Cannot read file: " ++ e.message, some path, none, none, some .error, none, none, none, none⟩,
          rfl, rfl, fun h' hread r => ?_⟩
        simp only [lintFile, hread, hsystem, if_true]
      | false =>
        refine .inr ⟨.file e, fun h' hread r => ?_⟩
        simp only [lintFile, hread, hsystem, Bool.false_eq_true, if_false]
    | decoding d =>
      refine .inl ⟨⟨"Cannot read file: " ++ d.message, some path, none, none, some .error, none, none, none, none⟩,
        rfl, rfl, fun h' hread r => ?_⟩
      simp only [lintFile, hread]
    | _ => exact .inr ⟨_, fun h' hread r => by rw [lintFile, hread]⟩
  | ok content =>
    rw [htext] at hnone
    have hjson : f.isJson = true ∧ (Json.read content).isOk = false := by
      cases hj : f.isJson <;> cases hr : (Json.read content).isOk <;> simp [hj, hr] at hnone
      exact ⟨rfl, rfl⟩
    cases hread : Json.readInside Json.inUse content with
    | ok v =>
      rw [Json.read, hread] at hjson
      cases hjson.2
    | error e =>
      cases e with
      | malformed m =>
        refine .inl ⟨⟨"Invalid JSON: " ++ m.complaint.text, some path, some m.line, none, some .error, none, none, none,
          none⟩, rfl, rfl, fun h' htext' r => ?_⟩
        simp only [lintFile, htext', if_pos hjson.1, hread, Except.map]
      | tooManyDigits count =>
        refine .inr ⟨.json (.tooManyDigits count), fun h' htext' r => ?_⟩
        simp only [lintFile, htext', if_pos hjson.1, hread, Except.map]
      | tooDeep isMap =>
        refine .inr ⟨.json (.tooDeep isMap), fun h' htext' r => ?_⟩
        simp only [lintFile, htext', if_pos hjson.1, hread, Except.map]

theorem lintFile_of_checked {content : String} (hsome : f.checked? h path = some content) (r : Runner) :
    f.lintFile h r path = r.runCategory h f.category path content := by
  unfold checked? at hsome
  unfold lintFile
  cases htext : textAt h path with
  | error e =>
    rw [htext] at hsome
    cases hsome
  | ok text =>
    rw [htext] at hsome
    dsimp only at hsome ⊢
    cases hjson : f.isJson with
    | false =>
      simp only [hjson, Bool.false_and, Bool.false_eq_true, if_false, Option.some.injEq] at hsome
      rw [hsome, if_neg Bool.false_ne_true]
    | true =>
      rw [if_pos rfl]
      rw [Json.read] at hsome
      cases hread : Json.readInside Json.inUse text with
      | ok v =>
        simp [hjson, hread, Except.isOk, Except.toBool] at hsome
        rw [hsome]
        rfl
      | error e => simp [hjson, hread, Except.isOk, Except.toBool] at hsome

section Conduct

variable {k : Conduct σ} {among : σ → Prop} {m m' : σ}

/-- A file leaves the shares in all others as they are. -/
theorem aside_lintFileBy (hr : Ready config registry reportUnused r) (hne : other ≠ path)
    (hkeeps : k.Keeps among (registry.ofCategory f.category)) (hm : among m) :
    Aside config registry reportUnused path r (f.lintFileBy k h r other m).1.1 ∧
      among (f.lintFileBy k h r other m).2 := by
  unfold lintFileBy
  cases hchecked : f.checked? h other with
  | some content => exact Runner.aside_runCategoryBy hr hne h hkeeps content hm
  | none =>
    refine ⟨?_, hm⟩
    rcases lintFile_of_unchecked hchecked with ⟨i, hrule, hfile, hlint⟩ | ⟨e, hlint⟩
    · show Aside _ _ _ _ r (f.lintFile h r other).1
      rw [hlint h rfl]
      refine aside_stage hr hrule (decide_eq_false ?_)
      rw [hfile]
      exact fun he => hne (Option.some.inj he)
    · show Aside _ _ _ _ r (f.lintFile h r other).1
      rw [hlint h rfl]
      exact ⟨hr, rfl⟩

end Conduct

theorem ready_fresh (config : Option Config) (registry : Registry) :
    Ready config registry ((config.map Config.reportUnused).getD true) (freshRunner registry config) :=
  ⟨Resolver.sound_fresh config registry (some []), rfl, rfl, List.nodup_nil⟩

/-- A rule that appends to a list inside its options and reports what it finds there does depend on what was made of
them: beside another file it reports what it does not report alone. -/
theorem changed_options_show_elsewhere :
    let probe : Rule := {
      info := { id := "probe", name := "Probe", description := "Probes.", category := .claudeMd }
      check := fun _ => pure () }
    let appending : Conduct (List String) := fun _ c s seen =>
      ((.ok (), ⟨s, seen.map fun path => { message := path }⟩), seen ++ [c.path])
    let registry : Registry := [("probe", probe)]
    let f : Family := ⟨"notes", .claudeMd, ["*.md"], false⟩
    let h : Host := ⟨[(["a.md"], .file [] 1), (["b.md"], .file [] 1)], [], "/", [], 0⟩
    let errors (files : List String) := (f.lintBy appending h registry none files []).toOption.map fun o =>
      (o.errors.filter (Finding.isAbout "b.md")).map Finding.message
    errors ["b.md"] = some [] ∧ errors ["a.md", "b.md"] = some ["a.md"] := by
  decide +kernel

end Independence

/-! ## 8. Rules that change nothing -/

section Plain

variable {config : Option Config} {registry : Registry} {reportUnused : Bool}

theorem runRulesBy_plain (h : Host) (path content : String) : ∀ (rules : List Rule) (r : Runner) (s : Shared content),
    r.runRulesBy .plain h path content rules s () = (r.runRules h path content rules s, ())
  | [], _, _ => rfl
  | rule :: rules, r, s => by
    rw [Runner.runRulesBy, Runner.runRules, Runner.runRuleBy_plain]
    rcases r.runRule h rule path content s with ⟨r₁, e | s₁⟩
    · rfl
    · exact runRulesBy_plain h path content rules r₁ s₁

theorem lintFileBy_plain (f : Family) (h : Host) (r : Runner) (path : String) :
    f.lintFileBy .plain h r path () = (f.lintFile h r path, ()) := by
  unfold lintFileBy
  cases hchecked : f.checked? h path with
  | none => rfl
  | some content =>
    rw [lintFile_of_checked hchecked]
    exact runRulesBy_plain h path content _ _ _

/-- **A run whose rules change nothing** is one that knows of no objects handed to all. -/
theorem lintBy_plain (f : Family) (h : Host) (registry : Registry) (config : Option Config) (files : List String) :
    f.lintBy .plain h registry config files () = f.lint h registry config files := by
  have hfiles : ∀ (files : List String) (r : Runner),
      f.lintFilesBy .plain h r files () = (f.lintFiles h r files).map fun r => (r, ()) := by
    intro files
    induction files with
    | nil => exact fun _ => rfl
    | cons path files ih =>
      intro r
      rw [lintFilesBy, lintFiles, lintFileBy_plain]
      rcases f.lintFile h r path with ⟨r₁, e | _⟩
      · rfl
      · exact ih r₁
  rw [lintBy, lint, hfiles]
  cases f.lintFiles h (freshRunner registry config) files <;> rfl

/-- A file leaves the shares in all others as they are. -/
theorem aside_lintFile {f : Family} {h : Host} {r : Runner} {path other : String}
    (hr : Runner.Ready config registry reportUnused r) (hne : other ≠ path) :
    Runner.Aside config registry reportUnused path r (f.lintFile h r other).1 := by
  have hkeeps : Conduct.plain.Keeps (fun _ => True) (registry.ofCategory f.category) := fun _ _ _ _ _ _ => trivial
  have haside : Runner.Aside config registry reportUnused path r (f.lintFileBy .plain h r other ()).1.1 :=
    (aside_lintFileBy hr hne hkeeps trivial).1
  rwa [lintFileBy_plain] at haside

end Plain

end Family

end AgentLint
