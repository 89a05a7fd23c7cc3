import AgentLint.Family.Lint
import AgentLint.Proofs.Sequencing

/-!
# What a run over some files depends on

Checking a family reads its files and runs rules on their texts.  The rest of the host matters only as far as
a rule looks at it.  `Rule.AgreesAt` says that a rule does not tell two hosts apart at a text, and `lint_congr`
that a run does not either if none of its rules does and the files read the same.

Rules that never look at the host are `ContentDetermined`; for these the texts of the files are all there is.
-/

namespace AgentLint

/-! ## 1. Rules -/

/-- Two traces that differ at most in what is kept of the views. -/
structure Trace.Like {content : String} (t t' : Trace content) : Prop where
  reports : t'.reports = t.reports
  fields : t'.fields? = t.fields?

namespace Trace.Like

variable {content : String} {t t' t'' : Trace content}

theorem symm (h : t.Like t') : t'.Like t := ⟨h.reports.symm, h.fields.symm⟩

theorem trans (h : t.Like t') (h' : t'.Like t'') : t.Like t'' :=
  ⟨h'.reports.trans h.reports, h'.fields.trans h.fields⟩

/-- The fields are seen as they are left. -/
theorem seen_eq (h : t.Like t') : t'.seen = t.seen := by
  unfold Shared.seen
  rw [h.fields]

end Trace.Like

/-- A rule reports the same and ends the same on two hosts, at a path with a text, and makes the same of the
fields of the header; which views earlier rules have read does not matter. -/
def Rule.AgreesAt (rule : Rule) (path content : String) (h h' : Host) : Prop :=
  ∀ (options : Entries) (s s' : Shared content), s'.fields? = s.fields? →
    (rule.runOn ⟨rule.info.id, path, content, options, h'⟩ s').1 =
        (rule.runOn ⟨rule.info.id, path, content, options, h⟩ s).1 ∧
      (rule.runOn ⟨rule.info.id, path, content, options, h⟩ s).2.Like
        (rule.runOn ⟨rule.info.id, path, content, options, h'⟩ s').2

/-- The rules of a category see nothing but the path, the text and the options. -/
def ContentDetermined (registry : Registry) (category : Category) : Prop :=
  ∀ rule ∈ registry.ofCategory category, ∀ path content h h', rule.AgreesAt path content h h'

namespace Runner

variable {h h' : Host} {path content : String}

/-! ### The registry stays -/

theorem registry_enter (r : Runner) (path content : String) :
    (r.enter path content).registry = r.registry := by
  unfold enter
  split <;> rfl

theorem registry_stageUnlessCovered (r : Runner) (rule path : String) (i : Issue) :
    (r.stageUnlessCovered rule path i).registry = r.registry := by
  unfold stageUnlessCovered
  split
  · rfl
  · simp only
    split <;> rfl

theorem registry_stage (r : Runner) (i : Issue) : (r.stage i).registry = r.registry := by
  unfold stage
  split
  · exact registry_stageUnlessCovered r _ _ i
  · rfl

theorem registry_stageReports (rule path : String) : ∀ (reports : List Report) (r : Runner),
    (r.stageReports rule path reports).registry = r.registry
  | [], _ => rfl
  | _ :: reports, r =>
    (registry_stageReports rule path reports _).trans (registry_stageUnlessCovered r rule path _)

theorem registry_noteDeprecated (r : Runner) (i : RuleInfo) :
    (r.noteDeprecated i).registry = r.registry := by
  unfold noteDeprecated
  split <;> rfl

theorem registry_of_ask {α : Type} {q : Query α} {r r₁ : Runner} {a : Except Fault α}
    (hask : r.ask q = (r₁, a)) : r₁.registry = r.registry := by
  cases hask
  rfl

/-! ### One rule, and all of them -/

/-- How a rule that runs leaves a runner. -/
def afterRule (r : Runner) (rule path : String) (x : Except Fault Unit × Trace content) :
    Runner × Except Fault (Shared content) :=
  (r.stageReports rule path x.2.reports, match x.1 with
    | .ok () => .ok x.2.toShared
    | .error e => .error (.crash rule path e))

/-- **What running a rule can do**: fail over the settings, pass the rule over, or run it.  Which of these
it is depends neither on the host nor on what the rules share. -/
theorem runRule_cases (r : Runner) (rule : Rule) (path content : String) :
    ∃ r₁ : Runner, r₁.registry = r.registry ∧
      ((∃ e, ∀ h s, r.runRule h rule path content s = (r₁, .error e)) ∨
        (∀ h s, r.runRule h rule path content s = (r₁, .ok s)) ∨
        ∃ options, ∀ h s, r.runRule h rule path content s = r₁.afterRule rule.info.id path
          (rule.runOn ⟨rule.info.id, path, content, options, h⟩ s)) := by
  cases hsev : (r.enter path content).ask (Resolver.severity rule.info.id path) with
  | mk r₁ severity =>
    have hreg₁ : r₁.registry = r.registry := (registry_of_ask hsev).trans (registry_enter r path content)
    cases severity with
    | error e => exact ⟨r₁, hreg₁, .inl ⟨e, fun h v => by simp only [runRule, hsev]⟩⟩
    | ok severity =>
      cases severity with
      | off => exact ⟨r₁, hreg₁, .inr (.inl fun h v => by simp only [runRule, hsev])⟩
      | warn | error =>
        cases hopt : (r₁.noteDeprecated rule.info).ask (Resolver.options rule.info.id path) with
        | mk r₂ options =>
          have hreg₂ : r₂.registry = r.registry :=
            ((registry_of_ask hopt).trans (registry_noteDeprecated r₁ rule.info)).trans hreg₁
          cases options with
          | error e => exact ⟨r₂, hreg₂, .inl ⟨e, fun h v => by simp only [runRule, hsev, hopt]⟩⟩
          | ok options =>
            refine ⟨r₂, hreg₂, .inr (.inr ⟨options, fun h v => ?_⟩)⟩
            simp only [runRule, hsev, hopt, afterRule]
            split <;> simp only [*]

theorem registry_runRule (r : Runner) (h : Host) (rule : Rule) (path content : String)
    (s : Shared content) : (r.runRule h rule path content s).1.registry = r.registry := by
  obtain ⟨r₁, hreg, ⟨e, hrun⟩ | hrun | ⟨options, hrun⟩⟩ := runRule_cases r rule path content
  · rw [hrun, hreg]
  · rw [hrun, hreg]
  · rw [hrun, ← hreg]
    exact registry_stageReports _ _ _ r₁

theorem registry_runRules (h : Host) (path content : String) : ∀ (rules : List Rule) (r : Runner)
    (s : Shared content), (r.runRules h path content rules s).1.registry = r.registry
  | [], _, _ => rfl
  | rule :: rules, r, s => by
    have hone := registry_runRule r h rule path content s
    rw [runRules]
    cases hrun : r.runRule h rule path content s with
    | mk r₁ end_ =>
      rw [hrun] at hone
      cases end_ with
      | error e => exact hone
      | ok s₁ => exact (registry_runRules h path content rules r₁ s₁).trans hone

theorem registry_runCategory (r : Runner) (h : Host) (category : Category) (path content : String) :
    (r.runCategory h category path content).1.registry = r.registry :=
  (registry_runRules h path content _ _ _).trans (registry_enter r path content)

theorem runRules_congr : ∀ (rules : List Rule) (r : Runner),
    (∀ rule ∈ rules, rule.AgreesAt path content h h') → ∀ s s' : Shared content, s'.fields? = s.fields? →
      r.runRules h' path content rules s' = r.runRules h path content rules s
  | [], _, _, _, _, _ => rfl
  | rule :: rules, r, ha, s, s', hs => by
    have hrest := fun r₁ => runRules_congr rules r₁ fun rule hrule => ha rule (List.mem_cons_of_mem _ hrule)
    rw [runRules, runRules]
    obtain ⟨r₁, -, ⟨e, hrun⟩ | hrun | ⟨options, hrun⟩⟩ := runRule_cases r rule path content
    · rw [hrun, hrun]
    · rw [hrun, hrun]
      exact hrest r₁ s s' hs
    · obtain ⟨hend, hlike⟩ := ha rule List.mem_cons_self options s s' hs
      rw [hrun, hrun, afterRule, afterRule, hend, hlike.reports]
      cases (rule.runOn ⟨rule.info.id, path, content, options, h⟩ s).1 with
      | error e => rfl
      | ok _ => exact hrest _ _ _ hlike.fields

theorem runCategory_congr (r : Runner) {category : Category}
    (ha : ∀ rule ∈ r.registry.ofCategory category, rule.AgreesAt path content h h') :
    r.runCategory h' category path content = r.runCategory h category path content :=
  runRules_congr _ _ ha _ _ rfl

end Runner

/-! ## 2. Files -/

namespace Family

variable {f : Family} {h h' : Host} {registry : Registry}

/-- Two hosts are the same to the rules of a family at a file. -/
def AgreeAt (f : Family) (registry : Registry) (h h' : Host) (path : String) : Prop :=
  textAt h' path = textAt h path ∧ ∀ content, textAt h path = .ok content →
    ∀ rule ∈ registry.ofCategory f.category, rule.AgreesAt path content h h'

theorem lintFile_congr {r : Runner} (hr : r.registry = registry) {path : String}
    (ha : f.AgreeAt registry h h' path) : f.lintFile h' r path = f.lintFile h r path := by
  unfold lintFile
  rw [ha.1]
  cases hread : textAt h path with
  | error e => cases e <;> rfl
  | ok content =>
    have hrun := Runner.runCategory_congr r fun rule hrule => ha.2 content hread rule (hr ▸ hrule)
    simp only [hrun]

theorem registry_lintFile (f : Family) (h : Host) (r : Runner) (path : String) :
    (f.lintFile h r path).1.registry = r.registry := by
  unfold lintFile
  split
  · split
    · exact Runner.registry_stage r _
    · rfl
  · exact Runner.registry_stage r _
  · rfl
  · split
    · exact Runner.registry_runCategory r h f.category path _
    · exact Runner.registry_stage r _
    · rfl

theorem lintFiles_congr : ∀ (files : List String) {r : Runner}, r.registry = registry →
    (∀ path ∈ files, f.AgreeAt registry h h' path) →
      f.lintFiles h' r files = f.lintFiles h r files
  | [], _, _, _ => rfl
  | path :: files, r, hr, ha => by
    have hkeep := registry_lintFile f h r path
    rw [lintFiles, lintFiles, lintFile_congr hr (ha path List.mem_cons_self)]
    cases hrun : f.lintFile h r path with
    | mk r₁ end_ =>
      rw [hrun] at hkeep
      cases end_ with
      | error e => rfl
      | ok _ =>
        exact lintFiles_congr files (hkeep.trans hr) fun p hp => ha p (List.mem_cons_of_mem path hp)

/-- **What a run finds** is the outcome of its last runner, with the files that it was asked for. -/
theorem lint_eq_ok_iff {config : Option Config} {files : List String} {around : Nat} {o : Outcome} :
    f.lint h registry config files around = .ok o ↔
      ∃ r o₁, f.lintFiles h (freshRunner registry config) files around = .ok r ∧ r.outcome.2 = .ok o₁ ∧
        { o₁ with files } = o := by
  rw [lint, bind_eq_ok_iff]
  refine exists_congr fun r => ?_
  rw [bind_eq_ok_iff, ← exists_and_left]
  refine exists_congr fun o₁ => and_congr_right fun _ => and_congr_right fun _ => ?_
  exact ⟨Except.ok.inj, congrArg Except.ok⟩

/-- **A run depends on the host only through its files and its rules.** -/
theorem lint_congr {config : Option Config} {files : List String}
    (ha : ∀ path ∈ files, f.AgreeAt registry h h' path) :
    f.lint h' registry config files = f.lint h registry config files := by
  unfold lint
  rw [lintFiles_congr files rfl ha]

end Family

end AgentLint
