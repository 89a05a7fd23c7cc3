import AgentLint.Proofs.Family.Failures
import AgentLint.Proofs.Suppression.Openings

/-!
# Accounting for blocks

A line that opens a block has suppressed a report, or there is a warning about it; unless the block was opened
again before its end, in which case there is neither.

The reports of a run (`reportedBy`) are put to the directives of its text, one after the other.  The invariant is
`Asked`: the directives of the path are marked by the reports so far, what is staged are those that no directive
covers, and all of them have a severity, so that sorting them cannot fail.  One report is a step
(`Asked.stageReport`), a rule is a run of such steps, and the rules follow each other (`Asked.runRules`).
-/

namespace AgentLint

/-- The number of the line of a finding. -/
def Finding.lineNumber? (f : Finding) : Option Int :=
  match f.line with
  | .int n => some n
  | _ => none

/-- Whether a finding is about a line of a file and comes from no rule. -/
def Finding.isBareAt (path : String) (n : Nat) (f : Finding) : Bool :=
  f.isAbout path && f.isBare && decide (f.lineNumber? = some (n : Int))

namespace Runner

section Asked

variable {config : Option Config} {registry : Registry} {host : Host} {path content : String}

/-! ## 1. Reports as queries -/

/-- The reports of rules that run one after the other, each with its rule, until the settings cannot be worked
out or a rule fails. -/
def reportedBy (config : Option Config) (registry : Registry) (host : Host) (path content : String) :
    List Rule → Shared content → List (String × Report)
  | [], _ => []
  | rule :: rest, shared =>
    match optionsIfOn config registry rule.info.id path with
    | .error _ => []
    | .ok none => reportedBy config registry host path content rest shared
    | .ok (some options) =>
      let (end_, trace) := rule.runOn ⟨rule.info.id, path, content, options, host⟩ shared
      let reports := trace.reports.map fun rep => (rule.info.id, rep)
      match end_ with
      | .ok () => reports ++ reportedBy config registry host path content rest trace.toShared
      | .error _ => reports

/-- What a report asks the directives. -/
def queryOf (x : String × Report) : String × Option Int := (x.1, x.2.line)

/-! ## 2. Runners that have asked -/

/-- What holds of a runner after some reports about a path: its directives were asked about each of them, those
that no directive covers are staged, and the rules of all of them have a severity. -/
structure Asked (config : Option Config) (registry : Registry) (path : String) (t : Tracker)
    (reports : List (String × Report)) (r : Runner) : Prop extends Ready config registry true r where
  tracker : Assoc.get? path r.trackers = some (t.after (reports.map queryOf))
  staged : r.staged = issuesOf t.covers path reports
  severity : ∀ x ∈ reports, ∃ s, Resolver.severityAt config registry x.1 path = .ok s

variable {t : Tracker} {reports : List (String × Report)} {r : Runner}

theorem issuesOf_singleton (covers : String → Option Int → Bool) (path : String) (x : String × Report) :
    issuesOf covers path [x] = if covers x.1 x.2.line then [] else [.ofReport x.1 path x.2] := by
  unfold issuesOf
  cases h : covers x.1 x.2.line <;> simp [h]

/-- **One report** is one query. -/
theorem Asked.stageReport (h : Asked config registry path t reports r) {rule : String} {s : Severity}
    (hsev : Resolver.severityAt config registry rule path = .ok s) (rep : Report) :
    Asked config registry path t (reports ++ [(rule, rep)])
      (r.stageUnlessCovered rule path (.ofReport rule path rep)) := by
  have hready := h.toReady.stageUnlessCovered rule path (.ofReport rule path rep)
  rw [stageUnlessCovered_eq h.tracker, Tracker.covers_after] at hready ⊢
  refine ⟨hready, ?_, ?_, fun x hx => ?_⟩
  · rw [List.map_append, Tracker.after_append]
    exact (Assoc.get?_put ..).trans (if_pos rfl)
  · rw [issuesOf_append, issuesOf_singleton, ← h.staged]
    rfl
  · rcases List.mem_append.mp hx with hx | hx
    · exact h.severity x hx
    · rw [List.mem_singleton.mp hx]
      exact ⟨s, hsev⟩

theorem Asked.stageReports {rule : String} {s : Severity} (hsev : Resolver.severityAt config registry rule path = .ok s) :
    ∀ (reps : List Report) {reports : List (String × Report)} {r : Runner},
      Asked config registry path t reports r →
      Asked config registry path t (reports ++ reps.map fun rep => (rule, rep)) (r.stageReports rule path reps)
  | [], reports, _, h => by rwa [List.map_nil, List.append_nil]
  | rep :: reps, reports, _, h => by
    have hrest := Asked.stageReports hsev reps (h.stageReport hsev rep)
    rwa [List.append_assoc] at hrest

/-- A rule that is on has a severity. -/
theorem exists_severityAt_of_on {rule : String} {options : Entries}
    (hon : optionsIfOn config registry rule path = .ok (some options)) :
    ∃ s, Resolver.severityAt config registry rule path = .ok s := by
  unfold optionsIfOn at hon
  cases hsev : Resolver.severityAt config registry rule path with
  | error e =>
    rw [hsev] at hon
    cases hon
  | ok s => exact ⟨s, rfl⟩

/-- **Rules in turn** ask what they report, by induction over them. -/
theorem Asked.runRules : ∀ (rules : List Rule) {reports : List (String × Report)} {r : Runner}
    (_ : Asked config registry path t reports r) (shared : Shared content),
      Asked config registry path t (reports ++ reportedBy config registry host path content rules shared)
        (r.runRules host path content rules shared).1
  | [], reports, r, h, shared => by rwa [reportedBy, List.append_nil]
  | rule :: rest, reports, r, h, shared => by
    obtain ⟨r₁, hready, hst, htr, hrun⟩ := h.toReady.runRule_eq rule path content
    rw [enter_of_known h.tracker] at hst htr
    have h₁ : Asked config registry path t reports r₁ :=
      ⟨hready, htr ▸ h.tracker, hst ▸ h.staged, h.severity⟩
    rw [Runner.runRules, reportedBy, hrun]
    cases hon : optionsIfOn config registry rule.info.id path with
    | error e => rwa [List.append_nil]
    | ok options =>
      cases options with
      | none => exact Asked.runRules rest h₁ shared
      | some options =>
        obtain ⟨s, hsev⟩ := exists_severityAt_of_on hon
        simp only [afterRule]
        cases rule.runOn ⟨rule.info.id, path, content, options, host⟩ shared with
        | mk end_ trace =>
          have h₂ := Asked.stageReports hsev trace.reports h₁
          cases end_ with
          | error e => exact h₂
          | ok _ =>
            have hrest := Asked.runRules rest h₂ trace.toShared
            rwa [List.append_assoc] at hrest

/-! ## 3. Warnings without a rule -/

/-- What comes from a rule does not lose it when it is sorted. -/
theorem isBare_of_classified : ∀ {staged : List Issue} {errors warnings : List Finding},
    (∀ i ∈ staged, i.isBare = false) → classified config registry staged = .ok (errors, warnings) →
      ∀ f ∈ warnings, f.isBare = false
  | [], _, _, _, h => by
    cases h
    exact nofun
  | i :: staged, errors, warnings, hbare, h => by
    obtain ⟨s, ⟨errors', warnings'⟩, -, hrest, h⟩ := classified_cons_eq_ok_iff.mp h
    have ih := isBare_of_classified (fun j hj => hbare j (List.mem_cons_of_mem i hj)) hrest
    cases s with
    | off | error =>
      cases h
      exact ih
    | warn =>
      cases h
      intro f hf
      rcases List.mem_cons.mp hf with rfl | hf
      · rw [Issue.isBare_finding, hbare i List.mem_cons_self]
      · exact ih f hf

theorem isBareAt_unusedWarning (path : String) (n : Nat) (s : Suppressed) :
    (unusedWarning path s).isBareAt path n = decide (s.comment = n) := by
  have hline : (unusedWarning path s).lineNumber? = some (s.comment : Int) := rfl
  have hbare : (unusedWarning path s).isBare = true := rfl
  unfold Finding.isBareAt
  rw [isAbout_unusedWarning, decide_eq_true rfl, hbare, hline, Bool.true_and, Bool.true_and]
  exact decide_eq_decide.mpr (by rw [Option.some.injEq, Int.ofNat_inj])

/-- What is about a line of a file is about the file. -/
theorem filter_isAbout_isBareAt (path : String) (n : Nat) (fs : List Finding) :
    (fs.filter (Finding.isAbout path)).filter (Finding.isBareAt path n) = fs.filter (Finding.isBareAt path n) := by
  rw [List.filter_filter]
  refine List.filter_congr fun f _ => ?_
  unfold Finding.isBareAt
  cases f.isAbout path <;> simp

/-- **The outcome** is there, and its warnings about a line that come from no rule are those about unused
directives on it. -/
theorem Asked.outcome (h : Asked config registry path t reports r) :
    ∃ o, r.outcome.2 = .ok o ∧ ∀ n, o.warnings.filter (Finding.isBareAt path n) =
      ((t.after (reports.map queryOf)).unused.filter fun s => decide (s.comment = n)).map (unusedWarning path) := by
  have hissue : ∀ i ∈ r.staged, i.isBare = false ∧ ∃ s, severityOfIssue config registry i = .ok s := by
    intro i hi
    rw [h.staged] at hi
    obtain ⟨x, hx, rfl⟩ := List.mem_map.mp hi
    exact ⟨rfl, h.severity x (List.mem_filter.mp hx).1⟩
  obtain ⟨errors, warnings, hclass, -⟩ := classified_of_severity (fun i hi => (hissue i hi).2) fun i hi => by
    obtain ⟨hi, hbare⟩ := List.mem_filter.mp hi
    cases (hissue i hi).1.symm.trans hbare
  obtain ⟨r₁, hask, -⟩ := h.toReady.ask (answers_classified r.staged)
  rw [hclass, ← h.registry_eq] at hask
  have hout := outcome_eq hask
  refine ⟨_, hout, fun n => ?_⟩
  obtain ⟨errors', warnings', hclass', -, hwarnings⟩ := findings_of_share path h.toReady hout
  have hkept : warnings'.filter (Finding.isBareAt path n) = [] := by
    rw [List.filter_eq_nil_iff]
    intro f hf
    have hbare := isBare_of_classified (fun i hi => (hissue i (List.mem_filter.mp hi).1).1) hclass' f hf
    simp [Finding.isBareAt, hbare]
  have hshare : (r.share path).1 = some (t.after (reports.map queryOf)) := h.tracker
  rw [hshare, if_pos rfl, Option.map_some, Option.getD_some] at hwarnings
  rw [← filter_isAbout_isBareAt, hwarnings, List.filter_append, hkept, List.nil_append, List.filter_map]
  congr 1
  exact List.filter_congr fun s _ => isBareAt_unusedWarning path n s

end Asked

/-! ## 4. Accounts -/

/-- **Every block is accounted for.**  After the rules of a category have run on a text, whether or not one of
them has failed, their reports that no directive covers are staged, and there is an outcome.  A line that opens a
block and is not restarted has suppressed one of the reports, and there is no warning about it, or it has
suppressed none, and there is exactly one.  A line that is restarted has suppressed none, and there is no
warning. -/
theorem accounted_of_runCategory (config : Option Config) (registry : Registry)
    (diagnostics : Option Diagnostics) (host : Host) (category : Category) (path content : String) :
    let start : Runner := { registry, resolver := { config, registry, diagnostics } }
    let run := start.runCategory host category path content
    let lines := Text.splitLines content.toList
    let reports := reportedBy config registry host path content (registry.ofCategory category) .fresh
    run.1.staged = issuesOf (Tracker.parse content).covers path reports ∧
    ∃ o, run.1.outcome.2 = .ok o ∧
      ∀ (n : Nat) (target : String), directiveOn lines n = some ⟨.block, target⟩ →
        let suppresses := ∃ x ∈ reports, (Tracker.parse content).suppressor x.1 x.2.line = some n
        let warned := o.warnings.filter (Finding.isBareAt path n)
        ((¬ ∃ again, Restarts lines target n again) → (suppresses ∧ warned = []) ∨ (¬ suppresses ∧
          warned = [unusedWarning path ⟨target, .block, n, some (n, blockEnd lines target n), false⟩])) ∧
        ((∃ again, Restarts lines target n again) → ¬ suppresses ∧ warned = []) := by
  intro start run lines reports
  have hready : Ready config registry true start :=
    ⟨Resolver.sound_fresh config registry diagnostics, rfl, rfl, List.nodup_nil⟩
  have hentered : Asked config registry path (Tracker.parse content) [] (start.enter path content) :=
    ⟨hready.enter path content, (Assoc.get?_put ..).trans (if_pos rfl), rfl,
      fun x hx => absurd hx List.not_mem_nil⟩
  have hasked : Asked config registry path (Tracker.parse content) reports run.1 :=
    hentered.runRules (registry.ofCategory category) .fresh
  obtain ⟨o, ho, hwarnings⟩ := hasked.outcome
  refine ⟨hasked.staged, o, ho, fun n target hopens => ?_⟩
  intro suppresses warned
  have hsuppresses : (∃ q ∈ reports.map queryOf, (Tracker.parse content).suppressor q.1 q.2 = some n) ↔
      suppresses := by
    simp only [List.mem_map, exists_exists_and_eq_and]
    rfl
  have hwarned := hwarnings n
  obtain ⟨hplain, hrestarted⟩ := Tracker.unused_of_opening content (reports.map queryOf) hopens
  rw [hsuppresses] at hplain hrestarted
  refine ⟨fun hnot => ?_, fun hrestarts => ?_⟩
  · rcases hplain hnot with ⟨hused, hunused⟩ | ⟨hnone, hunused⟩
    · exact .inl ⟨hused, hwarned.trans (congrArg (List.map (unusedWarning path)) hunused)⟩
    · exact .inr ⟨hnone, hwarned.trans (congrArg (List.map (unusedWarning path)) hunused)⟩
  · obtain ⟨hnone, hunused⟩ := hrestarted hrestarts
    exact ⟨hnone, hwarned.trans (congrArg (List.map (unusedWarning path)) hunused)⟩

/-- Three openings: the first one is restarted, and the last one is of a target that nothing reports. -/
def threeOpenings : String :=
  "<!-- lintloom-disable r -->\n<!-- lintloom-disable r -->\nBAD\n<!-- lintloom-disable s -->"

/-- A rule that finds the third line bad. -/
def badThird : Rule where
  info := { id := "r", name := "R", description := "Finds the third line bad.", category := .claudeMd }
  check := fun _ => Check.report { message := "bad line", line := some 3 }

/-- The directives of its lines, and where its blocks end. -/
theorem directives_threeOpenings :
    let lines := Text.splitLines threeOpenings.toList
    (directiveOn lines (1 : Nat) = some ⟨.block, "r"⟩ ∧ directiveOn lines (2 : Nat) = some ⟨.block, "r"⟩ ∧
      directiveOn lines (3 : Nat) = none ∧ directiveOn lines (4 : Nat) = some ⟨.block, "s"⟩) ∧
    blockEnd lines "r" 2 = 4 ∧ blockEnd lines "s" 4 = 4 := by
  rw [threeOpenings, String.toList_ofList]
  decide +kernel

/-- The second opening suppresses the report, and of the other two the restarted one is passed over. -/
theorem accounted_of_threeOpenings :
    let start : Runner := { registry := [("r", badThird)], resolver :=
      { config := none, registry := [("r", badThird)], diagnostics := none } }
    ∃ o, (start.runCategory ⟨[], [], "/", [], 0⟩ .claudeMd "a.md" threeOpenings).1.outcome.2 = .ok o ∧
      o.warnings.filter (Finding.isBareAt "a.md" 1) = [] ∧ o.warnings.filter (Finding.isBareAt "a.md" 2) = [] ∧
      o.warnings.filter (Finding.isBareAt "a.md" 4) = [unusedWarning "a.md" ⟨"s", .block, 4, some (4, 4), false⟩] := by
  intro start
  obtain ⟨-, o, ho, haccounted⟩ := accounted_of_runCategory none [("r", badThird)] none ⟨[], [], "/", [], 0⟩ .claudeMd
    "a.md" threeOpenings
  have hreports : reportedBy none [("r", badThird)] ⟨[], [], "/", [], 0⟩ "a.md" threeOpenings
      (Registry.ofCategory [("r", badThird)] .claudeMd) .fresh =
      [("r", { message := "bad line", line := some 3 })] := rfl
  have hfirst : (Tracker.parse threeOpenings).suppressor "r" (some 3) = some 2 := by
    rw [Tracker.parse, threeOpenings, String.toList_ofList]
    decide +kernel
  have hused : ∀ n, (∃ x ∈ reportedBy none [("r", badThird)] ⟨[], [], "/", [], 0⟩ "a.md" threeOpenings
      (Registry.ofCategory [("r", badThird)] .claudeMd) .fresh,
        (Tracker.parse threeOpenings).suppressor x.1 x.2.line = some n) ↔ n = 2 := by
    intro n
    rw [hreports]
    simp only [List.mem_singleton, exists_eq_left, hfirst, Option.some.injEq, eq_comm]
  obtain ⟨⟨h₁, h₂, h₃, h₄⟩, hend₂, hend₄⟩ := directives_threeOpenings
  have hrestarts : ∃ again, Restarts (Text.splitLines threeOpenings.toList) "r" 1 again :=
    ⟨2, h₁, h₂, by omega, fun i hi hi' => by omega⟩
  have hplain₂ : ¬ ∃ again, Restarts (Text.splitLines threeOpenings.toList) "r" 2 again := by
    refine (isBlock_iff_not_restarts h₂).mp ⟨h₂, rfl, fun i hi hle => ?_⟩
    rw [hend₂] at hle
    obtain rfl | rfl : i = 3 ∨ i = 4 := by omega
    · rw [h₃]
      decide
    · rw [h₄]
      decide
  have hplain₄ : ¬ ∃ again, Restarts (Text.splitLines threeOpenings.toList) "s" 4 again := by
    refine (isBlock_iff_not_restarts h₄).mp ⟨h₄, rfl, fun i hi hle => ?_⟩
    omega
  refine ⟨o, ho, ((haccounted 1 "r" h₁).2 hrestarts).2, ?_, ?_⟩
  · exact (((haccounted 2 "r" h₂).1 hplain₂).resolve_right fun h => h.1 ((hused 2).mpr rfl)).2
  · have hunused := ((haccounted 4 "s" h₄).1 hplain₄).resolve_left fun h => absurd ((hused 4).mp h.1) (by decide)
    rw [hend₄] at hunused
    exact hunused.2

/-- **A restarted opening is not accounted for**: the first one of two. -/
theorem restarted_opening_is_silent :
    ¬ ∀ (config : Option Config) (registry : Registry) (host : Host) (category : Category) (path content : String),
      let start : Runner := { registry, resolver := { config, registry, diagnostics := none } }
      let run := start.runCategory host category path content
      let reports := reportedBy config registry host path content (registry.ofCategory category) .fresh
      run.2 = .ok () → ∀ o, run.1.outcome.2 = .ok o →
        ∀ (n : Nat) (target : String), directiveOn (Text.splitLines content.toList) n = some ⟨.block, target⟩ →
          (∃ x ∈ reports, (Tracker.parse content).suppressor x.1 x.2.line = some n) ∨
            (o.warnings.filter (Finding.isBareAt path n)).length = 1 := by
  intro h
  let content := "<!-- lintloom-disable r -->\n<!-- lintloom-disable r -->"
  let start : Runner := { registry := [], resolver := { config := none, registry := [], diagnostics := none } }
  let run := start.runCategory ⟨[], [], "/", [], 0⟩ .claudeMd "a.md" content
  have hwarned : (run.1.outcome.2.toOption.map fun o => (o.warnings.filter (Finding.isBareAt "a.md" 1)).length) =
      some 0 := by decide +kernel
  obtain ⟨o, ho, hnone⟩ := Option.map_eq_some_iff.mp hwarned
  have hopens : directiveOn (Text.splitLines content.toList) (1 : Nat) = some ⟨.block, "r"⟩ := by decide +kernel
  rcases h none [] ⟨[], [], "/", [], 0⟩ .claudeMd "a.md" content rfl o (eq_ok_of_toOption ho) 1 "r" hopens with
    ⟨x, hx, -⟩ | hone
  · cases hx
  · exact absurd (hnone.symm.trans hone) (by decide)

end Runner

end AgentLint
