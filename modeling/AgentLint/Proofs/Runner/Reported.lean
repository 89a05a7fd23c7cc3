import AgentLint.Proofs.Runner.Accounting
import AgentLint.Proofs.Runner.OffRules

/-!
# What a rule finds in a file

The findings of one rule in one file are its reports that no directive covers, as often as the file is among those
to check (`found_of_lint`).  Neither other files nor other rules have a part in it, and whether they are errors or
warnings does not matter here.

The invariant is `Heard`, about one path of a runner on its way: the directives of the path cover what they do in its
text, and what is staged about it are these issues.  One report is a step, a rule is a run of such steps, and the
rules follow each other (`Heard.runRules`); a file is a run of rules, and `Visited` counts how often the path came.
-/

namespace AgentLint

/-- The findings of a rule in a file, errors first. -/
def Outcome.found (o : Outcome) (rule path : String) : List Finding :=
  (o.errors ++ o.warnings).filter fun f => f.isOf rule && f.isAbout path

namespace Runner

section Reported

variable {config : Option Config} {registry : Registry} {reportUnused : Bool} {host : Host}
variable {rule path content : String} {r : Runner}

/-! ## 1. One rule among the reports of several -/

/-- The reports of a rule that no directive covers, as findings. -/
def findingsFrom (covers : String → Option Int → Bool) (rule path : String) (reports : List (String × Report)) :
    List Finding :=
  (reports.filter fun x => x.1 = rule && !covers x.1 x.2.line).map fun x => findingOf path x.1 x.2

/-- **Sorting** does not lose what a rule that is on has staged about a path. -/
theorem filter_isOf_sorted {s : Severity} (hsev : Resolver.severityAt config registry rule path = .ok s)
    (hon : s ≠ .off) : ∀ {is : List Issue} {errors warnings : List Finding},
    (∀ i ∈ is, i.file = some path) → classified config registry is = .ok (errors, warnings) →
      (errors ++ warnings).filter (Finding.isOf rule) =
        (is.filter fun i => i.rule = some rule).map Issue.finding := by
  -- All of it goes to one side, so the order is kept.
  have hside : ∀ {is : List Issue} {errors warnings : List Finding},
      (∀ i ∈ is, i.file = some path) → classified config registry is = .ok (errors, warnings) →
        let kept := (is.filter fun i => i.rule = some rule).map Issue.finding
        errors.filter (Finding.isOf rule) = (if s = .error then kept else []) ∧
          warnings.filter (Finding.isOf rule) = if s = .warn then kept else [] := by
    intro is
    induction is with
    | nil =>
      intro errors warnings _ h
      cases h
      simp
    | cons i is ih =>
      intro errors warnings hfile h
      obtain ⟨si, ⟨errors', warnings'⟩, hi, hrest, h⟩ := classified_cons_eq_ok_iff.mp h
      obtain ⟨herrors, hwarnings⟩ := ih (fun j hj => hfile j (List.mem_cons_of_mem i hj)) hrest
      have hof := isOf_finding rule i
      by_cases hrule : i.rule = some rule
      · have hsame : si = s := by
          rw [severityOfIssue, hrule, hfile i List.mem_cons_self] at hi
          exact Except.ok.inj (hi.symm.trans hsev)
        subst hsame
        cases si with
        | off => exact absurd rfl hon
        | error | warn =>
          cases h
          simp [hof, hrule, herrors, hwarnings]
      · cases si <;> cases h <;> simp [hof, hrule, herrors, hwarnings]
  intro is errors warnings hfile h
  obtain ⟨herrors, hwarnings⟩ := hside hfile h
  rw [List.filter_append, herrors, hwarnings]
  cases s with
  | off => exact absurd rfl hon
  | error => simp
  | warn => simp

theorem map_finding_issuesOf (covers : String → Option Int → Bool) (rule path : String)
    (reports : List (String × Report)) :
    ((issuesOf covers path reports).filter fun i => i.rule = some rule).map Issue.finding =
      findingsFrom covers rule path reports := by
  unfold issuesOf findingsFrom
  rw [List.filter_map, List.map_map, List.filter_filter]
  refine congrArg₂ _ rfl (List.filter_congr fun x _ => ?_)
  simp [Issue.ofReport]

/-! ## 2. Runners that have heard reports -/

/-- What holds of a runner after some reports about a path: its directives cover what they did, and what is staged
about it are these issues. -/
structure Heard (config : Option Config) (registry : Registry) (reportUnused : Bool) (path : String)
    (covers : String → Option Int → Bool) (issues : List Issue) (r : Runner) : Prop
    extends Ready config registry reportUnused r where
  tracker : ∃ t, Assoc.get? path r.trackers = some t ∧ t.covers = covers
  staged : r.staged.filter (Issue.isAbout path) = issues

variable {covers : String → Option Int → Bool} {issues : List Issue}

/-- **One report** is staged if no directive covers it. -/
theorem Heard.stageReport (h : Heard config registry reportUnused path covers issues r) (rule : String)
    (rep : Report) : Heard config registry reportUnused path covers (issues ++ issuesOf covers path [(rule, rep)])
      (r.stageUnlessCovered rule path (.ofReport rule path rep)) := by
  have hready := h.toReady.stageUnlessCovered rule path (.ofReport rule path rep)
  obtain ⟨t, ht, rfl⟩ := h.tracker
  rw [stageUnlessCovered_eq ht] at hready ⊢
  refine ⟨hready, ⟨_, (Assoc.get?_put ..).trans (if_pos rfl), Tracker.covers_query ..⟩, ?_⟩
  show List.filter _ (r.staged ++ _) = _
  rw [List.filter_append, h.staged, issuesOf_singleton]
  congr 1
  show List.filter _ (if t.covers rule rep.line then [] else [Issue.ofReport rule path rep]) =
    if t.covers rule rep.line then [] else [Issue.ofReport rule path rep]
  cases t.covers rule rep.line <;> simp [isAbout_ofReport]

theorem Heard.stageReports (rule : String) : ∀ (reps : List Report) {issues : List Issue} {r : Runner},
    Heard config registry reportUnused path covers issues r →
      Heard config registry reportUnused path covers
        (issues ++ issuesOf covers path (reps.map fun rep => (rule, rep))) (r.stageReports rule path reps)
  | [], issues, _, h => by rwa [List.map_nil, issuesOf, List.filter_nil, List.map_nil, List.append_nil]
  | rep :: reps, issues, r, h => by
    have hrest := Heard.stageReports rule reps (h.stageReport rule rep)
    rwa [List.append_assoc, ← issuesOf_append] at hrest

/-- **Rules in turn** stage what they report, by induction over them. -/
theorem Heard.runRules : ∀ (rules : List Rule) {issues : List Issue} {r : Runner}
    (_ : Heard config registry reportUnused path covers issues r) (shared : Shared content),
      Heard config registry reportUnused path covers
        (issues ++ issuesOf covers path (reportedBy config registry host path content rules shared))
        (r.runRules host path content rules shared).1
  | [], issues, r, h, shared => by rwa [reportedBy, issuesOf, List.filter_nil, List.map_nil, List.append_nil]
  | q :: rest, issues, r, h, shared => by
    obtain ⟨r₁, hready, hst, htr, hrun⟩ := h.toReady.runRule_eq q path content
    obtain ⟨t, ht, hcovers⟩ := h.tracker
    rw [enter_of_known ht] at hst htr
    have h₁ : Heard config registry reportUnused path covers issues r₁ :=
      ⟨hready, ⟨t, htr ▸ ht, hcovers⟩, hst ▸ h.staged⟩
    rw [Runner.runRules, reportedBy, hrun]
    cases optionsIfOn config registry q.info.id path with
    | error e => rwa [issuesOf, List.filter_nil, List.map_nil, List.append_nil]
    | ok options =>
      cases options with
      | none => exact Heard.runRules rest h₁ shared
      | some options =>
        simp only [afterRule]
        cases q.runOn ⟨q.info.id, path, content, options, host⟩ shared with
        | mk end_ trace =>
          have h₂ := Heard.stageReports q.info.id trace.reports h₁
          cases end_ with
          | error e => exact h₂
          | ok _ =>
            have hrest := Heard.runRules rest h₂ trace.toShared
            rwa [List.append_assoc, ← issuesOf_append] at hrest

/-! ## 3. Runs over files -/

/-- The issues of the rules of a category on a text that no directive covers. -/
def issuesIn (config : Option Config) (registry : Registry) (host : Host) (category : Category)
    (path content : String) : List Issue :=
  issuesOf (Tracker.parse content).covers path
    (reportedBy config registry host path content (registry.ofCategory category) .fresh)

/-- What holds of a runner that has met a path some times, always with the same text: its directives are those of
the text, and each time the same was staged. -/
structure Visited (config : Option Config) (registry : Registry) (reportUnused : Bool) (host : Host)
    (category : Category) (path content : String) (n : Nat) (r : Runner) : Prop
    extends Ready config registry reportUnused r where
  tracker : ∀ t, Assoc.get? path r.trackers = some t → t.covers = (Tracker.parse content).covers
  staged : r.staged.filter (Issue.isAbout path) =
    (List.replicate n (issuesIn config registry host category path content)).flatten

variable {category : Category} {n : Nat}

/-- **One more visit.** -/
theorem Visited.runCategory (h : Visited config registry reportUnused host category path content n r) :
    Visited config registry reportUnused host category path content (n + 1)
      (r.runCategory host category path content).1 := by
  have hentered : Heard config registry reportUnused path (Tracker.parse content).covers
      (List.replicate n (issuesIn config registry host category path content)).flatten (r.enter path content) := by
    have hready := h.toReady.enter path content
    unfold Runner.enter at hready ⊢
    cases ht : Assoc.get? path r.trackers with
    | some t =>
      rw [ht] at hready
      exact ⟨hready, ⟨t, ht, h.tracker t ht⟩, h.staged⟩
    | none =>
      rw [ht] at hready
      exact ⟨hready, ⟨_, (Assoc.get?_put ..).trans (if_pos rfl), rfl⟩, h.staged⟩
  have hrun : Heard config registry reportUnused path (Tracker.parse content).covers _
      ((r.enter path content).runRules host path content (registry.ofCategory category) .fresh).1 :=
    hentered.runRules (registry.ofCategory category) .fresh
  rw [Runner.runCategory, h.registry_eq]
  refine ⟨hrun.toReady, fun t ht => ?_, ?_⟩
  · obtain ⟨t', ht', hcovers⟩ := hrun.tracker
    cases ht.symm.trans ht'
    exact hcovers
  · rw [hrun.staged, List.replicate_succ', List.flatten_append, List.flatten_singleton]
    rfl

/-- **The findings of a rule that is on**, in the outcome of a runner that has met the path some times. -/
theorem Visited.found (h : Visited config registry reportUnused host category path content n r) {options : Entries}
    (hon : optionsIfOn config registry rule path = .ok (some options)) {o : Outcome} (ho : r.outcome.2 = .ok o) :
    o.found rule path = (List.replicate n (findingsFrom (Tracker.parse content).covers rule path
      (reportedBy config registry host path content (registry.ofCategory category) .fresh))).flatten := by
  obtain ⟨s, hsev⟩ := exists_severityAt_of_on hon
  have hs : s ≠ .off := by
    rintro rfl
    rw [optionsIfOn, hsev] at hon
    cases hon
  obtain ⟨errors, warnings, hclass, herrors, hwarnings⟩ := findings_of_share path h.toReady ho
  have hshare : (r.share path).2 =
      (List.replicate n (issuesIn config registry host category path content)).flatten := h.staged
  rw [hshare] at hclass
  have hfile : ∀ i ∈ (List.replicate n (issuesIn config registry host category path content)).flatten,
      i.file = some path := by
    intro i hi
    obtain ⟨is, his, hi⟩ := List.mem_flatten.mp hi
    obtain rfl := (List.mem_replicate.mp his).2
    obtain ⟨x, -, rfl⟩ := List.mem_map.mp hi
    rfl
  have hunused : (if reportUnused then
      ((r.share path).1.map fun t => t.unused.map (unusedWarning path)).getD [] else []).filter
        (Finding.isOf rule) = [] := by
    rw [List.filter_eq_nil_iff]
    intro f hf
    split at hf
    · cases ht : (r.share path).1 with
      | none =>
        rw [ht] at hf
        cases hf
      | some t =>
        rw [ht] at hf
        obtain ⟨u, -, rfl⟩ := List.mem_map.mp hf
        exact Bool.false_ne_true
    · cases hf
  have hfound : o.found rule path = (errors ++ warnings).filter (Finding.isOf rule) := by
    rw [Outcome.found, ← List.filter_filter, List.filter_append, herrors, hwarnings, ← List.append_assoc,
      List.filter_append, hunused, List.append_nil]
  rw [hfound, filter_isOf_sorted hsev hs hfile hclass, List.filter_flatten, List.map_flatten, List.map_replicate,
    List.map_replicate, issuesIn, map_finding_issuesOf]

/-- **One text**, whether or not a rule fails on it: there is an outcome, and each rule that is on has found in it
what it has reported and no directive covers. -/
theorem found_of_runCategory (config : Option Config) (registry : Registry) (diagnostics : Option Diagnostics)
    (host : Host) (category : Category) (path content : String) :
    let start : Runner := { registry, resolver := { config, registry, diagnostics } }
    ∃ o, (start.runCategory host category path content).1.outcome.2 = .ok o ∧
      ∀ rule options, optionsIfOn config registry rule path = .ok (some options) →
        o.found rule path = findingsFrom (Tracker.parse content).covers rule path
          (reportedBy config registry host path content (registry.ofCategory category) .fresh) := by
  intro start
  have hready : Ready config registry true start :=
    ⟨Resolver.sound_fresh config registry diagnostics, rfl, rfl, List.nodup_nil⟩
  have hentered : Asked config registry path (Tracker.parse content) [] (start.enter path content) :=
    ⟨hready.enter path content, (Assoc.get?_put ..).trans (if_pos rfl), rfl, List.forall_mem_nil _⟩
  have hvisited : Visited config registry true host category path content 0 start := ⟨hready, nofun, rfl⟩
  have hasked : Asked config registry path (Tracker.parse content) _ (start.runCategory host category path content).1 :=
    hentered.runRules (registry.ofCategory category) .fresh
  obtain ⟨o, ho, -⟩ := hasked.outcome
  refine ⟨o, ho, fun rule options hon => ?_⟩
  rw [hvisited.runCategory.found hon ho, Nat.zero_add, List.replicate_one, List.flatten_singleton]

end Reported

end Runner

namespace Family

section Reported

open Runner (Visited Aside)

variable {f : Family} {config : Option Config} {registry : Registry} {reportUnused : Bool} {h : Host}
variable {rule path content : String} {n : Nat} {r r₁ : Runner} {files : List String}

theorem lintFile_of_runsOn (hruns : f.RunsOn h path content) (r : Runner) :
    f.lintFile h r path = r.runCategory h f.category path content := by
  obtain ⟨hread, hjson⟩ := hruns
  rw [lintFile, hread]
  cases hf : f.isJson with
  | false => rfl
  | true =>
    obtain ⟨v, hv⟩ := hjson hf
    simp only [hv]
    rfl

/-- **Files in turn** visit the path as often as it is among them, by induction over them. -/
theorem visited_lintFiles (hruns : f.RunsOn h path content) : ∀ (files : List String) {n : Nat} {r : Runner},
    Visited config registry reportUnused h f.category path content n r → f.lintFiles h r files = .ok r₁ →
      Visited config registry reportUnused h f.category path content (n + files.count path) r₁
  | [], n, r, hr, hrun => by
    cases hrun
    exact hr
  | other :: files, n, r, hr, hrun => by
    have hone : Visited config registry reportUnused h f.category path content
        (n + [other].count path) (f.lintFile h r other).1 := by
      by_cases hpath : other = path
      · subst hpath
        rw [lintFile_of_runsOn hruns, List.count_singleton_self]
        exact hr.runCategory
      · have haside : Aside config registry reportUnused path r (f.lintFile h r other).1 :=
          aside_lintFile hr.toReady hpath
        have hshare := haside.share_eq
        rw [Runner.share, Runner.share, Prod.mk.injEq] at hshare
        rw [List.count_eq_zero.mpr (by simpa using Ne.symm hpath)]
        exact ⟨haside.ready, hshare.1 ▸ hr.tracker, hshare.2.trans hr.staged⟩
    rw [lintFiles] at hrun
    rw [← List.singleton_append, List.count_append, ← Nat.add_assoc]
    cases hlint : f.lintFile h r other with
    | mk r₂ end_ =>
      rw [hlint] at hrun hone
      cases end_ with
      | error e => cases hrun
      | ok _ => exact visited_lintFiles hruns files hone hrun

/-- **What a rule finds in a file.**  The rules run on it, this one among them: its reports that no directive covers
are found, as often as the file is to be checked. -/
theorem found_of_lint (hruns : f.RunsOn h path content) {options : Entries}
    (hon : Runner.optionsIfOn config registry rule path = .ok (some options)) {o : Outcome}
    (ho : f.lint h registry config files = .ok o) :
    o.found rule path = (List.replicate (files.count path) (Runner.findingsFrom (Tracker.parse content).covers rule path
      (Runner.reportedBy config registry h path content (registry.ofCategory f.category) .fresh))).flatten := by
  obtain ⟨r, o₁, hfiles, hout, rfl⟩ := lint_eq_ok_iff.mp ho
  have hstart : Visited config registry ((config.map Config.reportUnused).getD true) h f.category path content 0
      (freshRunner registry config) := ⟨ready_fresh config registry, nofun, rfl⟩
  have hfound := (visited_lintFiles hruns files hstart hfiles).found hon hout
  rw [Nat.zero_add] at hfound
  rw [← hfound, Outcome.found, Outcome.found]

end Reported

end Family

end AgentLint
