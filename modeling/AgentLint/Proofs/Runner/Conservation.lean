import AgentLint.Proofs.Resolver.Layering
import AgentLint.Proofs.Sequencing
import AgentLint.Runner

/-!
# No report is lost

A runner decides in four places what becomes of a report: the resolver skips rules, directives drop
reports, the rest is staged, and `Runner.outcome` sorts what is staged.  Between them stand the tables
of the resolver and the marks on the directives.  This module describes a run without any of that: the
calls in turn, the rules of each in turn, their reports in turn, and two tests on each report
(`keptReports`).  `findings_of_calls` proves that the outcome of a run holds exactly these.

The proof goes from the inside out.  One staged report is a step (`Progress.stageUnlessCovered`), a rule
is a run of such steps, a call is a run of rules, and `Entered` ties the directives of a path to the
text with which the path first came.
-/

namespace AgentLint

namespace Runner

/-! ## 1. A run without tables -/

/-- A request to run the rules of a category on a text. -/
structure Call where
  /-- The files around the text. -/
  host : Host
  /-- The rules. -/
  category : Category
  /-- The path of the text. -/
  path : String
  /-- The text. -/
  content : String

/-- What a rule does on a text with the options that are decided for it, and how it ends: a failure carries
its name and the path.  If there are no options for it, it does nothing and ends with their fault. -/
def decidedRun (config : Option Config) (registry : Registry) (host : Host) (path content : String)
    (rule : Rule) (shared : Shared content) : Except Fault Unit × Trace content :=
  match Resolver.decidedOptions config registry rule.info.id path with
  | .error e => (.error e, ⟨shared, []⟩)
  | .ok options =>
    let (end_, trace) := rule.runOn ⟨rule.info.id, path, content, options, host⟩ shared
    (end_.mapError (.crash rule.info.id path), trace)

/-- The reports of rules that run one after the other, each with its rule, and how that ends: a rule
that is off is passed over, and one that fails is the last one. -/
def reportsOf (config : Option Config) (registry : Registry) (host : Host) (path content : String) :
    List Rule → Shared content → List (String × Report) × Except Fault Unit
  | [], _ => ([], .ok ())
  | rule :: rest, shared =>
    if Resolver.decidedSeverity config registry rule.info.id path = .off then
      reportsOf config registry host path content rest shared
    else
      let (end_, trace) := decidedRun config registry host path content rule shared
      let reports := trace.reports.map fun r => (rule.info.id, r)
      match end_ with
      | .ok () =>
        let (more, end_) := reportsOf config registry host path content rest trace.toShared
        (reports ++ more, end_)
      | .error e => (reports, .error e)

/-- The reports of a call and how it ends.  Where settings have no options, the first rule is already too
much. -/
def Call.reports (config : Option Config) (registry : Registry) (c : Call) :
    List (String × Report) × Except Fault Unit :=
  let rules := registry.ofCategory c.category
  match Resolver.faultAt config registry c.path with
  | none => reportsOf config registry c.host c.path c.content rules .fresh
  | some e => ([], if rules.isEmpty then .ok () else .error e)

/-- The text with which a path first came. -/
def firstContent (calls : List Call) (path : String) : String :=
  ((calls.find? fun c => c.path = path).map Call.content).getD ""

/-- Whether the directives of a path cover a rule at a line. -/
def isSuppressed (calls : List Call) (path rule : String) (line : Option Int) : Bool :=
  (Tracker.parse (firstContent calls path)).covers rule line

/-- The reports of some calls that no directive covers, each with its path and its rule; `all` are the
calls that say which text of a path came first. -/
def keptReports (config : Option Config) (registry : Registry) (all calls : List Call) :
    List (String × String × Report) :=
  calls.flatMap fun c => ((c.reports config registry).1.filter fun x =>
    !isSuppressed all c.path x.1 x.2.line).map fun x => (c.path, x)

/-- A report as a finding. -/
def findingOf (path rule : String) (r : Report) : Finding where
  message := r.message
  file := .text path
  line := .ofInt? r.line
  rule := .text rule
  fix := .ofText? r.fix
  explanation := .ofText? r.explanation
  howToFix := .ofText? r.howToFix
  autoFix := r.autoFix

/-- The findings among some reports whose rule has this severity at their path. -/
def findingsOf (config : Option Config) (registry : Registry) (s : Severity)
    (kept : List (String × String × Report)) : List Finding :=
  (kept.filter fun x => Resolver.decidedSeverity config registry x.2.1 x.1 = s).map fun x =>
    findingOf x.1 x.2.1 x.2.2

/-- Whether a finding carries a file and a rule. -/
def carriesBoth (f : Finding) : Bool :=
  match f.file, f.rule with
  | .null, _ => false
  | _, .null => false
  | _, _ => true

/-- The runner after some calls, and how each of them ended. -/
def runCalls (r : Runner) : List Call → Runner × List (Except Fault Unit)
  | [] => (r, [])
  | c :: cs =>
    let (r, end_) := r.runCategory c.host c.category c.path c.content
    let (r, ends) := r.runCalls cs
    (r, end_ :: ends)

/-! ## 2. Steps that add to what is staged -/

section Progress

variable {config : Option Config} {registry : Registry}

/-- From one state of a run to a later one: `issues` were staged, and the directives of every path
cover what they covered. -/
structure Progress (r r' : Runner) (issues : List Issue) : Prop where
  registry_eq : r'.registry = r.registry
  staged : r'.staged = r.staged ++ issues
  covers : ∀ p, (Assoc.get? p r'.trackers).map Tracker.covers =
    (Assoc.get? p r.trackers).map Tracker.covers

theorem Progress.refl (r : Runner) : Progress r r [] := ⟨rfl, by simp, fun _ => rfl⟩

theorem Progress.trans {r₁ r₂ r₃ : Runner} {is js : List Issue} (h : Progress r₁ r₂ is)
    (h' : Progress r₂ r₃ js) : Progress r₁ r₃ (is ++ js) :=
  ⟨h'.registry_eq.trans h.registry_eq, by rw [h'.staged, h.staged, List.append_assoc],
    fun p => (h'.covers p).trans (h.covers p)⟩

/-- The resolver of a runner and the deprecated rules it has met do not count. -/
theorem Progress.of_eq {r r' : Runner} (hreg : r'.registry = r.registry)
    (hst : r'.staged = r.staged) (htr : r'.trackers = r.trackers) : Progress r r' [] :=
  ⟨hreg, by rw [hst, List.append_nil], fun p => by rw [htr]⟩

/-- A path that has directives keeps them, up to their marks. -/
theorem Progress.known {r r' : Runner} {is : List Issue} (h : Progress r r' is) {path : String}
    {t : Tracker} (ht : Assoc.get? path r.trackers = some t) :
    ∃ t', Assoc.get? path r'.trackers = some t' ∧ t'.covers = t.covers := by
  have hp := h.covers path
  rw [ht, Option.map_some] at hp
  exact Option.map_eq_some_iff.mp hp

theorem stageUnlessCovered_eq {r : Runner} {path : String} {t : Tracker}
    (h : Assoc.get? path r.trackers = some t) (rule : String) (i : Issue) :
    r.stageUnlessCovered rule path i = { r with
      trackers := Assoc.put path (t.query rule i.line).2 r.trackers
      staged := r.staged ++ if t.covers rule i.line then [] else [i] } := by
  rw [← Tracker.query_fst, Runner.stageUnlessCovered, h]
  cases hq : t.query rule i.line with
  | mk covered t' => cases covered <;> simp [hq]

/-- **A report is staged exactly if no directive covers it.** -/
theorem Progress.stageUnlessCovered {r : Runner} {path : String} {t : Tracker}
    (h : Assoc.get? path r.trackers = some t) (rule : String) (i : Issue) :
    Progress r (r.stageUnlessCovered rule path i) (if t.covers rule i.line then [] else [i]) ∧
      (r.stageUnlessCovered rule path i).resolver = r.resolver := by
  rw [stageUnlessCovered_eq h]
  refine ⟨⟨rfl, rfl, ?_⟩, rfl⟩
  intro p
  show (Assoc.get? p (Assoc.put path _ r.trackers)).map _ = _
  rw [Assoc.get?_put]
  split
  · rename_i hp
    rw [← hp, h, Option.map_some, Option.map_some, Tracker.covers_query]
  · rfl

/-- The issues that the reports of a rule at a path become, given which of them are covered. -/
def issuesOf (covers : String → Option Int → Bool) (path : String)
    (reports : List (String × Report)) : List Issue :=
  (reports.filter fun x => !covers x.1 x.2.line).map fun x => .ofReport x.1 path x.2

theorem issuesOf_append (covers : String → Option Int → Bool) (path : String)
    (xs ys : List (String × Report)) :
    issuesOf covers path (xs ++ ys) = issuesOf covers path xs ++ issuesOf covers path ys := by
  simp [issuesOf]

/-- The reports of a rule, one after the other. -/
theorem Progress.stageReports {r : Runner} {path : String} {t : Tracker}
    (h : Assoc.get? path r.trackers = some t) (rule : String) (reports : List Report) :
    Progress r (r.stageReports rule path reports)
        (issuesOf t.covers path (reports.map fun rep => (rule, rep))) ∧
      (r.stageReports rule path reports).resolver = r.resolver := by
  induction reports generalizing r t with
  | nil => exact ⟨Progress.refl r, rfl⟩
  | cons rep reports ih =>
    obtain ⟨hstep, hres⟩ := Progress.stageUnlessCovered h rule (.ofReport rule path rep)
    obtain ⟨t', ht', hcov⟩ := hstep.known h
    obtain ⟨hrest, hres'⟩ := ih ht'
    have hsplit : issuesOf t.covers path ((rep :: reports).map fun rep => (rule, rep))
        = (if t.covers rule rep.line then [] else [.ofReport rule path rep]) ++
          issuesOf t'.covers path (reports.map fun rep => (rule, rep)) := by
      rw [hcov]
      cases hc : t.covers rule rep.line <;> simp [issuesOf, hc]
    rw [hsplit]
    exact ⟨hstep.trans hrest, hres'.trans hres⟩

/-! ## 3. Rules in turn -/

/-- A path that was entered is known. -/
theorem known_enter (r : Runner) (path content : String) :
    ∃ t, Assoc.get? path (r.enter path content).trackers = some t := by
  unfold Runner.enter
  cases hget : Assoc.get? path r.trackers with
  | some t => exact ⟨t, hget⟩
  | none => exact ⟨.parse content, by rw [Assoc.get?_put, if_pos rfl]⟩

theorem enter_of_known {r : Runner} {path : String} {t : Tracker}
    (h : Assoc.get? path r.trackers = some t) (content : String) : r.enter path content = r := by
  rw [Runner.enter, h]

/-- Asking changes the resolver only. -/
theorem ask_eq {α : Type} {r : Runner} {q : Query α} {a : Except Fault α}
    (hq : Resolver.Answers config registry q a) (hr : Resolver.Sound config registry r.resolver) :
    ∃ res, Resolver.Sound config registry res ∧ r.ask q = ({ r with resolver := res }, a) := by
  obtain ⟨res, hrun, hres⟩ := hq r.resolver hr
  exact ⟨res, hres, by rw [Runner.ask, hrun]⟩

/-- Asking the resolver stages nothing. -/
theorem ask_spec {α : Type} {r : Runner} {q : Query α} {a : Except Fault α}
    (hq : Resolver.Answers config registry q a) (hr : Resolver.Sound config registry r.resolver) :
    ∃ r', Resolver.Sound config registry r'.resolver ∧ Progress r r' [] ∧ r.ask q = (r', a) := by
  obtain ⟨res, hres, hask⟩ := ask_eq hq hr
  exact ⟨{ r with resolver := res }, hres, Progress.of_eq rfl rfl rfl, hask⟩

theorem Progress.noteDeprecated (r : Runner) (i : RuleInfo) :
    Progress r (r.noteDeprecated i) [] ∧ (r.noteDeprecated i).resolver = r.resolver := by
  unfold Runner.noteDeprecated
  split
  · exact ⟨Progress.of_eq rfl rfl rfl, rfl⟩
  · exact ⟨Progress.refl r, rfl⟩

theorem noteDeprecated_with_resolver (r : Runner) (res : Resolver) (i : RuleInfo) :
    Runner.noteDeprecated { r with resolver := res } i =
      { r.noteDeprecated i with resolver := res } := by
  unfold Runner.noteDeprecated
  cases i.deprecation with
  | none => rfl
  | some d => cases Assoc.get? i.id r.deprecated <;> rfl

variable (hc : ∀ c, config = some c → c.Compiles)

include hc in
theorem answers_severity_decided (registry : Registry) (rule path : String) :
    Resolver.Answers config registry (Resolver.severity rule path)
      ((Resolver.faultAt config registry path).elim
        (.ok (Resolver.decidedSeverity config registry rule path)) .error) := by
  rw [← Resolver.severityAt_eq hc]
  exact Resolver.answers_severity rule path

include hc in
theorem answers_options_decided (registry : Registry) (rule path : String) :
    Resolver.Answers config registry (Resolver.options rule path)
      ((Resolver.faultAt config registry path).elim
        (Resolver.decidedOptions config registry rule path) .error) := by
  rw [← Resolver.optionsAt_eq hc]
  exact Resolver.answers_options rule path

variable {r : Runner} {path : String} {t : Tracker}
  (hs : Resolver.Sound config registry r.resolver) (ht : Assoc.get? path r.trackers = some t)

theorem resolver_enter (r : Runner) (path content : String) :
    (r.enter path content).resolver = r.resolver := by
  unfold Runner.enter
  split <;> rfl

include hc hs in
/-- A rule that is off is asked about, and that is all. -/
theorem runRule_off_eq (href : Resolver.faultAt config registry path = none) {rule : Rule}
    (hoff : Resolver.decidedSeverity config registry rule.info.id path = .off)
    (host : Host) (content : String) (shared : Shared content) :
    ∃ res, Resolver.Sound config registry res ∧ r.runRule host rule path content shared =
      ({ r.enter path content with resolver := res }, .ok shared) := by
  have hsev := answers_severity_decided hc registry rule.info.id path
  rw [href, Option.elim_none, hoff] at hsev
  obtain ⟨res, hres, hask⟩ := ask_eq (r := r.enter path content) hsev
    ((resolver_enter r path content).symm ▸ hs)
  exact ⟨res, hres, by simp only [Runner.runRule, hask]⟩

include hc hs in
/-- A rule that is not off is noted if it is deprecated; then its options are asked for, and its reports are
staged. -/
theorem runRule_on_eq (href : Resolver.faultAt config registry path = none) {rule : Rule}
    (hon : Resolver.decidedSeverity config registry rule.info.id path ≠ .off)
    (host : Host) (content : String) (shared : Shared content) :
    ∃ res, Resolver.Sound config registry res ∧ r.runRule host rule path content shared =
      (({ (r.enter path content).noteDeprecated rule.info with resolver := res }).stageReports
          rule.info.id path (decidedRun config registry host path content rule shared).2.reports,
        (decidedRun config registry host path content rule shared).1.map fun _ =>
          (decidedRun config registry host path content rule shared).2.toShared) := by
  have hsev := answers_severity_decided hc registry rule.info.id path
  have hopt := answers_options_decided hc registry rule.info.id path
  rw [href, Option.elim_none] at hsev hopt
  obtain ⟨res₁, hs₁, hask₁⟩ := ask_eq (r := r.enter path content) hsev
    ((resolver_enter r path content).symm ▸ hs)
  obtain ⟨res₂, hs₂, hask₂⟩ := ask_eq
    (r := { (r.enter path content).noteDeprecated rule.info with resolver := res₁ }) hopt hs₁
  refine ⟨res₂, hs₂, ?_⟩
  cases hsev' : Resolver.decidedSeverity config registry rule.info.id path with
  | off => exact absurd hsev' hon
  | warn | error =>
    rw [hsev'] at hask₁
    simp only [Runner.runRule, hask₁, noteDeprecated_with_resolver, hask₂, decidedRun]
    cases hopt' : Resolver.decidedOptions config registry rule.info.id path with
    | error e => rfl
    | ok options =>
      dsimp only
      cases hrun : rule.runOn ⟨rule.info.id, path, content, options, host⟩ shared with
      | mk end_ trace => cases end_ <;> rfl

include hc hs ht in
/-- A rule that is off does nothing. -/
theorem runRule_off (href : Resolver.faultAt config registry path = none) {rule : Rule}
    (hoff : Resolver.decidedSeverity config registry rule.info.id path = .off)
    (host : Host) (content : String) (shared : Shared content) :
    ∃ r', Resolver.Sound config registry r'.resolver ∧ Progress r r' [] ∧
      r.runRule host rule path content shared = (r', .ok shared) := by
  obtain ⟨res, hres, hrun⟩ := runRule_off_eq hc hs href hoff host content shared
  rw [enter_of_known ht] at hrun
  exact ⟨{ r with resolver := res }, hres, Progress.of_eq rfl rfl rfl, hrun⟩

include hc hs ht in
/-- **One rule that is not off.**  Its reports are staged as far as no directive covers them, and it ends as
it does on the text. -/
theorem runRule_on (href : Resolver.faultAt config registry path = none) {rule : Rule}
    (hon : Resolver.decidedSeverity config registry rule.info.id path ≠ .off)
    (host : Host) (content : String) (shared : Shared content) :
    ∃ r', Resolver.Sound config registry r'.resolver ∧
      Progress r r' (issuesOf t.covers path
        ((decidedRun config registry host path content rule shared).2.reports.map
          fun rep => (rule.info.id, rep))) ∧
      r.runRule host rule path content shared =
        (r', (decidedRun config registry host path content rule shared).1.map fun _ =>
          (decidedRun config registry host path content rule shared).2.toShared) := by
  obtain ⟨res, hres, hrun⟩ := runRule_on_eq hc hs href hon host content shared
  rw [enter_of_known ht] at hrun
  have hstep : Progress r { r.noteDeprecated rule.info with resolver := res } [] :=
    (Progress.noteDeprecated r rule.info).1.trans (Progress.of_eq rfl rfl rfl)
  obtain ⟨t', ht', hcov⟩ := hstep.known ht
  obtain ⟨hreports, hkept⟩ := Progress.stageReports ht' rule.info.id
    (decidedRun config registry host path content rule shared).2.reports
  exact ⟨_, hkept.symm ▸ hres, hcov ▸ hstep.trans hreports, hrun⟩

include hc hs ht in
/-- **Rules in turn.**  What they leave staged is what they report, as far as no directive covers it. -/
theorem runRules_spec (href : Resolver.faultAt config registry path = none) (host : Host)
    (content : String) (rules : List Rule) (shared : Shared content) :
    ∃ r', Resolver.Sound config registry r'.resolver ∧
      Progress r r' (issuesOf t.covers path
        (reportsOf config registry host path content rules shared).1) ∧
      r.runRules host path content rules shared =
        (r', (reportsOf config registry host path content rules shared).2) := by
  induction rules generalizing r t shared with
  | nil => exact ⟨r, hs, Progress.refl r, rfl⟩
  | cons rule rest ih =>
    by_cases hoff : Resolver.decidedSeverity config registry rule.info.id path = .off
    · obtain ⟨r₁, hs₁, hstep, hrun⟩ := runRule_off hc hs ht href hoff host content shared
      obtain ⟨t₁, ht₁, hcov⟩ := hstep.known ht
      obtain ⟨r', hs', hrest, hruns⟩ := ih hs₁ ht₁ shared
      rw [reportsOf, if_pos hoff, Runner.runRules, hrun]
      exact ⟨r', hs', hcov ▸ hstep.trans hrest, hruns⟩
    · obtain ⟨r₁, hs₁, hstep, hrun⟩ := runRule_on hc hs ht href hoff host content shared
      obtain ⟨t₁, ht₁, hcov⟩ := hstep.known ht
      rw [reportsOf, if_neg hoff, Runner.runRules, hrun]
      cases hdec : decidedRun config registry host path content rule shared with
      | mk end_ trace =>
        rw [hdec] at hstep
        cases end_ with
        | error e => exact ⟨r₁, hs₁, hstep, rfl⟩
        | ok _ =>
          obtain ⟨r', hs', hrest, hruns⟩ := ih hs₁ ht₁ trace.toShared
          refine ⟨r', hs', ?_, hruns⟩
          have happ := hstep.trans hrest
          rwa [hcov, ← issuesOf_append] at happ

include hc hs ht in
/-- Where settings have no options, nothing is done but to ask about the first rule. -/
theorem runRules_of_fault_eq {e : Fault}
    (href : Resolver.faultAt config registry path = some e) (host : Host) (content : String)
    (rules : List Rule) (shared : Shared content) :
    ∃ res, Resolver.Sound config registry res ∧ r.runRules host path content rules shared =
      ({ r with resolver := res }, if rules.isEmpty then .ok () else .error e) := by
  cases rules with
  | nil => exact ⟨r.resolver, hs, rfl⟩
  | cons rule rest =>
    have hsev := answers_severity_decided hc registry rule.info.id path
    rw [href, Option.elim_some] at hsev
    obtain ⟨res, hres, hask⟩ := ask_eq hsev hs
    refine ⟨res, hres, ?_⟩
    simp only [Runner.runRules, Runner.runRule, enter_of_known ht, hask]
    rfl

include hc hs ht in
/-- Where settings have no options, the first rule fails before it is run. -/
theorem runRules_of_fault {e : Fault}
    (href : Resolver.faultAt config registry path = some e) (host : Host) (content : String)
    (rules : List Rule) (shared : Shared content) :
    ∃ r', Resolver.Sound config registry r'.resolver ∧ Progress r r' [] ∧
      r.runRules host path content rules shared =
        (r', if rules.isEmpty then .ok () else .error e) := by
  obtain ⟨res, hres, hrun⟩ := runRules_of_fault_eq hc hs ht href host content rules shared
  exact ⟨{ r with resolver := res }, hres, Progress.of_eq rfl rfl rfl, hrun⟩

/-! ## 4. Calls in turn -/

/-- The invariant of a run: the resolver is sound, and the directives of every path are those of the
text with which it first came. -/
structure Entered (config : Option Config) (registry : Registry) (seen : List Call) (r : Runner) :
    Prop where
  sound : Resolver.Sound config registry r.resolver
  registry_eq : r.registry = registry
  trackers : ∀ p, (Assoc.get? p r.trackers).map Tracker.covers =
    (seen.find? fun c => c.path = p).map fun c => (Tracker.parse c.content).covers

theorem find?_path_append (seen : List Call) (c : Call) :
    ∃ c', (seen ++ [c]).find? (fun d => d.path = c.path) = some c' := by
  rw [← Option.isSome_iff_exists, List.find?_isSome]
  exact ⟨c, by simp, by simp⟩

/-- Once a path has come, later calls do not change which text was the first. -/
theorem isSuppressed_append (seen : List Call) (c : Call) (later : List Call) :
    isSuppressed (seen ++ [c] ++ later) c.path = isSuppressed (seen ++ [c]) c.path := by
  obtain ⟨c', hfind⟩ := find?_path_append seen c
  funext rule line
  rw [isSuppressed, isSuppressed, firstContent, firstContent, List.find?_append, hfind,
    Option.some_or]

/-- A path enters with the text of the call, unless it came before. -/
theorem Entered.enter {seen : List Call} (h : Entered config registry seen r) (c : Call) :
    Entered config registry (seen ++ [c]) (r.enter c.path c.content) := by
  have hc := h.trackers c.path
  unfold Runner.enter
  cases hknown : Assoc.get? c.path r.trackers with
  | some t =>
    refine ⟨h.sound, h.registry_eq, fun p => ?_⟩
    rw [List.find?_append, h.trackers p]
    by_cases hp : c.path = p
    · rw [hknown, Option.map_some, hp] at hc
      obtain ⟨c', hfind, -⟩ := Option.map_eq_some_iff.mp hc.symm
      rw [hfind, Option.some_or]
    · simp [hp]
  | none =>
    refine ⟨h.sound, h.registry_eq, fun p => ?_⟩
    show (Assoc.get? p (Assoc.put c.path _ r.trackers)).map _ = _
    rw [List.find?_append, Assoc.get?_put]
    by_cases hp : c.path = p
    · rw [hknown, Option.map_none, hp] at hc
      rw [if_pos hp, Option.map_eq_none_iff.mp hc.symm]
      simp [hp]
    · rw [if_neg hp, h.trackers p]
      simp [hp]

theorem Entered.progress {seen : List Call} (h : Entered config registry seen r) {r' : Runner}
    {is : List Issue} (hp : Progress r r' is) (hs' : Resolver.Sound config registry r'.resolver) :
    Entered config registry seen r' :=
  ⟨hs', hp.registry_eq.trans h.registry_eq, fun p => (hp.covers p).trans (h.trackers p)⟩

/-- The directives of a path that has come are those of its first text. -/
theorem Entered.covers {seen : List Call} (h : Entered config registry seen r)
    (ht : Assoc.get? path r.trackers = some t) : t.covers = isSuppressed seen path := by
  have hp := h.trackers path
  rw [ht, Option.map_some] at hp
  obtain ⟨c, hfind, hcov⟩ := Option.map_eq_some_iff.mp hp.symm
  rw [← hcov]
  funext rule line
  rw [isSuppressed, firstContent, hfind]
  rfl

/-- The issues of a call, given the calls that say which text of a path came first. -/
def Call.issues (config : Option Config) (registry : Registry) (all : List Call) (c : Call) :
    List Issue :=
  issuesOf (isSuppressed all c.path) c.path (c.reports config registry).1

include hc in
/-- **One call** stages the reports of its rules that the directives of its path do not cover. -/
theorem runCategory_spec {seen : List Call} (h : Entered config registry seen r) (c : Call) :
    ∃ r', Entered config registry (seen ++ [c]) r' ∧
      r'.staged = r.staged ++ c.issues config registry (seen ++ [c]) ∧
      r.runCategory c.host c.category c.path c.content = (r', (c.reports config registry).2) := by
  have henter := h.enter c
  have hstaged : (r.enter c.path c.content).staged = r.staged := by
    unfold Runner.enter
    split <;> rfl
  obtain ⟨t, ht⟩ := known_enter r c.path c.content
  have hcov := henter.covers ht
  rw [Runner.runCategory, h.registry_eq, Call.issues, Call.reports, ← hcov]
  cases href : Resolver.faultAt config registry c.path with
  | none =>
    obtain ⟨r', hs', hp, hrun⟩ := runRules_spec hc henter.sound ht href c.host c.content
      (registry.ofCategory c.category) .fresh
    exact ⟨r', henter.progress hp hs', hstaged ▸ hp.staged, hrun⟩
  | some e =>
    obtain ⟨r', hs', hp, hrun⟩ := runRules_of_fault hc henter.sound ht href c.host c.content
      (registry.ofCategory c.category) .fresh
    exact ⟨r', henter.progress hp hs', hstaged ▸ hp.staged, hrun⟩

include hc in
/-- **Calls in turn**, by induction over them; `seen` are the calls before. -/
theorem runCalls_spec (calls : List Call) {seen : List Call} (h : Entered config registry seen r) :
    ∃ r', Entered config registry (seen ++ calls) r' ∧
      r'.staged = r.staged ++ calls.flatMap (Call.issues config registry (seen ++ calls)) ∧
      r.runCalls calls = (r', calls.map fun c => (c.reports config registry).2) := by
  induction calls generalizing r seen with
  | nil => exact ⟨r, by rwa [List.append_nil], by simp, rfl⟩
  | cons c cs ih =>
    obtain ⟨r₁, h₁, hstaged₁, hrun₁⟩ := runCategory_spec hc h c
    obtain ⟨r', h', hstaged', hruns⟩ := ih h₁
    have hall : seen ++ c :: cs = seen ++ [c] ++ cs := by simp
    refine ⟨r', hall ▸ h', ?_, ?_⟩
    · rw [hstaged', hstaged₁, hall, List.flatMap_cons, List.append_assoc]
      unfold Call.issues
      rw [isSuppressed_append]
    · rw [Runner.runCalls, hrun₁]
      simp only [hruns, List.map_cons]

/-! ## 5. Sorting what is staged -/

/-- The severity of an issue, without the tables of the resolver. -/
def severityOfIssue (config : Option Config) (registry : Registry) (i : Issue) :
    Except Fault Severity :=
  match i.rule, i.file with
  | none, _ => .ok (if i.grade = some .warning then .warn else .error)
  | some rule, none => .ok (Resolver.defaultSeverity registry rule)
  | some rule, some path => Resolver.severityAt config registry rule path

/-- Errors and warnings among issues, without the tables of the resolver. -/
def classified (config : Option Config) (registry : Registry) :
    List Issue → Except Fault (List Finding × List Finding)
  | [] => .ok ([], [])
  | i :: rest => do
    let severity ← severityOfIssue config registry i
    let (errors, warnings) ← classified config registry rest
    match severity with
    | .off => .ok (errors, warnings)
    | .error => .ok (i.finding :: errors, warnings)
    | .warn => .ok (errors, i.finding :: warnings)

/-- A finding among the errors or the warnings, by its severity. -/
def filed (s : Severity) (f : Finding) (ew : List Finding × List Finding) : List Finding × List Finding :=
  match s with
  | .off => ew
  | .error => (f :: ew.1, ew.2)
  | .warn => (ew.1, f :: ew.2)

/-- **Sorting one more issue**: it has a severity, the others are sorted, and it goes where its severity says. -/
theorem classified_cons_eq_ok_iff {config : Option Config} {registry : Registry} {i : Issue} {is : List Issue}
    {ew : List Finding × List Finding} : classified config registry (i :: is) = .ok ew ↔
      ∃ s rest, severityOfIssue config registry i = .ok s ∧ classified config registry is = .ok rest ∧
        filed s i.finding rest = ew := by
  rw [classified, bind_eq_ok_iff]
  refine exists_congr fun s => ?_
  rw [bind_eq_ok_iff, ← exists_and_left]
  refine exists_congr fun rest => and_congr_right fun _ => and_congr_right fun _ => ?_
  cases s <;> exact ⟨Except.ok.inj, congrArg Except.ok⟩

theorem answers_severityOf (i : Issue) : Resolver.Answers config registry (severityOf registry i)
    (severityOfIssue config registry i) := by
  unfold severityOf severityOfIssue
  cases i.rule with
  | none => exact Resolver.Answers.pure _
  | some rule =>
    cases i.file with
    | none => exact Resolver.Answers.pure _
    | some path => exact Resolver.answers_severity rule path

theorem answers_classified : ∀ staged : List Issue,
    Resolver.Answers config registry (classify registry staged) (classified config registry staged)
  | [] => Resolver.Answers.pure _
  | i :: staged => by
    refine (answers_severityOf i).bind fun severity _ => (answers_classified staged).bind fun found _ => ?_
    cases severity <;> exact Resolver.Answers.pure _

/-! ## 6. The outcome -/

theorem flatMap_issues (all calls : List Call) :
    calls.flatMap (Call.issues config registry all) =
      (keptReports config registry all calls).map fun x => .ofReport x.2.1 x.1 x.2.2 := by
  simp only [keptReports, List.map_flatMap, List.map_map]
  rfl

/-- Where something is reported, all settings that count have options. -/
theorem faultAt_of_mem_keptReports {all calls : List Call} {x : String × String × Report}
    (hx : x ∈ keptReports config registry all calls) :
    Resolver.faultAt config registry x.1 = none := by
  obtain ⟨c, -, hmem⟩ := List.mem_flatMap.mp hx
  obtain ⟨y, hy, rfl⟩ := List.mem_map.mp hmem
  have hrep : y ∈ (c.reports config registry).1 := (List.mem_filter.mp hy).1
  cases href : Resolver.faultAt config registry c.path with
  | none => rfl
  | some e =>
    rw [Call.reports, href] at hrep
    exact absurd hrep List.not_mem_nil

include hc in
/-- **Classifying** sorts what is kept by the severity of its rule, and keeps the order. -/
theorem answers_classify : ∀ kept : List (String × String × Report),
    (∀ x ∈ kept, Resolver.faultAt config registry x.1 = none) →
      Resolver.Answers config registry
        (classify registry (kept.map fun x => .ofReport x.2.1 x.1 x.2.2))
        (.ok (findingsOf config registry .error kept, findingsOf config registry .warn kept))
  | [], _ => Resolver.Answers.pure _
  | (path, rule, rep) :: kept, h => by
    have hrest := answers_classify kept fun x hx => h x (List.mem_cons_of_mem _ hx)
    have hsev := answers_severity_decided hc registry rule path
    rw [h _ List.mem_cons_self, Option.elim_none] at hsev
    have hpick : Resolver.Answers config registry
        (classify registry (((path, rule, rep) :: kept).map fun x => .ofReport x.2.1 x.1 x.2.2))
        (Except.ok (Resolver.decidedSeverity config registry rule path) >>= fun s =>
          Except.ok (findingsOf config registry .error kept, findingsOf config registry .warn kept)
            >>= fun ew => Except.ok (filed s (findingOf path rule rep) ew)) := by
      refine hsev.bind fun s _ => hrest.bind fun ew _ => ?_
      cases s <;> exact Resolver.Answers.pure _
    convert hpick using 1
    cases hd : Resolver.decidedSeverity config registry rule path <;> simp [findingsOf, filed, hd] <;> rfl

theorem filter_findingsOf (s : Severity) (kept : List (String × String × Report)) :
    (findingsOf config registry s kept).filter carriesBoth = findingsOf config registry s kept := by
  rw [List.filter_eq_self]
  intro f hf
  obtain ⟨x, -, rfl⟩ := List.mem_map.mp hf
  rfl

end Progress

theorem exists_of_mem_unusedWarnings {r : Runner} {f : Finding} (hf : f ∈ r.unusedWarnings) :
    ∃ path s, f = unusedWarning path s := by
  obtain ⟨⟨path, t⟩, -, hx⟩ := List.mem_flatMap.mp hf
  obtain ⟨s, -, rfl⟩ := List.mem_map.mp hx
  exact ⟨path, s, rfl⟩

/-- Warnings about directives carry no rule. -/
theorem filter_unusedWarnings (r : Runner) : r.unusedWarnings.filter carriesBoth = [] := by
  rw [List.filter_eq_nil_iff]
  intro f hf
  obtain ⟨path, s, rfl⟩ := exists_of_mem_unusedWarnings hf
  exact Bool.false_ne_true

/-- Diagnostics carry no file. -/
theorem filter_diagnosticFinding (ds : List Diagnostic) :
    (ds.map diagnosticFinding).filter carriesBoth = [] := by
  rw [List.filter_eq_nil_iff]
  intro f hf
  obtain ⟨d, -, rfl⟩ := List.mem_map.mp hf
  exact Bool.false_ne_true

theorem outcome_eq {r r' : Runner} {errors warnings : List Finding}
    (h : r.ask (classify r.registry r.staged) = (r', .ok (errors, warnings))) :
    r.outcome.2 = .ok {
      errors := errors ++ (r'.resolver.diagnostics.getD []).errors.map diagnosticFinding
      warnings := warnings ++ (if r'.reportUnused then r'.unusedWarnings else []) ++
        (r'.resolver.diagnostics.getD []).warnings.map diagnosticFinding
      deprecated := r'.deprecated.map fun (rule, d) => Usage.ofDeprecation rule d
      files := r'.files } := by
  simp only [Runner.outcome, h, Except.map]

/-- **No report is lost.**  After any calls, the errors and the warnings that carry a file and a rule
are the reports of these calls that no directive covers, in order and unchanged, sorted by the severity
of their rules; and each call ends as its rules do.  Where a setting that counts at the path has no options,
a call reports nothing, and ends with the fault that comes first at its first rule. -/
theorem findings_of_calls (config : Option Config) (registry : Registry)
    (diagnostics : Option Diagnostics) (reportUnused : Bool)
    (hc : ∀ c, config = some c → c.Compiles) (calls : List Call) :
    let start : Runner := { registry, resolver := { config, registry, diagnostics }, reportUnused }
    let kept := keptReports config registry calls calls
    (start.runCalls calls).2 = (calls.map fun c => (c.reports config registry).2) ∧
      ∃ o, (start.runCalls calls).1.outcome.2 = .ok o ∧
        o.errors.filter carriesBoth = findingsOf config registry .error kept ∧
        o.warnings.filter carriesBoth = findingsOf config registry .warn kept := by
  intro start kept
  have hstart : Entered config registry [] start :=
    ⟨Resolver.sound_fresh config registry diagnostics, rfl, fun _ => rfl⟩
  obtain ⟨r, hr, hstaged, hruns⟩ := runCalls_spec hc calls hstart
  rw [hruns]
  refine ⟨rfl, ?_⟩
  rw [List.nil_append, flatMap_issues] at hstaged
  obtain ⟨r', hs', -, hask⟩ := ask_spec (answers_classify hc kept fun x hx =>
    faultAt_of_mem_keptReports hx) hr.sound
  have hclass : r.ask (classify r.registry r.staged) =
      (r', .ok (findingsOf config registry .error kept, findingsOf config registry .warn kept)) := by
    rw [hr.registry_eq, hstaged]
    exact hask
  refine ⟨_, outcome_eq hclass, ?_, ?_⟩
  · rw [List.filter_append, filter_findingsOf, filter_diagnosticFinding, List.append_nil]
  · rw [List.filter_append, List.filter_append, filter_findingsOf, filter_diagnosticFinding]
    split
    · rw [filter_unusedWarnings, List.append_nil, List.append_nil]
    · rw [List.filter_nil, List.append_nil, List.append_nil]

/-- A rule that reports twice and fails: the first report is covered by a directive of the first text
of the path, the second one is kept, at both calls; below `docs` the rule is off. -/
theorem findings_of_failing_probe :
    let probe : Rule := {
      info := { id := "probe", name := "Probe", description := "Probes.", category := .claudeMd }
      check := fun _ => do
        Check.report { message := "covered", line := some 2 }
        Check.report { message := "kept", line := some 3 }
        throw (.raised "no more") }
    let c : Config := { overrides := [⟨["docs/**"], [("probe", ⟨.off, none⟩)]⟩] }
    let host : Host := ⟨[], [], "/", [], 0⟩
    let calls : List Call := [
      ⟨host, .claudeMd, "CLAUDE.md", "<!-- lintloom-disable-next-line probe -->\nfirst\nsecond"⟩,
      ⟨host, .claudeMd, "docs/CLAUDE.md", "text"⟩, ⟨host, .claudeMd, "CLAUDE.md", "text"⟩]
    let registry : Registry := [("probe", probe)]
    let start : Runner := { registry, resolver :=
      { config := some c, registry, diagnostics := none } }
    let failure? (e : Except Fault Unit) : Option (String × String) := match e with
      | .error (.crash rule path _) => some (rule, path)
      | _ => none
    c.Compiles ∧ (start.runCalls calls).2.map failure? =
        [some ("probe", "CLAUDE.md"), none, some ("probe", "CLAUDE.md")] ∧
      ∃ o, (start.runCalls calls).1.outcome.2 = .ok o ∧
        (o.errors.filter carriesBoth).map Finding.message = ["kept", "kept"] ∧
        (o.warnings.filter carriesBoth).map Finding.message = [] := by
  intro probe c host calls registry start failure?
  have hc : c.Compiles := Config.compiles_of_plain rfl (by decide +kernel)
  obtain ⟨hends, o, ho, herrors, hwarnings⟩ := findings_of_calls (some c) registry none true
    (fun _ hs => Option.some.inj hs ▸ hc) calls
  refine ⟨hc, ?_, o, ho, ?_, ?_⟩
  · rw [hends]
    decide +kernel
  · rw [herrors]
    decide +kernel
  · rw [hwarnings]
    decide +kernel

/-- Options of one rule with which its model fails end the run of another rule, which is on and would report,
before it begins. -/
theorem unreadable_options_end_the_run :
    let probe : Rule := {
      info := { id := "probe", name := "Probe", description := "Probes.", category := .claudeMd }
      check := fun _ => Check.report { message := "seen" } }
    let registry : Registry := Builtin.registry ++ [("probe", probe)]
    let c : Config := {
      rules := [("mcp-invalid-env-var",
        ⟨.warn, some [(.text "pattern", .text "a\x7b4294967295\x7d")]⟩)] }
    let start : Runner := { registry, resolver :=
      { config := some c, registry, diagnostics := none } }
    let r := start.runCategory ⟨[], [], "/", [], 0⟩ .claudeMd "x.md" "hello"
    Resolver.decidedSeverity (some c) registry "probe" "x.md" = .error ∧
      (decidedRun (some c) registry ⟨[], [], "/", [], 0⟩ "x.md" "hello" probe .fresh).2.reports.map
        Report.message = ["seen"] ∧
      r.1.staged.length = 0 ∧
      (match r.2 with
        | .error (.pattern e) => some e
        | _ => none) = some ⟨.repetitionTooLarge, none, "a\x7b4294967295\x7d".toList⟩ := by
  decide +kernel

end Runner

end AgentLint
