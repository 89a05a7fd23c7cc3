import AgentLint.Proofs.Runner.Conservation

/-!
# Which deprecated rules took part

A runner notes a deprecated rule when it comes to run it, after asking whether it is on and before it
runs.  This module says which rules a call comes to run (`Call.invoked`): those of its category that are
on at its path, up to the first one that fails or has no options, that one included.  `deprecated_of_calls`
proves that the outcome of a run lists exactly these, those that are deprecated, once for each id and in the
order in which they first took part.

Nothing of this depends on what is reported or suppressed.  As long as no rule fails, the list is a
matter of the categories and the paths alone, and so two runs with the same of these have the same list.

Where settings have no options (`Resolver.faultAt`), a call fails at the question whether its first rule
is on.  It has not come to run any, and lists none.
-/

namespace AgentLint

/-! ## 1. First occurrences -/

/-- The usages of the deprecated rules among some: for each id, the first one that is deprecated. -/
def Usage.ofInfos : List RuleInfo → List Usage
  | [] => []
  | i :: is =>
    match i.deprecation with
    | none => ofInfos is
    | some d => ofDeprecation i.id d :: (ofInfos is).filter fun u => u.rule ≠ i.id

theorem Usage.mem_ofInfos {u : Usage} {is : List RuleInfo} (h : u ∈ ofInfos is) :
    ∃ i ∈ is, ∃ d, i.deprecation = some d ∧ u = ofDeprecation i.id d := by
  induction is with
  | nil => exact absurd h List.not_mem_nil
  | cons i is ih =>
    have hrest : u ∈ ofInfos is →
        ∃ i' ∈ i :: is, ∃ d, i'.deprecation = some d ∧ u = ofDeprecation i'.id d := fun hu => by
      obtain ⟨i', hi', hd⟩ := ih hu
      exact ⟨i', List.mem_cons_of_mem i hi', hd⟩
    rw [ofInfos] at h
    cases hd : i.deprecation with
    | none => exact hrest (by rwa [hd] at h)
    | some d =>
      rw [hd] at h
      rcases List.mem_cons.mp h with rfl | hu
      · exact ⟨i, List.mem_cons_self, d, hd, rfl⟩
      · exact hrest (List.mem_filter.mp hu).1

/-- Every deprecated rule is there under its id. -/
theorem Usage.exists_of_mem_infos {i : RuleInfo} {is : List RuleInfo} (hi : i ∈ is)
    (hd : i.deprecation ≠ none) : ∃ u ∈ ofInfos is, u.rule = i.id := by
  induction is with
  | nil => exact absurd hi List.not_mem_nil
  | cons j is ih =>
    rw [ofInfos]
    cases hj : j.deprecation with
    | none =>
      rcases List.mem_cons.mp hi with rfl | hin
      · exact absurd hj hd
      · exact ih hin
    | some d =>
      by_cases hid : i.id = j.id
      · exact ⟨ofDeprecation j.id d, List.mem_cons_self, hid.symm⟩
      · rcases List.mem_cons.mp hi with rfl | hin
        · exact absurd rfl hid
        · obtain ⟨u, hu, hrule⟩ := ih hin
          refine ⟨u, List.mem_cons_of_mem _ (List.mem_filter.mpr ⟨hu, ?_⟩), hrule⟩
          exact decide_eq_true (hrule ▸ hid)

/-- **No id comes twice.** -/
theorem Usage.nodup_ofInfos (is : List RuleInfo) : ((ofInfos is).map Usage.rule).Nodup := by
  induction is with
  | nil => exact List.nodup_nil
  | cons i is ih =>
    rw [ofInfos]
    cases i.deprecation with
    | none => exact ih
    | some d =>
      rw [List.map_cons, List.nodup_cons]
      refine ⟨?_, ih.sublist (List.filter_sublist.map _)⟩
      intro hmem
      obtain ⟨u, hu, hrule⟩ := List.mem_map.mp hmem
      exact of_decide_eq_true (List.mem_filter.mp hu).2 hrule

/-- The ids that are listed are those of the deprecated rules. -/
theorem Usage.mem_rules_ofInfos {id : String} {is : List RuleInfo} :
    id ∈ (ofInfos is).map Usage.rule ↔ ∃ i ∈ is, i.id = id ∧ i.deprecation ≠ none := by
  constructor
  · intro h
    obtain ⟨u, hu, rfl⟩ := List.mem_map.mp h
    obtain ⟨i, hi, d, hd, rfl⟩ := mem_ofInfos hu
    exact ⟨i, hi, rfl, hd ▸ Option.some_ne_none d⟩
  · rintro ⟨i, hi, rfl, hd⟩
    exact List.mem_map.mpr (exists_of_mem_infos hi hd)

namespace Runner

/-! ## 2. The table of deprecated rules -/

/-- The table after a rule was noted. -/
def noted (t : Assoc String Deprecation) (i : RuleInfo) : Assoc String Deprecation :=
  match i.deprecation, Assoc.get? i.id t with
  | some d, none => Assoc.put i.id d t
  | _, _ => t

theorem deprecated_noteDeprecated (r : Runner) (i : RuleInfo) :
    (r.noteDeprecated i).deprecated = noted r.deprecated i := by
  unfold Runner.noteDeprecated noted
  cases i.deprecation with
  | none => rfl
  | some d => cases Assoc.get? i.id r.deprecated <;> rfl

/-- What a table stands for. -/
def usages (t : Assoc String Deprecation) : List Usage :=
  t.map fun (rule, d) => Usage.ofDeprecation rule d

/-- **Noting rules in turn** adds the usages of those whose id is new. -/
theorem usages_foldl_noted (is : List RuleInfo) (t : Assoc String Deprecation) :
    usages (is.foldl noted t) =
      usages t ++ (Usage.ofInfos is).filter fun u => u.rule ∉ Assoc.keys t := by
  induction is generalizing t with
  | nil => simp [Usage.ofInfos]
  | cons i is ih =>
    rw [List.foldl_cons, ih, Usage.ofInfos]
    cases hd : i.deprecation with
    | none => simp only [noted, hd]
    | some d =>
      by_cases hkey : i.id ∈ Assoc.keys t
      · obtain ⟨d', hget⟩ : ∃ d', Assoc.get? i.id t = some d' :=
          Option.ne_none_iff_exists'.mp fun hnone => (Assoc.get?_eq_none_iff t i.id).mp hnone hkey
        have hsame : ((Usage.ofInfos is).filter fun u => u.rule ≠ i.id).filter
              (fun u => decide (u.rule ∉ Assoc.keys t)) =
            (Usage.ofInfos is).filter fun u => u.rule ∉ Assoc.keys t := by
          rw [List.filter_filter]
          refine List.filter_congr fun u _ => ?_
          by_cases hu : u.rule = i.id <;> simp [hu, hkey]
        have hhead : decide ((Usage.ofDeprecation i.id d).rule ∉ Assoc.keys t) = false :=
          decide_eq_false fun h => h hkey
        simp only [noted, hd, hget]
        rw [List.filter_cons, hhead, hsame]
        rfl
      · have hget : Assoc.get? i.id t = none := (Assoc.get?_eq_none_iff t i.id).mpr hkey
        have hput : Assoc.put i.id d t = t ++ [(i.id, d)] := Assoc.put_of_not_mem hkey d
        have hkeys : Assoc.keys (t ++ [(i.id, d)]) = Assoc.keys t ++ [i.id] := by
          simp [Assoc.keys]
        have hhead : decide ((Usage.ofDeprecation i.id d).rule ∉ Assoc.keys t) = true :=
          decide_eq_true hkey
        have hrest : ((Usage.ofInfos is).filter fun u => u.rule ≠ i.id).filter
              (fun u => decide (u.rule ∉ Assoc.keys t)) =
            (Usage.ofInfos is).filter fun u => u.rule ∉ Assoc.keys t ++ [i.id] := by
          rw [List.filter_filter]
          refine List.filter_congr fun u _ => ?_
          by_cases hu : u.rule = i.id <;> simp [hu]
        simp only [noted, hd, hget, hput, hkeys]
        rw [List.filter_cons, hhead, if_pos rfl, hrest]
        simp [usages]

/-! ## 3. Rules that take part -/

/-- Of rules that run one after the other on a text, those that the run comes to: the ones that are on, until
one fails. -/
def invokedOf (config : Option Config) (registry : Registry) (host : Host) (path content : String) :
    List Rule → Shared content → List RuleInfo
  | [], _ => []
  | rule :: rest, shared =>
    if Resolver.decidedSeverity config registry rule.info.id path = .off then
      invokedOf config registry host path content rest shared
    else
      let (end_, trace) := decidedRun config registry host path content rule shared
      rule.info :: match end_ with
        | .ok () => invokedOf config registry host path content rest trace.toShared
        | .error _ => []

/-- The rules that a call comes to run: none where settings have no options. -/
def Call.invoked (config : Option Config) (registry : Registry) (c : Call) : List RuleInfo :=
  match Resolver.faultAt config registry c.path with
  | none => invokedOf config registry c.host c.path c.content (registry.ofCategory c.category) .fresh
  | some _ => []

/-- From one state of a run to a later one: these rules were run. -/
structure Takes (config : Option Config) (registry : Registry) (r r' : Runner)
    (is : List RuleInfo) : Prop where
  sound : Resolver.Sound config registry r'.resolver
  registry_eq : r'.registry = r.registry
  deprecated : r'.deprecated = is.foldl noted r.deprecated

section Takes

variable {config : Option Config} {registry : Registry} {r : Runner}

theorem Takes.trans {r' r'' : Runner} {is js : List RuleInfo} (h : Takes config registry r r' is)
    (h' : Takes config registry r' r'' js) : Takes config registry r r'' (is ++ js) :=
  ⟨h'.sound, h'.registry_eq.trans h.registry_eq, by rw [h'.deprecated, h.deprecated, List.foldl_append]⟩

/-- What else changes does not count. -/
theorem Takes.of_eq {r' : Runner} (hs : Resolver.Sound config registry r'.resolver)
    (hreg : r'.registry = r.registry) (hdep : r'.deprecated = r.deprecated) :
    Takes config registry r r' [] := ⟨hs, hreg, hdep⟩

theorem enter_frame (r : Runner) (path content : String) :
    (r.enter path content).registry = r.registry ∧
      (r.enter path content).deprecated = r.deprecated := by
  unfold Runner.enter
  split <;> exact ⟨rfl, rfl⟩

theorem stageUnlessCovered_frame (r : Runner) (rule path : String) (i : Issue) :
    (r.stageUnlessCovered rule path i).registry = r.registry ∧
      (r.stageUnlessCovered rule path i).deprecated = r.deprecated ∧
      (r.stageUnlessCovered rule path i).resolver = r.resolver := by
  cases ht : Assoc.get? path r.trackers with
  | none =>
    rw [Runner.stageUnlessCovered, ht]
    exact ⟨rfl, rfl, rfl⟩
  | some t =>
    rw [stageUnlessCovered_eq ht]
    exact ⟨rfl, rfl, rfl⟩

/-- Reports do not show in the table. -/
theorem stageReports_frame (r : Runner) (rule path : String) (reports : List Report) :
    (r.stageReports rule path reports).registry = r.registry ∧
      (r.stageReports rule path reports).deprecated = r.deprecated ∧
      (r.stageReports rule path reports).resolver = r.resolver := by
  induction reports generalizing r with
  | nil => exact ⟨rfl, rfl, rfl⟩
  | cons rep reports ih =>
    obtain ⟨hreg, hdep, hres⟩ := stageUnlessCovered_frame r rule path (.ofReport rule path rep)
    obtain ⟨hreg', hdep', hres'⟩ := ih (r.stageUnlessCovered rule path (.ofReport rule path rep))
    exact ⟨hreg'.trans hreg, hdep'.trans hdep, hres'.trans hres⟩

variable (hc : ∀ c, config = some c → c.Compiles)
  (hs : Resolver.Sound config registry r.resolver) {path : String}

include hc hs in
/-- **One rule** that is on is noted before it is run, so it counts even if it fails. -/
theorem takes_runRule_on (href : Resolver.faultAt config registry path = none) {rule : Rule}
    (hon : Resolver.decidedSeverity config registry rule.info.id path ≠ .off)
    (host : Host) (content : String) (shared : Shared content) :
    Takes config registry r (r.runRule host rule path content shared).1 [rule.info] := by
  obtain ⟨res, hres, hrun⟩ := runRule_on_eq hc hs href hon host content shared
  obtain ⟨hreg, hdep⟩ := enter_frame r path content
  obtain ⟨hreg', hdep', hres'⟩ := stageReports_frame
    { (r.enter path content).noteDeprecated rule.info with resolver := res } rule.info.id path
    (decidedRun config registry host path content rule shared).2.reports
  rw [hrun]
  refine ⟨hres'.symm ▸ hres, ?_, ?_⟩
  · rw [hreg', (Progress.noteDeprecated _ _).1.registry_eq, hreg]
  · rw [hdep', deprecated_noteDeprecated, hdep, List.foldl_cons, List.foldl_nil]

include hc hs in
/-- **Rules in turn**, by induction over them: those that take part are those that are on, until one
fails. -/
theorem takes_runRules (href : Resolver.faultAt config registry path = none) (host : Host)
    (content : String) (rules : List Rule) (shared : Shared content) :
    Takes config registry r (r.runRules host path content rules shared).1
      (invokedOf config registry host path content rules shared) := by
  induction rules generalizing r shared with
  | nil => exact .of_eq hs rfl rfl
  | cons rule rest ih =>
    by_cases hoff : Resolver.decidedSeverity config registry rule.info.id path = .off
    · obtain ⟨res, hres, hrun⟩ := runRule_off_eq hc hs href hoff host content shared
      obtain ⟨hreg, hdep⟩ := enter_frame r path content
      have hone : Takes config registry r { r.enter path content with resolver := res } [] :=
        .of_eq hres hreg hdep
      rw [invokedOf, if_pos hoff, Runner.runRules, hrun]
      exact hone.trans (ih hres shared)
    · have hone := takes_runRule_on hc hs href hoff host content shared
      obtain ⟨res, -, hrun⟩ := runRule_on_eq hc hs href hoff host content shared
      rw [invokedOf, if_neg hoff, Runner.runRules]
      cases hdec : decidedRun config registry host path content rule shared with
      | mk end_ trace =>
        rw [hdec] at hrun
        rw [hrun] at hone ⊢
        cases end_ with
        | error e => exact hone
        | ok _ => exact hone.trans (ih hone.sound trace.toShared)

include hc hs in
/-- **One call.** -/
theorem takes_runCategory (hreg : r.registry = registry) (c : Call) :
    Takes config registry r (r.runCategory c.host c.category c.path c.content).1
      (c.invoked config registry) := by
  have hs' : Resolver.Sound config registry (r.enter c.path c.content).resolver :=
    (resolver_enter r c.path c.content).symm ▸ hs
  have henter : Takes config registry r (r.enter c.path c.content) [] :=
    .of_eq hs' (enter_frame r c.path c.content).1 (enter_frame r c.path c.content).2
  rw [Runner.runCategory, hreg, Call.invoked]
  cases href : Resolver.faultAt config registry c.path with
  | none => exact henter.trans (takes_runRules hc hs' href c.host c.content _ .fresh)
  | some e =>
    obtain ⟨t, ht⟩ := known_enter r c.path c.content
    obtain ⟨res, hres, hrun⟩ := runRules_of_fault_eq hc hs' ht href c.host c.content
      (registry.ofCategory c.category) .fresh
    rw [hrun]
    exact henter.trans (.of_eq hres rfl rfl)

include hc hs in
/-- **Calls in turn**, by induction over them. -/
theorem takes_runCalls (hreg : r.registry = registry) (calls : List Call) :
    Takes config registry r (r.runCalls calls).1 (calls.flatMap (Call.invoked config registry)) := by
  induction calls generalizing r with
  | nil => exact .of_eq hs rfl rfl
  | cons c cs ih =>
    have hone := takes_runCategory hc hs hreg c
    exact hone.trans (ih hone.sound (hone.registry_eq.trans hreg))

end Takes

/-! ## 4. Runs in which no rule fails -/

/-- Whether a call ended by the failure of a rule. -/
def isCrash : Except Fault Unit → Bool
  | .error (.crash ..) => true
  | _ => false

/-- What is known about the rules, by their ids. -/
def infosOf (registry : Registry) : Assoc String RuleInfo := registry.map fun e => (e.1, e.2.info)

/-- Of rules in turn, those that are on at a path, up to one that has no options there. -/
def startedOf (config : Option Config) (registry : Registry) (path : String) : List RuleInfo → List RuleInfo
  | [] => []
  | i :: rest =>
    if Resolver.decidedSeverity config registry i.id path = .off then startedOf config registry path rest
    else i :: match Resolver.decidedOptions config registry i.id path with
      | .ok _ => startedOf config registry path rest
      | .error _ => []

/-- The rules of a category that a call at a path comes to if no rule fails. -/
def enabledAt (config : Option Config) (registry : Registry) (category : Category) (path : String) :
    List RuleInfo :=
  match Resolver.faultAt config registry path with
  | none => startedOf config registry path ((registry.ofCategory category).map Rule.info)
  | some _ => []

section Failing

variable {config : Option Config} {registry : Registry}

/-- Rules none of which fails are run as far as they are on and have options. -/
theorem invokedOf_of_not_crash {host : Host} {path content : String} :
    ∀ {rules : List Rule} {shared : Shared content},
      isCrash (reportsOf config registry host path content rules shared).2 = false →
        invokedOf config registry host path content rules shared =
          startedOf config registry path (rules.map Rule.info)
  | [], _, _ => rfl
  | rule :: rest, shared, h => by
    rw [reportsOf] at h
    rw [invokedOf, List.map_cons, startedOf]
    by_cases hoff : Resolver.decidedSeverity config registry rule.info.id path = .off
    · rw [if_pos hoff] at h ⊢
      rw [if_pos hoff]
      exact invokedOf_of_not_crash h
    · rw [if_neg hoff] at h ⊢
      rw [if_neg hoff]
      rw [decidedRun] at h ⊢
      cases hoptions : Resolver.decidedOptions config registry rule.info.id path with
      | error e => rfl
      | ok options =>
        rw [hoptions] at h
        dsimp only at h ⊢
        cases hrun : rule.runOn ⟨rule.info.id, path, content, options, host⟩ shared with
        | mk end_ trace =>
          rw [hrun] at h
          cases end_ with
          | error e => exact absurd h Bool.noConfusion
          | ok _ => exact congrArg (rule.info :: ·) (invokedOf_of_not_crash h)

/-- **A call in which no rule fails** comes to all rules of its category that are on at its path, up to one that
has no options. -/
theorem Call.invoked_of_not_crash {c : Call} (h : isCrash (c.reports config registry).2 = false) :
    c.invoked config registry = enabledAt config registry c.category c.path := by
  rw [Call.reports] at h
  rw [Call.invoked, enabledAt]
  cases href : Resolver.faultAt config registry c.path with
  | some e => rfl
  | none =>
    rw [href] at h
    exact invokedOf_of_not_crash h

theorem info?_eq (registry : Registry) (id : String) :
    registry.info? id = Assoc.get? id (infosOf registry) := by
  rw [Registry.info?]
  induction registry with
  | nil => rfl
  | cons e registry ih =>
    rw [infosOf, List.map_cons, Assoc.get?_cons, Assoc.get?_cons]
    split
    · rfl
    · exact ih

theorem infos_ofCategory (registry : Registry) (category : Category) :
    (registry.ofCategory category).map Rule.info =
      (infosOf registry).vals.filter fun i => i.category = category := by
  simp [Registry.ofCategory, Registry.rules, infosOf, Assoc.vals, List.filter_map, Function.comp_def]

/-- What is on at a path is a matter of what is known about the rules. -/
theorem enabledAt_congr {registry' : Registry} (h : infosOf registry' = infosOf registry) :
    enabledAt config registry' = enabledAt config registry := by
  have hinfo : registry'.info? = registry.info? := by
    funext id
    rw [info?_eq, info?_eq, h]
  have hdefaults : registry'.defaultOptions = registry.defaultOptions := by
    funext rule
    rw [Registry.defaultOptions, Registry.defaultOptions, hinfo]
  have hoptions : Resolver.settingOptions registry' = Resolver.settingOptions registry := by
    funext rule s
    rw [Resolver.settingOptions, Resolver.settingOptions, hinfo, hdefaults]
  have hdefault : Resolver.defaultSeverity registry' = Resolver.defaultSeverity registry := by
    funext rule
    rw [Resolver.defaultSeverity, Resolver.defaultSeverity, hinfo]
  have hfault : Resolver.faultAt config registry' = Resolver.faultAt config registry := by
    funext path
    simp only [Resolver.faultAt, Resolver.settingFault, hoptions]
  have hdecided : Resolver.decidedSeverity config registry' =
      Resolver.decidedSeverity config registry := by
    funext rule path
    rw [Resolver.decidedSeverity, Resolver.decidedSeverity, hdefault]
  have hdecidedOptions : Resolver.decidedOptions config registry' =
      Resolver.decidedOptions config registry := by
    funext rule path
    rw [Resolver.decidedOptions, Resolver.decidedOptions, hoptions, hdefaults]
  have hstarted : startedOf config registry' = startedOf config registry := by
    funext path is
    induction is with
    | nil => rfl
    | cons i is ih => rw [startedOf, startedOf, ih, hdecided, hdecidedOptions]
  funext category path
  simp only [enabledAt, infos_ofCategory, h, hfault, hstarted]

theorem flatMap_invoked_of_not_crash {calls : List Call}
    (h : ∀ c ∈ calls, isCrash (c.reports config registry).2 = false) :
    calls.flatMap (Call.invoked config registry) =
      (calls.map fun c => (c.category, c.path)).flatMap fun x =>
        enabledAt config registry x.1 x.2 := by
  rw [List.flatMap_map]
  exact List.flatMap_congr fun c hcall => Call.invoked_of_not_crash (h c hcall)

end Failing

/-! ## 5. The outcome -/

/-- The usages that some calls leave in the outcome. -/
theorem usages_of_calls {config : Option Config} {registry : Registry}
    (hc : ∀ c, config = some c → c.Compiles) {start : Runner}
    (hstart : Entered config registry [] start) (hfresh : start.deprecated = [])
    (hstaged : start.staged = []) (calls : List Call) :
    ∃ o, (start.runCalls calls).1.outcome.2 = .ok o ∧
      o.deprecated = Usage.ofInfos (calls.flatMap (Call.invoked config registry)) := by
  obtain ⟨r, hr, hkept, hruns⟩ := runCalls_spec hc calls hstart
  have htakes := takes_runCalls hc hstart.sound hstart.registry_eq calls
  rw [hruns] at htakes ⊢
  rw [hstaged, List.nil_append, List.nil_append, flatMap_issues] at hkept
  obtain ⟨res, -, hask⟩ := ask_eq (answers_classify hc (keptReports config registry calls calls)
    fun x hx => faultAt_of_mem_keptReports hx) hr.sound
  rw [← hkept, ← hr.registry_eq] at hask
  refine ⟨_, outcome_eq hask, ?_⟩
  show usages r.deprecated = _
  rw [htakes.deprecated, hfresh, usages_foldl_noted]
  simp [usages, Assoc.keys]

/-- **Deprecated rules are listed exactly.**  After any calls, the outcome lists the rules that took part
and are deprecated, each id once and in the order in which it first took part: an id is listed exactly if
some call came to run a deprecated rule of that id.  Two runs of the same categories at the same paths in which
no rule fails have the same list, whatever their rules do and whatever their texts hold. -/
theorem deprecated_of_calls (config : Option Config) (registry : Registry)
    (diagnostics : Option Diagnostics) (reportUnused : Bool)
    (hc : ∀ c, config = some c → c.Compiles) (calls : List Call) :
    let start (registry : Registry) : Runner :=
      { registry, resolver := { config, registry, diagnostics }, reportUnused }
    ∃ o, ((start registry).runCalls calls).1.outcome.2 = .ok o ∧
      o.deprecated = Usage.ofInfos (calls.flatMap (Call.invoked config registry)) ∧
      (o.deprecated.map Usage.rule).Nodup ∧
      (∀ id, id ∈ o.deprecated.map Usage.rule ↔
        ∃ c ∈ calls, ∃ i ∈ c.invoked config registry, i.id = id ∧ i.deprecation ≠ none) ∧
      ∀ (registry' : Registry) (calls' : List Call), infosOf registry' = infosOf registry →
        (calls'.map fun c => (c.category, c.path)) = (calls.map fun c => (c.category, c.path)) →
        (∀ c ∈ calls, isCrash (c.reports config registry).2 = false) →
        (∀ c ∈ calls', isCrash (c.reports config registry').2 = false) →
        ∃ o', ((start registry').runCalls calls').1.outcome.2 = .ok o' ∧
          o'.deprecated = o.deprecated := by
  intro start
  have hrun : ∀ (registry : Registry) (calls : List Call),
      ∃ o, ((start registry).runCalls calls).1.outcome.2 = .ok o ∧
        o.deprecated = Usage.ofInfos (calls.flatMap (Call.invoked config registry)) :=
    fun registry calls => usages_of_calls hc
      ⟨Resolver.sound_fresh config registry diagnostics, rfl, fun _ => rfl⟩ rfl rfl calls
  obtain ⟨o, ho, hdep⟩ := hrun registry calls
  refine ⟨o, ho, hdep, ?_, ?_, ?_⟩
  · rw [hdep]
    exact Usage.nodup_ofInfos _
  · intro id
    rw [hdep, Usage.mem_rules_ofInfos]
    constructor
    · rintro ⟨i, hi, hid⟩
      obtain ⟨c, hcall, hin⟩ := List.mem_flatMap.mp hi
      exact ⟨c, hcall, i, hin, hid⟩
    · rintro ⟨c, hcall, i, hin, hid⟩
      exact ⟨i, List.mem_flatMap.mpr ⟨c, hcall, hin⟩, hid⟩
  · intro registry' calls' hinfos hplaces hends hends'
    obtain ⟨o', ho', hdep'⟩ := hrun registry' calls'
    refine ⟨o', ho', ?_⟩
    rw [hdep', hdep, flatMap_invoked_of_not_crash hends, flatMap_invoked_of_not_crash hends', hplaces,
      enabledAt_congr hinfos]

/-- Two deprecated rules, the first of which fails and is off below `docs`: below `docs` the second one
takes part, elsewhere the first one.  Where both are mute, another run in which they report and a
directive covers them lists the same. -/
theorem deprecated_of_failing_probe :
    let info (id : String) : RuleInfo := {
      id, name := id, description := "Probes.", category := .claudeMd
      deprecation := some { reason := "old" } }
    let rules (check : (c : Context) → Check c.content Unit) : Registry :=
      [("first", ⟨info "first", check⟩), ("second", ⟨info "second", check⟩)]
    let failing := rules fun _ => throw (.raised "no more")
    let mute := rules fun _ => pure ()
    let loud := rules fun _ => Check.report { message := "seen", line := some 1 }
    let c : Config := { overrides := [⟨["docs/**"], [("first", ⟨.off, none⟩)]⟩] }
    let host : Host := ⟨[], [], "/", [], 0⟩
    let calls (content : String) : List Call := [⟨host, .claudeMd, "docs/CLAUDE.md", content⟩,
      ⟨host, .claudeMd, "CLAUDE.md", content⟩]
    let start (registry : Registry) : Runner :=
      { registry, resolver := { config := some c, registry, diagnostics := none } }
    c.Compiles ∧
      (∃ o, ((start failing).runCalls (calls "text")).1.outcome.2 = .ok o ∧
        o.deprecated.map Usage.rule = ["second", "first"]) ∧
      ∃ o o', ((start mute).runCalls (calls "text")).1.outcome.2 = .ok o ∧
        ((start loud).runCalls (calls "<!-- lintloom-disable-file -->")).1.outcome.2 = .ok o' ∧
        o'.deprecated = o.deprecated := by
  intro info rules failing mute loud c host calls start
  have hc : c.Compiles := Config.compiles_of_plain rfl (by decide +kernel)
  have hc' : ∀ d, some c = some d → d.Compiles := fun _ hs => Option.some.inj hs ▸ hc
  refine ⟨hc, ?_, ?_⟩
  · obtain ⟨o, ho, hdep, -⟩ := deprecated_of_calls (some c) failing none true hc' (calls "text")
    refine ⟨o, ho, ?_⟩
    rw [hdep]
    decide +kernel
  · obtain ⟨o, ho, -, -, -, hsame⟩ := deprecated_of_calls (some c) mute none true hc' (calls "text")
    obtain ⟨o', ho', hdep⟩ := hsame loud (calls "<!-- lintloom-disable-file -->") rfl rfl
      (by decide +kernel) (by decide +kernel)
    exact ⟨o, o', ho, ho', hdep⟩

/-- A deprecated rule that is on, with no rule before it that fails, and that is not listed: options of
another rule with which its model fails end the call at the question whether its first rule is on. -/
theorem unreadable_options_hide_deprecation :
    let probe : Rule := {
      info := { id := "probe", name := "probe", description := "", category := .claudeMd,
                deprecation := some { reason := "old" } }
      check := fun _ => pure () }
    let registry : Registry := Builtin.registry ++ [("probe", probe)]
    let c : Config := {
      rules := [("mcp-invalid-env-var",
        ⟨.warn, some [(.text "pattern", .text "a\x7b4294967295\x7d")]⟩)] }
    let host : Host := ⟨[], [], "/", [], 0⟩
    let start : Runner := { registry, resolver :=
      { config := some c, registry, diagnostics := none } }
    let r := start.runCalls [⟨host, .claudeMd, "x.md", "hello"⟩]
    Resolver.decidedSeverity (some c) registry "probe" "x.md" = .error ∧
      probe.info.id ∈ (invokedOf (some c) registry host "x.md" "hello"
        (registry.ofCategory .claudeMd) .fresh).map RuleInfo.id ∧
      r.2.map isCrash = [false] ∧
      (match r.1.outcome.2 with
        | .ok o => some (o.deprecated.map Usage.rule)
        | .error _ => none) = some [] := by
  decide +kernel

end Runner

end AgentLint
