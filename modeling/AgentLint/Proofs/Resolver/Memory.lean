import AgentLint.Proofs.Assoc
import AgentLint.Proofs.Sequencing
import AgentLint.Resolver

/-!
# What a resolver remembers does not show

A resolver keeps two tables: the settings per path, and per layer and rule what the options there
come to.  Every query of any path fills them.  This module gives the answer to each query without
tables (`resolveAfresh`, `severityAt`, `optionsAt`) and proves that a resolver gives that answer
whatever its tables have learned from earlier queries.

The invariant is `Sound`: each remembered entry is what would be worked out again.  `Answers q a` says
that a query gives `a` in every sound state and leaves a sound one.  It is closed under sequencing
(`Answers.bind`), so the proofs follow the queries line by line and no table is mentioned after
section 3.
-/

namespace AgentLint.Resolver

/-! ## 1. Queries without tables -/

/-- The settings that a list of layers holds for a rule, each with its layer, the deciding one last. -/
def mentions (rule : String) (layers : List (Layer × RuleSettings)) : List (Layer × RuleSetting) :=
  layers.flatMap fun l => (Assoc.valuesOf rule l.2).map fun s => (l.1, s)

/-- The settings of a layer of a configuration. -/
def rulesOf (config : Option Config) : Layer → RuleSettings
  | .base => (config.map Config.rules).getD []
  | .block i => ((config.bind fun c => c.overrides[i]?).map Override.rules).getD []

/-- What a setting comes to, its options read anew. -/
def readSetting (registry : Registry) (rule : String) (s : RuleSetting) :
    Except Fault Resolved :=
  let read := match s.options with
    | none => .ok none
    | some os => (readOptions registry rule os).map Except.toOption
  read >>= fun read => (registry.optionsOrDefault rule read).map fun os => ⟨s.severity, os⟩

/-- What all winners come to. -/
def readAll (registry : Registry) :
    Assoc String (Layer × RuleSetting) → Except Fault (Assoc String Resolved)
  | [] => .ok []
  | (rule, _, s) :: rest => do
    let resolved ← readSetting registry rule s
    return (rule, resolved) :: (← readAll registry rest)

/-- The settings at a path, worked out from the configuration alone. -/
def resolveAfresh (config : Option Config) (registry : Registry) (path : String) :
    Except Fault (Assoc String Resolved) := do
  readAll registry (winners (← (layersAt config (Path.normal path)).mapError .pattern))

/-- The severity of a rule at a path, worked out from the configuration alone. -/
def severityAt (config : Option Config) (registry : Registry) (rule path : String) :
    Except Fault Severity :=
  (resolveAfresh config registry path).map fun found =>
    match Assoc.get? rule found with
    | some s => s.severity
    | none => defaultSeverity registry rule

/-- The options of a rule at a path, worked out from the configuration alone. -/
def optionsAt (config : Option Config) (registry : Registry) (rule path : String) :
    Except Fault Entries :=
  resolveAfresh config registry path >>= fun found =>
    registry.optionsOrDefault rule ((Assoc.get? rule found).map Resolved.options)

/-! ## 2. Winners

`winners` writes the settings of all layers into one table, later ones over earlier ones.  What it
holds for a rule is therefore the last mention, and that is also the last one within its own layer. -/

/-- All settings of some layers, in the order in which they are written. -/
def written (layers : List (Layer × RuleSettings)) : Assoc String (Layer × RuleSetting) :=
  layers.flatMap fun l => l.2.map fun e => (e.1, l.1, e.2)

theorem winners_eq_putAll (layers : List (Layer × RuleSettings)) :
    winners layers = Assoc.putAll [] (written layers) := by
  have h : ∀ (ls : List (Layer × RuleSettings)) (acc : Assoc String (Layer × RuleSetting)),
      ls.foldl (fun acc l => l.2.foldl (fun acc e => Assoc.put e.1 (l.1, e.2) acc) acc) acc
        = Assoc.putAll acc (written ls) := by
    intro ls
    induction ls with
    | nil => intro acc; rfl
    | cons l ls ih =>
      intro acc
      have hw : written (l :: ls) = (l.2.map fun e => (e.1, l.1, e.2)) ++ written ls := rfl
      rw [List.foldl_cons, ih, hw, Assoc.putAll_append]
      simp [Assoc.putAll, List.foldl_map]
  exact h layers []

theorem valuesOf_written (rule : String) (layers : List (Layer × RuleSettings)) :
    Assoc.valuesOf rule (written layers) = mentions rule layers := by
  simp only [Assoc.valuesOf, written, mentions, List.filterMap_flatMap, List.filterMap_map]
  congr 1
  funext l
  rw [List.map_filterMap]
  congr 1
  funext e
  by_cases h : e.1 = rule <;> simp [h]

/-- **The last mention of a rule wins.** -/
theorem get?_winners (rule : String) (layers : List (Layer × RuleSettings)) :
    Assoc.get? rule (winners layers) = (mentions rule layers).getLast? := by
  rw [winners_eq_putAll, Assoc.get?_putAll, valuesOf_written]
  simp

theorem nodup_keys_winners (layers : List (Layer × RuleSettings)) :
    (Assoc.keys (winners layers)).Nodup := by
  rw [winners_eq_putAll]
  exact Assoc.nodup_keys_putAll (by simp [Assoc.keys]) _

/-- The last of all mentions is the last one of some layer. -/
theorem exists_of_getLast?_mentions {rule : String} {layers : List (Layer × RuleSettings)}
    {layer : Layer} {s : RuleSetting} (h : (mentions rule layers).getLast? = some (layer, s)) :
    ∃ rules, (layer, rules) ∈ layers ∧ (Assoc.valuesOf rule rules).getLast? = some s := by
  induction layers with
  | nil => simp [mentions] at h
  | cons l ls ih =>
    have hm : mentions rule (l :: ls)
        = ((Assoc.valuesOf rule l.2).map fun s => (l.1, s)) ++ mentions rule ls := rfl
    rw [hm, List.getLast?_append] at h
    cases hl : (mentions rule ls).getLast? with
    | some d =>
      rw [hl, Option.some_or] at h
      obtain ⟨rules, hmem, hlast⟩ := ih (hl.trans h)
      exact ⟨rules, List.mem_cons_of_mem _ hmem, hlast⟩
    | none =>
      rw [hl, Option.none_or, List.getLast?_map, Option.map_eq_some_iff] at h
      obtain ⟨s', hs', heq⟩ := h
      obtain ⟨rfl, rfl⟩ := Prod.mk.inj heq
      exact ⟨l.2, List.mem_cons_self, hs'⟩

/-! ## 3. Layers of a configuration -/

theorem rules_of_mem_blocksAt {path : String} :
    ∀ {os : List Override} {index : Nat} {bs : List (Layer × RuleSettings)},
      blocksAt path index os = .ok bs → ∀ {layer rules}, (layer, rules) ∈ bs →
        ∃ i o, layer = .block (index + i) ∧ os[i]? = some o ∧ rules = o.rules
  | [], index, bs, h, layer, rules, hmem => by
    rw [blocksAt, Except.ok.injEq] at h
    subst h
    simp at hmem
  | o :: os, index, bs, h, layer, rules, hmem => by
    cases hhit : Glob.globAny path o.files with
    | error e => simp [blocksAt, hhit, bind, Except.bind] at h
    | ok hit =>
      cases hrest : blocksAt path (index + 1) os with
      | error e => simp [blocksAt, hhit, hrest, bind, Except.bind] at h
      | ok rest =>
        simp only [blocksAt, hhit, hrest, bind, Except.bind, pure, Except.pure,
          Except.ok.injEq] at h
        subst h
        have hlater : (layer, rules) ∈ rest →
            ∃ i o', layer = .block (index + i) ∧ (o :: os)[i]? = some o' ∧ rules = o'.rules := by
          intro hin
          obtain ⟨i, o', rfl, ho', rfl⟩ := rules_of_mem_blocksAt hrest hin
          exact ⟨i + 1, o', by rw [Nat.add_right_comm, Nat.add_assoc], by simpa using ho', rfl⟩
        cases hit with
        | false => exact hlater (by simpa using hmem)
        | true =>
          rw [if_pos rfl] at hmem
          rcases List.mem_cons.mp hmem with heq | hin
          · obtain ⟨rfl, rfl⟩ := Prod.mk.inj heq
            exact ⟨0, o, by simp, by simp, rfl⟩
          · exact hlater hin

/-- A layer at a path holds the settings that the configuration has there. -/
theorem rules_of_mem_layersAt {config : Option Config} {path : String}
    {layers : List (Layer × RuleSettings)} (h : layersAt config path = .ok layers) {layer : Layer}
    {rules : RuleSettings} (hmem : (layer, rules) ∈ layers) : rules = rulesOf config layer := by
  cases config with
  | none =>
    rw [layersAt, Except.ok.injEq] at h
    subst h
    simp at hmem
  | some c =>
    cases hb : blocksAt path 0 c.overrides with
    | error e => simp [layersAt, hb, Except.map] at h
    | ok bs =>
      simp only [layersAt, hb, Except.map, Except.ok.injEq] at h
      subst h
      rcases List.mem_cons.mp hmem with heq | hin
      · obtain ⟨rfl, rfl⟩ := Prod.mk.inj heq
        rfl
      · obtain ⟨i, o, rfl, ho, rfl⟩ := rules_of_mem_blocksAt hb hin
        simp [rulesOf, ho]

/-- A winner at a path is what its layer says, whichever path it is. -/
theorem setting_of_mem_winners {config : Option Config} {path : String}
    {layers : List (Layer × RuleSettings)} (h : layersAt config path = .ok layers) {rule : String}
    {layer : Layer} {s : RuleSetting} (hmem : (rule, layer, s) ∈ winners layers) :
    (Assoc.valuesOf rule (rulesOf config layer)).getLast? = some s := by
  have hget := Assoc.get?_of_mem (nodup_keys_winners layers) hmem
  rw [get?_winners] at hget
  obtain ⟨rules, hin, hlast⟩ := exists_of_getLast?_mentions hget
  rw [← rules_of_mem_layersAt h hin]
  exact hlast

/-! ## 4. Sound states -/

section Sound

variable {config : Option Config} {registry : Registry} {α β : Type}

/-- A state whose tables hold nothing but what would be worked out again. -/
structure Sound (config : Option Config) (registry : Registry) (r : Resolver) : Prop where
  config_eq : r.config = config
  registry_eq : r.registry = registry
  known : ∀ path found, Assoc.get? (Path.normal path) r.known = some found →
    resolveAfresh config registry path = .ok found
  checked : ∀ layer rule read, Assoc.get? (layer, rule) r.checked = some read →
    ∀ s os, (Assoc.valuesOf rule (rulesOf config layer)).getLast? = some s → s.options = some os →
      ∃ c, readOptions registry rule os = .ok c ∧ read = c.toOption

/-- A resolver that was asked nothing is sound. -/
theorem sound_fresh (config : Option Config) (registry : Registry)
    (diagnostics : Option Diagnostics) :
    Sound config registry { config, registry, diagnostics } :=
  ⟨rfl, rfl, by simp, by simp⟩

/-- Forgetting keeps a resolver sound. -/
theorem Sound.forget {r : Resolver} (h : Sound config registry r) :
    Sound config registry r.forget :=
  ⟨h.config_eq, h.registry_eq, by simp [Resolver.forget], by simp [Resolver.forget]⟩

/-- Reports of refused options do not matter. -/
theorem Sound.reportRefused {r : Resolver} (h : Sound config registry r) (rule : String)
    (why : OptionRefusal) : Sound config registry (r.reportRefused rule why) :=
  ⟨h.config_eq, h.registry_eq, h.known, h.checked⟩

/-- Noting what the options of a rule in a layer come to keeps a resolver sound. -/
theorem Sound.noteChecked {r : Resolver} (h : Sound config registry r) {layer : Layer}
    {rule : String} {s : RuleSetting} {os : Entries} {c : CheckedOptions}
    (hs : (Assoc.valuesOf rule (rulesOf config layer)).getLast? = some s) (hos : s.options = some os)
    (hread : readOptions registry rule os = .ok c) :
    Sound config registry (r.noteChecked layer rule c.toOption) := by
  refine ⟨h.config_eq, h.registry_eq, h.known, ?_⟩
  intro layer' rule' read' hget s' os' hs' hos'
  rw [Resolver.noteChecked, Assoc.get?_put] at hget
  split at hget
  · rename_i hkey
    obtain ⟨rfl, rfl⟩ := Prod.mk.inj hkey
    have hss : s' = s := Option.some.inj (hs'.symm.trans hs)
    subst hss
    have hoo : os' = os := Option.some.inj (hos'.symm.trans hos)
    subst hoo
    exact ⟨c, hread, (Option.some.inj hget).symm⟩
  · exact h.checked layer' rule' read' hget s' os' hs' hos'

/-- Noting the settings of a path keeps a resolver sound. -/
theorem Sound.noteKnown {r : Resolver} (h : Sound config registry r) {path : String}
    {found : Assoc String Resolved} (hfound : resolveAfresh config registry path = .ok found) :
    Sound config registry { r with known := Assoc.put (Path.normal path) found r.known } := by
  refine ⟨h.config_eq, h.registry_eq, ?_, h.checked⟩
  intro path' found' hget
  rw [Assoc.get?_put] at hget
  split at hget
  · rename_i hkey
    rw [← Option.some.inj hget, ← hfound]
    simp only [resolveAfresh, hkey]
  · exact h.known path' found' hget

/-! ## 5. Answers -/

/-- A query gives this answer in every sound state, and leaves a sound one. -/
def Answers (config : Option Config) (registry : Registry) (q : Query α)
    (a : Except Fault α) : Prop :=
  ∀ r, Sound config registry r → ∃ r', q.run r = (a, r') ∧ Sound config registry r'

theorem Answers.pure (a : α) : Answers config registry (Pure.pure a : Query α) (.ok a) :=
  fun r h => ⟨r, rfl, h⟩

/-- **Answers in sequence.**  The second query is asked only if the first one has an answer. -/
theorem Answers.bind {q : Query α} {k : α → Query β} {a : Except Fault α}
    {b : α → Except Fault β} (hq : Answers config registry q a)
    (hk : ∀ x, a = .ok x → Answers config registry (k x) (b x)) :
    Answers config registry (q >>= k) (a >>= b) := by
  intro r hr
  obtain ⟨r₁, hrun, hr₁⟩ := hq r hr
  cases a with
  | error e =>
    refine ⟨r₁, ?_, hr₁⟩
    show (ExceptT.run (q >>= k)).run r = _
    have hrun' : (ExceptT.run q).run r = (.error e, r₁) := hrun
    simp only [ExceptT.run_bind, StateT.run_bind, hrun']
    rfl
  | ok x =>
    obtain ⟨r₂, hrun₂, hr₂⟩ := hk x rfl r₁ hr₁
    refine ⟨r₂, ?_, hr₂⟩
    show (ExceptT.run (q >>= k)).run r = _
    have hrun' : (ExceptT.run q).run r = (.ok x, r₁) := hrun
    simp only [ExceptT.run_bind, StateT.run_bind, hrun']
    exact hrun₂

theorem Answers.ofExcept (a : Except Fault α) :
    Answers config registry (MonadExcept.ofExcept a : Query α) a := by
  intro r h
  cases a <;> exact ⟨r, rfl, h⟩

/-- What is made of an answer. -/
theorem Answers.map {q : Query α} {a : Except Fault α} (hq : Answers config registry q a) (f : α → β) :
    Answers config registry (do return f (← q)) (a.map f) := by
  have h := hq.bind fun x _ => Answers.pure (f x)
  cases a <;> exact h

/-- A question about the configuration or the registry of the resolver. -/
theorem Answers.get_bind {k : Resolver → Query α} {a : Except Fault α}
    (h : ∀ r, Sound config registry r → ∃ r', (k r).run r = (a, r') ∧ Sound config registry r') :
    Answers config registry (get >>= k) a := h

/-! ## 6. The queries -/

/-- The options of a rule in a layer are what reading them gives. -/
theorem answers_optionsIn {layer : Layer} {rule : String} {s : RuleSetting} {os : Entries}
    (hs : (Assoc.valuesOf rule (rulesOf config layer)).getLast? = some s)
    (hos : s.options = some os) :
    Answers config registry (optionsIn layer rule os)
      ((readOptions registry rule os).map Except.toOption) := by
  refine Answers.get_bind fun r hr => ?_
  cases hget : Assoc.get? (layer, rule) r.checked with
  | some read =>
    obtain ⟨c, hc, rfl⟩ := hr.checked layer rule read hget s os hs hos
    exact ⟨r, by rw [hc]; rfl, hr⟩
  | none =>
    simp only [hr.registry_eq]
    cases hread : readOptions registry rule os with
    | error e => exact ⟨r, rfl, hr⟩
    | ok c =>
      cases c with
      | ok read => exact ⟨_, rfl, hr.noteChecked hs hos hread⟩
      | error cs => exact ⟨_, rfl, (hr.reportRefused rule cs).noteChecked hs hos hread⟩

/-- Options that are there, or those of a rule, if it has any. -/
theorem answers_orDefault (rule : String) (read : Option Entries) :
    Answers config registry (orDefault rule read) (registry.optionsOrDefault rule read) := by
  refine Answers.get_bind fun r hr => ?_
  rw [hr.registry_eq]
  exact Answers.ofExcept _ r hr

/-- The setting that a layer decides. -/
theorem answers_settle {layer : Layer} {rule : String} {s : RuleSetting}
    (hs : (Assoc.valuesOf rule (rulesOf config layer)).getLast? = some s) :
    Answers config registry (settle layer rule s) (readSetting registry rule s) := by
  have hlast : ∀ read : Option Entries, Answers config registry
      (do return ⟨s.severity, ← orDefault rule read⟩ : Query Resolved)
      ((registry.optionsOrDefault rule read).map fun os => ⟨s.severity, os⟩) := fun read =>
    (answers_orDefault rule read).map fun os => (⟨s.severity, os⟩ : Resolved)
  unfold settle readSetting
  cases hos : s.options with
  | none => exact (Answers.pure (none : Option Entries)).bind fun read _ => hlast read
  | some os => exact (answers_optionsIn hs hos).bind fun read _ => hlast read

/-- The settings of all winners. -/
theorem answers_settleAll :
    ∀ ws : Assoc String (Layer × RuleSetting),
      (∀ rule layer s, (rule, layer, s) ∈ ws →
        (Assoc.valuesOf rule (rulesOf config layer)).getLast? = some s) →
      Answers config registry (settleAll ws) (readAll registry ws)
  | [], _ => Answers.pure []
  | (rule, layer, s) :: rest, h => by
    have hhead := h rule layer s List.mem_cons_self
    have htail := answers_settleAll rest fun r l t ht => h r l t (List.mem_cons_of_mem _ ht)
    exact (answers_settle hhead).bind fun resolved _ =>
      htail.bind fun others _ => Answers.pure ((rule, resolved) :: others)

/-- **The settings at a path do not depend on what was asked before.** -/
theorem answers_resolve (path : String) :
    Answers config registry (resolve path) (resolveAfresh config registry path) := by
  refine Answers.get_bind fun r hr => ?_
  cases hget : Assoc.get? (Path.normal path) r.known with
  | some found =>
    rw [hr.known path found hget]
    exact ⟨r, rfl, hr⟩
  | none =>
    simp only [hr.config_eq]
    have hnote : ∀ found, resolveAfresh config registry path = .ok found →
        Answers config registry
          (do
            modify fun r => { r with known := Assoc.put (Path.normal path) found r.known }
            pure found : Query (Assoc String Resolved)) (.ok found) :=
      fun found hfound r hr => ⟨_, rfl, hr.noteKnown hfound⟩
    have heq : resolveAfresh config registry path
        = ((layersAt config (Path.normal path)).mapError Fault.pattern >>= fun layers =>
            readAll registry (winners layers) >>= fun found => .ok found) := by
      simp only [resolveAfresh]
      cases (layersAt config (Path.normal path)).mapError Fault.pattern with
      | error e => rfl
      | ok layers => cases hread : readAll registry (winners layers) <;> simp [hread, bind, Except.bind]
    have hlayers : Answers config registry
        (MonadExcept.ofExcept ((layersAt config (Path.normal path)).mapError Fault.pattern) : Query _)
        ((layersAt config (Path.normal path)).mapError Fault.pattern) := Answers.ofExcept _
    have hwork := hlayers.bind fun layers hl =>
      (answers_settleAll (winners layers) fun rule layer s hmem =>
        setting_of_mem_winners (mapError_eq_ok_iff.mp hl) hmem).bind fun found hfound =>
          hnote found (by rw [resolveAfresh, hl]; exact hfound)
    rw [heq]
    exact hwork r hr

/-- **The severity of a rule at a path does not depend on what was asked before.** -/
theorem answers_severity (rule path : String) :
    Answers config registry (severity rule path) (severityAt config registry rule path) := by
  have hlast : ∀ found : Assoc String Resolved, Answers config registry
      (match Assoc.get? rule found with
        | some s => pure s.severity
        | none => do return defaultSeverity (← get).registry rule : Query Severity)
      (.ok (match Assoc.get? rule found with
        | some s => s.severity
        | none => defaultSeverity registry rule)) := by
    intro found
    cases Assoc.get? rule found with
    | some s => exact Answers.pure s.severity
    | none =>
      refine Answers.get_bind fun r hr => ⟨r, ?_, hr⟩
      rw [hr.registry_eq]
      rfl
  have hfound : Answers config registry (resolve path) (resolveAfresh config registry path) :=
    answers_resolve path
  have h := hfound.bind fun found _ => hlast found
  cases hfresh : resolveAfresh config registry path with
  | error e => rw [hfresh] at h; rwa [severityAt, hfresh]
  | ok found => rw [hfresh] at h; rwa [severityAt, hfresh]

/-- **Neither do its options.** -/
theorem answers_options (rule path : String) :
    Answers config registry (options rule path) (optionsAt config registry rule path) :=
  (answers_resolve path).bind fun _ _ => answers_orDefault rule _

theorem answers_enabled (rule path : String) :
    Answers config registry (enabled rule path)
      ((severityAt config registry rule path).map fun s => decide (s ≠ .off)) :=
  (answers_severity rule path).map fun s => decide (s ≠ .off)

end Sound

end AgentLint.Resolver
