import AgentLint.Proofs.Glob
import AgentLint.Proofs.Resolver.Memory
import AgentLint.Rule.Builtin

/-!
# The layer that decides

Severity and options of a rule at a path come from one layer: the last override that concerns the
path and mentions the rule, else the base.  If no layer mentions the rule, both come from the registry.
`answers_by_deciding_layer` says so of a resolver after any earlier requests, whatever the models of the
rules are.

One thing can get in the way.  A model may fail instead of complaining, as the one of a regular expression
does for some (`Regex.CauseKind.isFatal`), and a model without default options fails where these are
needed.  Then every question about every rule at the path ends with that fault, although the answer to
most of them has nothing to do with it.  `faultAt` tells exactly when this is so.
-/

namespace AgentLint

/-! ## 1. Overrides that concern a path -/

/-- Every pattern of the overrides can be made ready. -/
def Config.Compiles (c : Config) : Prop :=
  ∀ o ∈ c.overrides, ∀ p ∈ o.files, ∃ g, Glob.compile p = .ok g

/-- One pattern without character classes can be made ready. -/
theorem Config.compiles_of_plain {c : Config} {p : String} {rules : Assoc String RuleSetting}
    (hone : c.overrides = [⟨[p], rules⟩])
    (hplain : (Glob.pieces (Path.normal p).toList).any Glob.Piece.isClass = false) : c.Compiles := by
  intro o ho q hq
  rw [hone, List.mem_singleton] at ho
  rw [ho, List.mem_singleton] at hq
  rw [hq]
  exact Glob.exists_compile_of_plain hplain

/-- Whether one of the patterns of an override matches a path. -/
def Override.concerns (o : Override) (path : String) : Bool :=
  o.files.any fun p => (Glob.glob path p).toOption == some true

theorem Override.concerns_normal (o : Override) (path : String) :
    o.concerns (Path.normal path) = o.concerns path := by
  simp only [concerns, Glob.glob_normal]

namespace Resolver

/-! ## 2. The deciding layer -/

/-- The layers that concern a path: the base, then the overrides in the order of their declaration. -/
def layersFor (config : Option Config) (path : String) : List (Layer × RuleSettings) :=
  match config with
  | none => []
  | some c => (.base, c.rules) ::
      (c.overrides.zipIdx.filter fun x => x.1.concerns path).map fun x => (.block x.2, x.1.rules)

/-- The last layer at a path that mentions a rule, and its setting there. -/
def deciding (config : Option Config) (rule path : String) : Option (Layer × RuleSetting) :=
  (mentions rule (layersFor config path)).getLast?

/-- The options that a setting stands for: what the rule's model makes of them, or all of them if
there is no model; the rule's own if there are none or the model refuses them. -/
def settingOptions (registry : Registry) (rule : String) (s : RuleSetting) : Except Fault Entries :=
  match s.options, (registry.info? rule).bind RuleInfo.options with
  | none, _ => registry.defaultOptions rule
  | some os, none => .ok os
  | some os, some model =>
    match model.check os with
    | .ok (.ok read) => .ok read
    | .ok (.error _) => registry.defaultOptions rule
    | .error f => .error f

/-- The fault that keeps a setting from having options, if there is one. -/
def settingFault (registry : Registry) (rule : String) (s : RuleSetting) : Option Fault :=
  match settingOptions registry rule s with
  | .error f => some f
  | .ok _ => none

/-- The severity of a rule at a path. -/
def decidedSeverity (config : Option Config) (registry : Registry) (rule path : String) : Severity :=
  match deciding config rule path with
  | some (_, s) => s.severity
  | none => defaultSeverity registry rule

/-- The options of a rule at a path. -/
def decidedOptions (config : Option Config) (registry : Registry) (rule path : String) :
    Except Fault Entries :=
  match deciding config rule path with
  | some (_, s) => settingOptions registry rule s
  | none => registry.defaultOptions rule

/-- The first fault among the settings of the rules that the layers of a path mention. -/
def faultAt (config : Option Config) (registry : Registry) (path : String) : Option Fault :=
  ((layersFor config path).flatMap fun l => Assoc.keys l.2).findSome? fun rule =>
    (deciding config rule path).bind fun d => settingFault registry rule d.2

/-! ## 3. Layers without refused patterns -/

theorem blocksAt_of_compiles (path : String) :
    ∀ (os : List Override) (index : Nat), (∀ o ∈ os, ∀ p ∈ o.files, ∃ g, Glob.compile p = .ok g) →
      blocksAt path index os = .ok (((os.zipIdx index).filter fun x => x.1.concerns path).map
        fun x => (.block x.2, x.1.rules))
  | [], _, _ => rfl
  | o :: os, index, h => by
    have hhit : Glob.globAny path o.files = .ok (o.concerns path) :=
      Glob.globAny_of_compile (h o List.mem_cons_self)
    have hrest := blocksAt_of_compiles path os (index + 1) fun o' ho' => h o' (List.mem_cons_of_mem _ ho')
    rw [blocksAt, hhit, hrest, List.zipIdx_cons, List.filter_cons]
    cases o.concerns path <;> rfl

theorem layersAt_of_compiles {config : Option Config} (h : ∀ c, config = some c → c.Compiles)
    (path : String) : layersAt config (Path.normal path) = .ok (layersFor config path) := by
  cases config with
  | none => rfl
  | some c =>
    have hb := blocksAt_of_compiles (Path.normal path) c.overrides 0 (h c rfl)
    simp only [layersAt, hb, layersFor, Override.concerns_normal]
    rfl

/-! ## 4. Reading the winners -/

theorem settingFault_eq_none_iff {registry : Registry} {rule : String} {s : RuleSetting} :
    settingFault registry rule s = none ↔ ∃ os, settingOptions registry rule s = .ok os := by
  unfold settingFault
  cases settingOptions registry rule s <;> simp

theorem readSetting_eq (registry : Registry) (rule : String) (s : RuleSetting) :
    readSetting registry rule s = (settingOptions registry rule s).map fun os => ⟨s.severity, os⟩ := by
  unfold readSetting settingOptions readOptions
  cases s.options with
  | none => rfl
  | some os =>
    cases (registry.info? rule).bind RuleInfo.options with
    | none => rfl
    | some model =>
      cases hc : model.check os with
      | error e => simp [hc, Except.map, bind, Except.bind]
      | ok c => cases c <;> simp [hc, Except.map, Except.toOption, bind, Except.bind, Registry.optionsOrDefault]

/-- Reading all winners ends with the first fault, or gives each its severity and options. -/
theorem readAll_eq_error_iff {registry : Registry} {f : Fault} :
    ∀ {ws : Assoc String (Layer × RuleSetting)}, readAll registry ws = .error f ↔
      (ws.findSome? fun w => settingFault registry w.1 w.2.2) = some f
  | [] => ⟨nofun, nofun⟩
  | (rule, layer, s) :: rest => by
    have hrest : readAll registry rest = .error f ↔ _ := readAll_eq_error_iff
    rw [readAll, readSetting_eq, List.findSome?_cons]
    unfold settingFault at hrest ⊢
    cases settingOptions registry rule s with
    | error e => exact ⟨fun h => by cases h; rfl, fun h => by cases h; rfl⟩
    | ok os =>
      show (readAll registry rest >>= _) = _ ↔ _
      cases hread : readAll registry rest with
      | error e => rwa [hread] at hrest
      | ok found => exact ⟨nofun, fun h => nomatch hread.symm.trans (hrest.mpr h)⟩

/-- What is read of a winner. -/
theorem get?_readAll {registry : Registry} (rule : String) :
    ∀ {ws : Assoc String (Layer × RuleSetting)} {found : Assoc String Resolved}, readAll registry ws = .ok found →
      (Assoc.get? rule ws = none ∧ Assoc.get? rule found = none) ∨
        ∃ d os, Assoc.get? rule ws = some d ∧ settingOptions registry rule d.2 = .ok os ∧
          Assoc.get? rule found = some ⟨d.2.severity, os⟩
  | [], found, h => by
    cases h
    exact .inl ⟨rfl, rfl⟩
  | (id, layer, s) :: rest, found, h => by
    rw [readAll, readSetting_eq] at h
    obtain ⟨resolved, hresolved, h⟩ := bind_eq_ok_iff.mp h
    obtain ⟨others, hothers, h⟩ := bind_eq_ok_iff.mp h
    obtain ⟨os, hos, rfl⟩ := map_eq_ok_iff.mp hresolved
    cases h
    rw [Assoc.get?_cons, Assoc.get?_cons]
    by_cases hid : id = rule
    · subst hid
      rw [if_pos rfl, if_pos rfl]
      exact .inr ⟨(layer, s), os, rfl, hos, rfl⟩
    · rw [if_neg hid, if_neg hid]
      exact get?_readAll rule hothers

theorem findSome?_congr {α γ : Type} {f g : α → Option γ} :
    ∀ {l : List α}, (∀ x ∈ l, f x = g x) → l.findSome? f = l.findSome? g
  | [], _ => rfl
  | a :: l, h => by
    rw [List.findSome?_cons, List.findSome?_cons, h a List.mem_cons_self,
      findSome?_congr fun x hx => h x (List.mem_cons_of_mem a hx)]

/-- A search among the winners looks at each rule that is mentioned, with its last mention. -/
theorem findSome?_winners {γ : Type} (g : String → RuleSetting → Option γ)
    (layers : List (Layer × RuleSettings)) :
    (winners layers).findSome? (fun w => g w.1 w.2.2) =
      (layers.flatMap fun l => Assoc.keys l.2).findSome? fun rule =>
        (mentions rule layers).getLast?.bind fun d => g rule d.2 := by
  have hkeys : Assoc.keys (written layers) = layers.flatMap fun l => Assoc.keys l.2 := by
    simp [Assoc.keys, written, List.map_flatMap, Function.comp_def]
  have hentry : ∀ w ∈ winners layers, g w.1 w.2.2 =
      (mentions w.1 layers).getLast?.bind fun d => g w.1 d.2 := by
    rintro ⟨rule, layer, s⟩ hw
    rw [← get?_winners, Assoc.get?_of_mem (nodup_keys_winners layers) hw]
    rfl
  calc (winners layers).findSome? (fun w => g w.1 w.2.2)
      = (winners layers).findSome? fun w =>
          (mentions w.1 layers).getLast?.bind fun d => g w.1 d.2 := by
        exact findSome?_congr hentry
    _ = (Assoc.keys (winners layers)).findSome? fun rule =>
          (mentions rule layers).getLast?.bind fun d => g rule d.2 := by
        rw [Assoc.keys, List.findSome?_map]
        rfl
    _ = (layers.flatMap fun l => Assoc.keys l.2).findSome? fun rule =>
          (mentions rule layers).getLast?.bind fun d => g rule d.2 := by
        rw [winners_eq_putAll, Assoc.findSome?_keys_putAll, hkeys]
        rfl

/-! ## 5. Every answer

The two queries look a rule up in what is read of the winners; without refused patterns these come from
`layersFor`, so the look-up is `deciding`. -/

section Decided

variable {config : Option Config} {registry : Registry}

theorem resolveAfresh_eq (h : ∀ c, config = some c → c.Compiles) (path : String) :
    resolveAfresh config registry path = readAll registry (winners (layersFor config path)) := by
  rw [resolveAfresh, layersAt_of_compiles h path]
  rfl

variable (registry) in
/-- **The settings at a path** end with the first fault, or hold for each rule what its deciding layer says. -/
theorem resolveAfresh_cases (h : ∀ c, config = some c → c.Compiles) (path : String) :
    (∃ f, faultAt config registry path = some f ∧ resolveAfresh config registry path = .error f) ∨
      ∃ found, faultAt config registry path = none ∧ resolveAfresh config registry path = .ok found ∧
        ∀ rule, (deciding config rule path = none ∧ Assoc.get? rule found = none) ∨
          ∃ d os, deciding config rule path = some d ∧ settingOptions registry rule d.2 = .ok os ∧
            Assoc.get? rule found = some ⟨d.2.severity, os⟩ := by
  have hfind : ((winners (layersFor config path)).findSome? fun w => settingFault registry w.1 w.2.2)
      = faultAt config registry path := findSome?_winners (settingFault registry) _
  rw [resolveAfresh_eq h path, ← hfind]
  cases hread : readAll registry (winners (layersFor config path)) with
  | error f => exact .inl ⟨f, readAll_eq_error_iff.mp hread, rfl⟩
  | ok found =>
    refine .inr ⟨found, ?_, rfl, fun rule => ?_⟩
    · cases hfault : (winners (layersFor config path)).findSome? fun w => settingFault registry w.1 w.2.2 with
      | none => rfl
      | some f => exact nomatch hread.symm.trans (readAll_eq_error_iff.mpr hfault)
    · have hget := get?_readAll rule hread
      rwa [get?_winners] at hget

theorem severityAt_eq (h : ∀ c, config = some c → c.Compiles) (rule path : String) :
    severityAt config registry rule path =
      (faultAt config registry path).elim (.ok (decidedSeverity config registry rule path)) .error := by
  rw [severityAt, decidedSeverity]
  rcases resolveAfresh_cases registry h path with ⟨f, hf, hread⟩ | ⟨found, hf, hread, hfound⟩
  · rw [hf, hread]
    rfl
  · rw [hf, hread]
    rcases hfound rule with ⟨hd, hget⟩ | ⟨d, os, hd, -, hget⟩ <;> simp [Except.map, hd, hget]

theorem optionsAt_eq (h : ∀ c, config = some c → c.Compiles) (rule path : String) :
    optionsAt config registry rule path =
      (faultAt config registry path).elim (decidedOptions config registry rule path) .error := by
  rw [optionsAt, decidedOptions]
  rcases resolveAfresh_cases registry h path with ⟨f, hf, hread⟩ | ⟨found, hf, hread, hfound⟩
  · rw [hf, hread]
    rfl
  · rw [hf, hread]
    rcases hfound rule with ⟨hd, hget⟩ | ⟨d, os, hd, hos, hget⟩
    · simp [bind, Except.bind, hd, hget, Registry.optionsOrDefault]
    · simp [bind, Except.bind, hd, hget, hos, Registry.optionsOrDefault]

/-- A rule that a layer decides is mentioned there. -/
theorem mem_keys_of_deciding {rule path : String} {d : Layer × RuleSetting}
    (h : deciding config rule path = some d) :
    rule ∈ (layersFor config path).flatMap fun l => Assoc.keys l.2 := by
  obtain ⟨rules, hl, hlast⟩ := exists_of_getLast?_mentions h
  have hmem := List.mem_of_getLast? hlast
  obtain ⟨e, he, hse⟩ := List.mem_filterMap.mp hmem
  have hrule : e.1 = rule := by
    by_contra hne
    simp [hne] at hse
  refine List.mem_flatMap.mpr ⟨(d.1, rules), hl, ?_⟩
  exact List.mem_map.mpr ⟨e, he, hrule⟩

/-- There is no fault at a path exactly if all settings that count there have options. -/
theorem faultAt_eq_none_iff (path : String) :
    faultAt config registry path = none ↔
      ∀ rule d, deciding config rule path = some d → ∃ os, settingOptions registry rule d.2 = .ok os := by
  simp only [← settingFault_eq_none_iff]
  rw [faultAt, List.findSome?_eq_none_iff]
  constructor
  · intro h rule d hd
    have hrule := h rule (mem_keys_of_deciding hd)
    rwa [hd, Option.bind_some] at hrule
  · intro h rule _
    cases hd : deciding config rule path with
    | none => rfl
    | some d => exact h rule d hd

end Decided

/-! ## 6. After any requests -/

/-- What may be asked of a resolver. -/
inductive Request where
  /-- The severity of a rule at a path. -/
  | severity (rule path : String)
  /-- Whether a rule runs at a path. -/
  | enabled (rule path : String)
  /-- The options of a rule at a path. -/
  | options (rule path : String)
  /-- All settings at a path. -/
  | resolve (path : String)
  /-- To forget what was worked out. -/
  | forget

/-- The resolver after a request, whether or not it had an answer. -/
def Request.perform (r : Resolver) : Request → Resolver
  | .severity rule path => ((Resolver.severity rule path).run r).2
  | .enabled rule path => ((Resolver.enabled rule path).run r).2
  | .options rule path => ((Resolver.options rule path).run r).2
  | .resolve path => ((Resolver.resolve path).run r).2
  | .forget => r.forget

theorem Answers.sound {config : Option Config} {registry : Registry} {α : Type} {q : Query α}
    {a : Except Fault α} (h : Answers config registry q a) {r : Resolver}
    (hr : Sound config registry r) : (q.run r).1 = a ∧ Sound config registry (q.run r).2 := by
  obtain ⟨r', hrun, hr'⟩ := h r hr
  rw [hrun]
  exact ⟨rfl, hr'⟩

theorem Request.perform_sound {config : Option Config} {registry : Registry} {r : Resolver}
    (hr : Sound config registry r) (q : Request) : Sound config registry (q.perform r) := by
  cases q with
  | severity rule path => exact ((answers_severity rule path).sound hr).2
  | enabled rule path => exact ((answers_enabled rule path).sound hr).2
  | options rule path => exact ((answers_options rule path).sound hr).2
  | resolve path => exact ((answers_resolve path).sound hr).2
  | forget => exact hr.forget

/-- The resolver after some requests. -/
def after (r : Resolver) (requests : List Request) : Resolver := requests.foldl Request.perform r

theorem after_sound {config : Option Config} {registry : Registry} {r : Resolver}
    (hr : Sound config registry r) (requests : List Request) :
    Sound config registry (after r requests) := by
  induction requests generalizing r with
  | nil => exact hr
  | cons q qs ih => exact ih (q.perform_sound hr)

/-- **One layer decides, and earlier requests do not matter.**  If all settings that count at a path have
options, severity and options of every rule there are those of the last layer that mentions it, or those
of the registry if none does; a rule that no layer mentions may still have no options, and its severity
is told all the same.  If some setting that counts has none, every question about the path ends with the
first fault among them. -/
theorem answers_by_deciding_layer (config : Option Config) (registry : Registry)
    (diagnostics : Option Diagnostics) (h : ∀ c, config = some c → c.Compiles)
    (requests : List Request) (rule path : String) :
    ((severity rule path).run (after { config, registry, diagnostics } requests)).1 =
        (faultAt config registry path).elim (.ok (decidedSeverity config registry rule path)) .error ∧
      ((options rule path).run (after { config, registry, diagnostics } requests)).1 =
        (faultAt config registry path).elim (decidedOptions config registry rule path) .error ∧
      (faultAt config registry path = none ↔ ∀ rule' d, deciding config rule' path = some d →
        ∃ os, settingOptions registry rule' d.2 = .ok os) := by
  have hr := after_sound (sound_fresh config registry diagnostics) requests
  refine ⟨?_, ?_, faultAt_eq_none_iff path⟩
  · rw [((answers_severity rule path).sound hr).1, severityAt_eq h]
  · rw [((answers_options rule path).sound hr).1, optionsAt_eq h]

/-- The options of a rule with a limit above zero and a mode. -/
def limitOptions (limit : Int) (mode : String) : Entries := [(.text "limit", .int limit), (.text "mode", .text mode)]

/-- The model of these options: each may be left out, and others are refused. -/
def limitModel : OptionModel where
  check os :=
    let extra := os.filter fun e => !(e.1 matches .text "limit" | .text "mode")
    let refuse (name text : String) : Except Fault CheckedOptions := .ok (.error ⟨[⟨[name], text⟩], text⟩)
    match (Entries.get? "limit" os).getD (.int 10), (Entries.get? "mode" os).getD (.text "strict") with
    | .int limit, .text mode =>
      if limit ≤ 0 then refuse "limit" "Input should be greater than 0"
      else if extra.isEmpty then .ok (.ok (limitOptions limit mode))
      else refuse "extra" "Extra inputs are not permitted"
    | .int _, _ => refuse "mode" "Input should be a valid string"
    | _, _ => refuse "limit" "Input should be a valid integer"
  defaults := .ok (limitOptions 10 "strict")

/-- A registry with one rule, whose options are these. -/
def limitRegistry : Registry := Registry.empty.add
  { info := { id := "r", name := "r", description := "", category := .claudeMd, severity := .warn,
              options := some limitModel }
    check := fun _ => pure () }

theorem info?_limitRegistry {rule : String} (h : "r" ≠ rule) : limitRegistry.info? rule = none := by
  simp [limitRegistry, Registry.info?, Registry.add, Registry.empty, Assoc.get?_put, h]

/-- An override for `docs/**` decides below `docs`, whatever was asked and forgotten before: its limit stands, and the
mode is the one of the model, not that of the base, which decides elsewhere. -/
theorem override_decides_below_docs :
    let c : Config := {
      rules := [("r", ⟨.warn, some (limitOptions 3 "lax")⟩)]
      overrides := [⟨["docs/**"], [("r", ⟨.error, some [(.text "limit", .int 7)]⟩)]⟩] }
    let r := after { config := some c, registry := limitRegistry, diagnostics := none }
      [.severity "r" "CLAUDE.md", .forget, .options "other" "docs/CLAUDE.md"]
    c.Compiles ∧ ((severity "r" "docs/CLAUDE.md").run r).1 = .ok .error ∧
      ((options "r" "docs/CLAUDE.md").run r).1 = .ok (limitOptions 7 "strict") ∧
      ((options "r" "CLAUDE.md").run r).1 = .ok (limitOptions 3 "lax") := by
  intro c r
  have hc : c.Compiles := Config.compiles_of_plain rfl (by decide +kernel)
  have h := answers_by_deciding_layer (some c) limitRegistry none (fun _ hs => Option.some.inj hs ▸ hc)
    [.severity "r" "CLAUDE.md", .forget, .options "other" "docs/CLAUDE.md"] "r"
  exact ⟨hc, (h "docs/CLAUDE.md").1.trans rfl, (h "docs/CLAUDE.md").2.1.trans rfl, (h "CLAUDE.md").2.1.trans rfl⟩

/-- Options of one rule with which its model fails take the answer from another rule: the default severity of
`size-error` decides at `CLAUDE.md`, and the question ends with the refusal of a repetition. -/
theorem failing_model_ends_every_question :
    let c : Config := {
      rules := [("mcp-invalid-env-var",
        ⟨.warn, some [(.text "pattern", .text "a\x7b4294967295\x7d")]⟩)] }
    decidedSeverity (some c) Builtin.registry "size-error" "CLAUDE.md" = .error ∧
      ((severity "size-error" "CLAUDE.md").run
        { config := some c, registry := Builtin.registry, diagnostics := none }).1.mapError Fault.message =
          .error "the repetition number is too large" := by
  decide +kernel

end Resolver

end AgentLint
