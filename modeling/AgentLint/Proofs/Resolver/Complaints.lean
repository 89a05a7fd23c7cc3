import AgentLint.Config.Validate
import AgentLint.Proofs.Resolver.Layering
import AgentLint.Proofs.Sequencing
import Mathlib.Data.List.Nodup

/-!
# Complaints about options

Options are read in two places.  A configuration is checked as a whole (`Config.warnings`), which reads
the options of every setting; a resolver reads the options of the settings that count at a path, and
reports those that are refused to a collector.  `diagnostics_of_requests` puts the two beside each other.

The argument has two halves.

* **Nothing is told twice, and memory hides nothing.**  What a resolver tells about a path is a list
  that depends on configuration and registry alone (`toldAt`).  It skips the telling where its tables
  answer, but then the collector has it already (`Logged`), and adding it once more would change
  nothing.  So after any requests the collector holds what was told about the paths asked for, without
  repetition (`diagnostics_after`).
* **What counts at a path is a setting of the configuration**, so whatever is told of has its warning
  there as well (`mem_settings_of_mem_winners`).

A model that fails stands in the way of both: the rules behind it are not told of (`Reached`), and the check
as a whole has no result (`Config.Readable`).  So do default options that are needed and cannot be told, but
only of the first.  Where a file pattern is refused, no layer decides anything and nothing is told.
-/

namespace AgentLint

/-! ## 1. Adding many diagnostics -/

namespace Diagnostics

/-- Adds diagnostics one after the other. -/
def addAll (ds xs : Diagnostics) : Diagnostics := xs.foldl add ds

@[simp] theorem addAll_nil (ds : Diagnostics) : ds.addAll [] = ds := rfl

theorem addAll_append (ds xs ys : Diagnostics) : ds.addAll (xs ++ ys) = (ds.addAll xs).addAll ys := by
  simp [addAll]

theorem mem_addAll {ds xs : Diagnostics} {d : Diagnostic} : d ∈ ds.addAll xs ↔ d ∈ ds ∨ d ∈ xs := by
  induction xs generalizing ds with
  | nil => simp
  | cons x xs ih =>
    show d ∈ (ds.add x).addAll xs ↔ _
    rw [ih, mem_add, List.mem_cons, or_assoc]

theorem nodup_addAll {ds : Diagnostics} (h : ds.Nodup) (xs : Diagnostics) : (ds.addAll xs).Nodup := by
  induction xs generalizing ds with
  | nil => exact h
  | cons x xs ih => exact ih (nodup_add h x)

/-- What is there already is not added. -/
theorem addAll_of_subset {ds xs : Diagnostics} (h : ∀ d ∈ xs, d ∈ ds) : ds.addAll xs = ds := by
  induction xs with
  | nil => rfl
  | cons x xs ih =>
    rw [List.forall_mem_cons] at h
    show (ds.add x).addAll xs = ds
    rw [add, if_pos h.1]
    exact ih h.2

end Diagnostics

namespace Resolver

/-! ## 2. What is told about a path -/

/-- The diagnostic about options that are refused. -/
def refusedWarning (rule : String) (why : OptionRefusal) : Diagnostic :=
  ⟨refusedText rule why, source, .warning, some invalidOptions⟩

/-- The diagnostic about the options of a setting, if they are refused. -/
def complaint? (registry : Registry) (rule : String) (s : RuleSetting) : Option Diagnostic :=
  s.options.bind fun os =>
    match readOptions registry rule os with
    | .ok (.error why) => some (refusedWarning rule why)
    | _ => none

/-- What is told about some settings, up to the first that has no options; that it is refused is told of this one as
well. -/
def complaints (registry : Registry) : Assoc String (Layer × RuleSetting) → Diagnostics
  | [] => []
  | (rule, _, s) :: rest =>
    (complaint? registry rule s).toList ++
      match settingFault registry rule s with
      | some _ => []
      | none => complaints registry rest

/-- What is told about a path. -/
def toldAt (config : Option Config) (registry : Registry) (path : String) : Diagnostics :=
  match layersAt config (Path.normal path) with
  | .ok layers => complaints registry (winners layers)
  | .error _ => []

theorem complaint?_eq_some_iff {registry : Registry} {rule : String} {s : RuleSetting} {d : Diagnostic} :
    complaint? registry rule s = some d ↔ ∃ os why, s.options = some os ∧
      readOptions registry rule os = .ok (.error why) ∧ d = refusedWarning rule why := by
  rw [complaint?, Option.bind_eq_some_iff]
  constructor
  · rintro ⟨os, hos, hd⟩
    split at hd
    · rename_i why hread
      exact ⟨os, why, hos, hread, (Option.some.inj hd).symm⟩
    · cases hd
  · rintro ⟨os, why, hos, hread, rfl⟩
    exact ⟨os, hos, by rw [hread]⟩

/-- A complaint is told exactly if nothing before it ends the work. -/
theorem mem_complaints_iff {registry : Registry} {d : Diagnostic} :
    ∀ {ws : Assoc String (Layer × RuleSetting)}, d ∈ complaints registry ws ↔
      ∃ before rule layer s after, ws = before ++ (rule, layer, s) :: after ∧
        (∀ w ∈ before, settingFault registry w.1 w.2.2 = none) ∧ complaint? registry rule s = some d
  | [] => by simp [complaints]
  | (rule, layer, s) :: rest => by
    rw [complaints, List.mem_append]
    constructor
    · rintro (hd | hd)
      · exact ⟨[], rule, layer, s, rest, rfl, by simp, by simpa using hd⟩
      · split at hd
        · cases hd
        · rename_i hfault
          obtain ⟨before, rule', layer', s', after, rfl, hbefore, hd⟩ := mem_complaints_iff.mp hd
          exact ⟨(rule, layer, s) :: before, rule', layer', s', after, rfl,
            List.forall_mem_cons.mpr ⟨hfault, hbefore⟩, hd⟩
    · rintro ⟨before, rule', layer', s', after, hws, hbefore, hd⟩
      cases before with
      | nil =>
        obtain ⟨hhead, -⟩ := List.cons.inj hws
        obtain ⟨rfl, hrest⟩ := Prod.mk.inj hhead
        obtain ⟨rfl, rfl⟩ := Prod.mk.inj hrest
        exact .inl (Option.mem_toList.mpr hd)
      | cons w before =>
        obtain ⟨rfl, rfl⟩ := List.cons.inj hws
        rw [List.forall_mem_cons] at hbefore
        rw [hbefore.1]
        exact .inr (mem_complaints_iff.mpr ⟨before, rule', layer', s', after, rfl, hbefore.2, hd⟩)

/-! ## 3. Nothing is told twice, and memory hides nothing -/

section Logged

variable {config : Option Config} {registry : Registry} {ds xs ys : Diagnostics} {r : Resolver} {α β : Type}

/-- A sound state whose collector has everything that its tables keep it from telling again. -/
structure Logged (config : Option Config) (registry : Registry) (ds : Diagnostics) (r : Resolver) : Prop
    extends Sound config registry r where
  diagnostics_eq : r.diagnostics = some ds
  known_told : ∀ path found, Assoc.get? (Path.normal path) r.known = some found →
    ∀ d ∈ toldAt config registry path, d ∈ ds
  checked_told : ∀ layer rule read, Assoc.get? (layer, rule) r.checked = some read →
    ∀ s, (Assoc.valuesOf rule (rulesOf config layer)).getLast? = some s →
      ∀ d, complaint? registry rule s = some d → d ∈ ds

theorem logged_fresh (config : Option Config) (registry : Registry) (ds : Diagnostics) :
    Logged config registry ds { config, registry, diagnostics := some ds } :=
  ⟨sound_fresh config registry _, rfl, by simp, by simp⟩

theorem Logged.forget (h : Logged config registry ds r) : Logged config registry ds r.forget :=
  ⟨h.toSound.forget, h.diagnostics_eq, by simp [Resolver.forget], by simp [Resolver.forget]⟩

theorem Logged.noteKnown (h : Logged config registry ds r) {path : String} {found : Assoc String Resolved}
    (hfound : resolveAfresh config registry path = .ok found) (htold : ∀ d ∈ toldAt config registry path, d ∈ ds) :
    Logged config registry ds { r with known := Assoc.put (Path.normal path) found r.known } := by
  refine ⟨h.toSound.noteKnown hfound, h.diagnostics_eq, ?_, h.checked_told⟩
  intro path' found' hget
  rw [Assoc.get?_put] at hget
  split at hget
  · rename_i hkey
    simpa only [toldAt, hkey] using htold
  · exact h.known_told path' found' hget

theorem Logged.reportRefused (h : Logged config registry ds r) (rule : String) (why : OptionRefusal) :
    Logged config registry (ds.add (refusedWarning rule why)) (r.reportRefused rule why) := by
  refine ⟨h.toSound.reportRefused rule why, ?_, ?_, ?_⟩
  · rw [Resolver.reportRefused, h.diagnostics_eq]
    rfl
  · intro path found hget d hd
    exact Diagnostics.mem_add.mpr (.inl (h.known_told path found hget d hd))
  · intro layer rule' read hget s hs d hd
    exact Diagnostics.mem_add.mpr (.inl (h.checked_told layer rule' read hget s hs d hd))

theorem Logged.noteChecked (h : Logged config registry ds r) {layer : Layer} {rule : String} {s : RuleSetting}
    {os : Entries} {c : CheckedOptions}
    (hs : (Assoc.valuesOf rule (rulesOf config layer)).getLast? = some s) (hos : s.options = some os)
    (hread : readOptions registry rule os = .ok c)
    (htold : ∀ d, complaint? registry rule s = some d → d ∈ ds) :
    Logged config registry ds (r.noteChecked layer rule c.toOption) := by
  refine ⟨h.toSound.noteChecked hs hos hread, h.diagnostics_eq, h.known_told, ?_⟩
  intro layer' rule' read' hget s' hs'
  rw [Resolver.noteChecked, Assoc.get?_put] at hget
  split at hget
  · rename_i hkey
    obtain ⟨rfl, rfl⟩ := Prod.mk.inj hkey
    rw [hs, Option.some.injEq] at hs'
    exact hs' ▸ htold
  · exact h.checked_told layer' rule' read' hget s' hs'

/-- A query that adds these diagnostics in every state whose collector has what was told before. -/
def Tells (config : Option Config) (registry : Registry) (q : Query α) (xs : Diagnostics) : Prop :=
  ∀ r ds, Logged config registry ds r → Logged config registry (ds.addAll xs) (q.run r).2

theorem Tells.pure (a : α) : Tells config registry (Pure.pure a : Query α) [] := fun _ _ h => h

theorem Tells.ofExcept (a : Except Fault α) :
    Tells config registry (MonadExcept.ofExcept a : Query α) [] := by
  intro r ds h
  cases a <;> exact h

theorem Tells.get_bind {k : Resolver → Query α}
    (hk : ∀ r ds, Logged config registry ds r → Logged config registry (ds.addAll xs) ((k r).run r).2) :
    Tells config registry (get >>= k) xs := hk

/-- What follows a query that has an answer is told after it, and may count on what it told. -/
theorem Tells.bind_ok {q : Query α} {k : α → Query β} {x : α} (hans : Answers config registry q (.ok x))
    (hq : Tells config registry q xs)
    (hk : ∀ r ds, Logged config registry ds r → (∀ d ∈ xs, d ∈ ds) →
      Logged config registry (ds.addAll ys) ((k x).run r).2) :
    Tells config registry (q >>= k) (xs ++ ys) := by
  intro r ds h
  obtain ⟨r₁, hrun, -⟩ := hans r h.toSound
  have h₁ := hq r ds h
  have hsplit : (q >>= k).run r = (k x).run (q.run r).2 := by
    rw [show (q >>= k).run r = exec (q >>= k) r from rfl, exec_bind, show exec q r = q.run r from rfl, hrun]
    rfl
  rw [hsplit, Diagnostics.addAll_append]
  exact hk _ _ h₁ fun d hd => Diagnostics.mem_addAll.mpr (.inr hd)

/-- Nothing follows a query that ends early. -/
theorem Tells.bind_error {q : Query α} {k : α → Query β} {e : Fault}
    (hans : Answers config registry q (.error e)) (hq : Tells config registry q xs) :
    Tells config registry (q >>= k) xs := by
  intro r ds h
  obtain ⟨r₁, hrun, -⟩ := hans r h.toSound
  have h₁ := hq r ds h
  have hsplit : ((q >>= k).run r).2 = (q.run r).2 := by
    rw [show (q >>= k).run r = exec (q >>= k) r from rfl, exec_bind, show exec q r = q.run r from rfl, hrun]
  rw [hsplit]
  exact h₁

/-- What follows may tell nothing of its own. -/
theorem Tells.bind_quiet {q : Query α} {k : α → Query β} {a : Except Fault α}
    (hans : Answers config registry q a) (hq : Tells config registry q xs)
    (hk : ∀ x, Tells config registry (k x) []) : Tells config registry (q >>= k) xs := by
  cases a with
  | error e => exact hq.bind_error hans
  | ok x =>
    rw [← List.append_nil xs]
    exact hq.bind_ok hans fun r ds h _ => hk x r ds h

/-- Reading the options of a setting tells what is refused of them. -/
theorem tells_optionsIn {layer : Layer} {rule : String} {s : RuleSetting} {os : Entries}
    (hs : (Assoc.valuesOf rule (rulesOf config layer)).getLast? = some s) (hos : s.options = some os) :
    Tells config registry (optionsIn layer rule os) (complaint? registry rule s).toList := by
  refine Tells.get_bind fun r ds h => ?_
  cases hget : Assoc.get? (layer, rule) r.checked with
  | some read =>
    have hold : ds.addAll (complaint? registry rule s).toList = ds := by
      refine Diagnostics.addAll_of_subset fun d hd => ?_
      exact h.checked_told layer rule read hget s hs d (Option.mem_toList.mp hd)
    rw [hold]
    exact h
  | none =>
    simp only [h.registry_eq]
    have hcomplaint : complaint? registry rule s = match readOptions registry rule os with
        | .ok (.error why) => some (refusedWarning rule why)
        | _ => none := by
      rw [complaint?, hos, Option.bind_some]
    cases hread : readOptions registry rule os with
    | error e =>
      rw [hcomplaint, hread]
      exact h
    | ok c =>
      cases c with
      | ok read =>
        have hnone : complaint? registry rule s = none := by rw [hcomplaint, hread]
        rw [hnone]
        exact h.noteChecked hs hos hread (by simp [hnone])
      | error why =>
        have hsome : complaint? registry rule s = some (refusedWarning rule why) := by rw [hcomplaint, hread]
        rw [hsome]
        refine (h.reportRefused rule why).noteChecked hs hos hread fun d hd => ?_
        rw [hsome, Option.some.injEq] at hd
        exact Diagnostics.mem_add.mpr (.inr hd.symm)

/-- What is made of an answer tells nothing. -/
theorem Tells.map_quiet {q : Query α} {a : Except Fault α} (hq : Tells config registry q xs)
    (hans : Answers config registry q a) (f : α → β) : Tells config registry (do return f (← q)) xs :=
  hq.bind_quiet hans fun x => Tells.pure (f x)

/-- Default options are not told of. -/
theorem tells_orDefault (rule : String) (read : Option Entries) :
    Tells config registry (orDefault rule read) [] :=
  Tells.get_bind fun _ _ h => Tells.ofExcept _ _ _ h

/-- Working out a setting tells what is refused of its options. -/
theorem tells_settle {layer : Layer} {rule : String} {s : RuleSetting}
    (hs : (Assoc.valuesOf rule (rulesOf config layer)).getLast? = some s) :
    Tells config registry (settle layer rule s) (complaint? registry rule s).toList := by
  unfold settle
  cases hos : s.options with
  | none =>
    have hnone : complaint? registry rule s = none := by rw [complaint?, hos, Option.bind_none]
    rw [hnone]
    exact (tells_orDefault rule none).map_quiet (answers_orDefault rule none) _
  | some os =>
    exact (tells_optionsIn hs hos).bind_quiet (answers_optionsIn hs hos) fun read =>
      (tells_orDefault rule read).map_quiet (answers_orDefault rule read) _

/-- Working out some settings tells what is refused, up to the first that has no options. -/
theorem tells_settleAll :
    ∀ ws : Assoc String (Layer × RuleSetting),
      (∀ rule layer s, (rule, layer, s) ∈ ws →
        (Assoc.valuesOf rule (rulesOf config layer)).getLast? = some s) →
      Tells config registry (settleAll ws) (complaints registry ws)
  | [], _ => fun _ _ h => h
  | (rule, layer, s) :: rest, h₀ => by
    have hs := h₀ rule layer s List.mem_cons_self
    have htail := tells_settleAll rest fun r l t ht => h₀ r l t (List.mem_cons_of_mem _ ht)
    have hans : Answers config registry (settle layer rule s) (readSetting registry rule s) := answers_settle hs
    have htells : Tells config registry (settle layer rule s) (complaint? registry rule s).toList := tells_settle hs
    rw [readSetting_eq] at hans
    rw [complaints, settingFault]
    cases hoptions : settingOptions registry rule s with
    | error f =>
      rw [hoptions] at hans
      rw [List.append_nil]
      exact htells.bind_error hans
    | ok os =>
      rw [hoptions] at hans
      refine htells.bind_ok hans fun r ds h _ => ?_
      have htailAns : Answers config registry (settleAll rest) (readAll registry rest) :=
        answers_settleAll rest fun r l t ht => h₀ r l t (List.mem_cons_of_mem _ ht)
      exact htail.map_quiet htailAns (fun others => (rule, ⟨s.severity, os⟩) :: others) r ds h

/-- **A question about all settings at a path tells what is told about the path.** -/
theorem tells_resolve (path : String) :
    Tells config registry (resolve path) (toldAt config registry path) := by
  refine Tells.get_bind fun r ds h => ?_
  cases hget : Assoc.get? (Path.normal path) r.known with
  | some found =>
    rw [Diagnostics.addAll_of_subset (h.known_told path found hget)]
    exact h
  | none =>
    simp only [h.config_eq]
    have hlayersAns : Answers config registry
        (MonadExcept.ofExcept ((layersAt config (Path.normal path)).mapError Fault.pattern))
        ((layersAt config (Path.normal path)).mapError Fault.pattern) := Answers.ofExcept _
    have hlayersTells : Tells config registry
        (MonadExcept.ofExcept ((layersAt config (Path.normal path)).mapError Fault.pattern)) [] := Tells.ofExcept _
    cases hl : layersAt config (Path.normal path) with
    | error e =>
      rw [hl] at hlayersAns hlayersTells
      rw [toldAt, hl]
      exact hlayersTells.bind_error hlayersAns r ds h
    | ok layers =>
      rw [hl] at hlayersAns hlayersTells
      have htold : toldAt config registry path = complaints registry (winners layers) := by rw [toldAt, hl]
      have hws : ∀ rule layer s, (rule, layer, s) ∈ winners layers →
          (Assoc.valuesOf rule (rulesOf config layer)).getLast? = some s :=
        fun rule layer s hmem => setting_of_mem_winners hl hmem
      have hans : Answers config registry (settleAll (winners layers)) (readAll registry (winners layers)) :=
        answers_settleAll _ hws
      have htells : Tells config registry (settleAll (winners layers)) (complaints registry (winners layers)) :=
        tells_settleAll _ hws
      rw [htold]
      refine hlayersTells.bind_ok hlayersAns (fun r ds h _ => ?_) r ds h
      cases hread : readAll registry (winners layers) with
      | error e =>
        rw [hread] at hans
        exact htells.bind_error hans r ds h
      | ok found =>
        rw [hread] at hans
        have hfound : resolveAfresh config registry path = .ok found := by
          rw [resolveAfresh, hl]
          exact hread
        rw [← List.append_nil (complaints registry (winners layers))]
        -- The table is written last, when the collector has what the path told.
        refine htells.bind_ok hans (fun r ds h hsaid => ?_) r ds h
        exact h.noteKnown hfound (by rwa [htold])

theorem tells_severity (rule path : String) :
    Tells config registry (severity rule path) (toldAt config registry path) := by
  refine (tells_resolve path).bind_quiet (answers_resolve path) fun found => ?_
  cases Assoc.get? rule found with
  | some s => exact Tells.pure s.severity
  | none => exact fun _ _ h => h

theorem tells_enabled (rule path : String) :
    Tells config registry (enabled rule path) (toldAt config registry path) :=
  (tells_severity rule path).map_quiet (answers_severity rule path) fun s => decide (s ≠ .off)

theorem tells_options (rule path : String) :
    Tells config registry (options rule path) (toldAt config registry path) :=
  (tells_resolve path).bind_quiet (answers_resolve path) fun _ => tells_orDefault rule _

/-- The path that a request asks about. -/
def Request.path? : Request → Option String
  | .severity _ path | .enabled _ path | .options _ path | .resolve path => some path
  | .forget => none

/-- The paths that some requests ask about, in order. -/
def asked (requests : List Request) : List String := requests.filterMap Request.path?

/-- A request adds what is told about its path. -/
theorem Request.perform_logged (h : Logged config registry ds r) (q : Request) :
    Logged config registry (ds.addAll (q.path?.toList.flatMap (toldAt config registry))) (q.perform r) := by
  have hone : ∀ path, [path].flatMap (toldAt config registry) = toldAt config registry path := by simp
  cases q with
  | severity rule path => exact hone path ▸ tells_severity rule path r ds h
  | enabled rule path => exact hone path ▸ tells_enabled rule path r ds h
  | options rule path => exact hone path ▸ tells_options rule path r ds h
  | resolve path => exact hone path ▸ tells_resolve path r ds h
  | forget => exact h.forget

/-- Some requests add what is told about their paths, one after the other. -/
theorem after_logged (h : Logged config registry ds r) (requests : List Request) :
    Logged config registry (ds.addAll ((asked requests).flatMap (toldAt config registry))) (after r requests) := by
  induction requests generalizing r ds with
  | nil => exact h
  | cons q qs ih =>
    have hasked : asked (q :: qs) = q.path?.toList ++ asked qs := by
      rw [asked, List.filterMap_cons]
      cases q.path? <;> rfl
    rw [hasked, List.flatMap_append, Diagnostics.addAll_append]
    exact ih (q.perform_logged h)

end Logged

/-! ## 4. Options that are rejected -/

/-- A layer decides a rule at a path, with options there that the rule's model refuses. -/
def Rejected (config : Option Config) (registry : Registry) (path rule : String) (layer : Layer)
    (why : OptionRefusal) : Prop :=
  ∃ layers s os, layersAt config (Path.normal path) = .ok layers ∧
    (mentions rule layers).getLast? = some (layer, s) ∧ s.options = some os ∧
    readOptions registry rule os = .ok (.error why)

/-- Whatever is read at a path before the setting of a rule has options. -/
def Reached (config : Option Config) (registry : Registry) (path rule : String) : Prop :=
  ∃ layers before layer s after, layersAt config (Path.normal path) = .ok layers ∧
    winners layers = before ++ (rule, layer, s) :: after ∧
    ∀ w ∈ before, settingFault registry w.1 w.2.2 = none

/-- All settings that count at a path have options. -/
def SettledAt (config : Option Config) (registry : Registry) (path : String) : Prop :=
  ∀ layers, layersAt config (Path.normal path) = .ok layers → ∀ rule layer s,
    (mentions rule layers).getLast? = some (layer, s) → settingFault registry rule s = none

/-- The model of a rule does not fail on the options of a setting. -/
def ReadableSetting (registry : Registry) (rule : String) (s : RuleSetting) : Prop :=
  ∀ os, s.options = some os → ∃ c, readOptions registry rule os = .ok c

/-- A setting has options if its own can be read and the rule has default options. -/
theorem settingFault_eq_none_of_readable {registry : Registry} {rule : String} {s : RuleSetting}
    (hs : ReadableSetting registry rule s) (hdefault : ∃ os, registry.defaultOptions rule = .ok os) :
    settingFault registry rule s = none := by
  obtain ⟨standard, hstandard⟩ := hdefault
  rw [settingFault_eq_none_iff, settingOptions]
  cases hos : s.options with
  | none => exact ⟨standard, hstandard⟩
  | some os =>
    obtain ⟨c, hc⟩ := hs os hos
    rw [readOptions] at hc
    cases hm : (registry.info? rule).bind RuleInfo.options with
    | none => exact ⟨os, rfl⟩
    | some model =>
      rw [hm] at hc
      dsimp only at hc ⊢
      rw [hc]
      cases c with
      | ok read => exact ⟨read, rfl⟩
      | error why => exact ⟨standard, hstandard⟩

section Rejected

variable {config : Option Config} {registry : Registry} {path rule : String} {layer : Layer}

/-- The winners are the last mentions. -/
theorem mem_winners_iff {layers : List (Layer × RuleSettings)} {s : RuleSetting} :
    (rule, layer, s) ∈ winners layers ↔ (mentions rule layers).getLast? = some (layer, s) := by
  rw [← get?_winners, Assoc.get?_eq_some_iff (nodup_keys_winners layers)]

/-- **What is told about a path** are the rejected options that are reached. -/
theorem mem_toldAt_iff {d : Diagnostic} :
    d ∈ toldAt config registry path ↔ ∃ rule layer why, Rejected config registry path rule layer why ∧
      Reached config registry path rule ∧ d = refusedWarning rule why := by
  constructor
  · intro hd
    rw [toldAt] at hd
    split at hd
    · rename_i layers hl
      obtain ⟨before, rule, layer, s, after, hws, hbefore, hd⟩ := mem_complaints_iff.mp hd
      obtain ⟨os, why, hos, hread, rfl⟩ := complaint?_eq_some_iff.mp hd
      have hlast := mem_winners_iff.mp (by rw [hws]; simp : (rule, layer, s) ∈ winners layers)
      exact ⟨rule, layer, why, ⟨layers, s, os, hl, hlast, hos, hread⟩,
        ⟨layers, before, layer, s, after, hl, hws, hbefore⟩, rfl⟩
    · cases hd
  · rintro ⟨rule, layer, why, ⟨layers, s, os, hl, hlast, hos, hread⟩,
      ⟨layers', before, layer', s', after, hl', hws, hbefore⟩, rfl⟩
    rw [hl, Except.ok.injEq] at hl'
    subst hl'
    have hlast' := mem_winners_iff.mp (by rw [hws]; simp : (rule, layer', s') ∈ winners layers)
    rw [hlast, Option.some.injEq] at hlast'
    obtain ⟨rfl, rfl⟩ := Prod.mk.inj hlast'
    rw [toldAt, hl]
    exact mem_complaints_iff.mpr ⟨before, rule, layer, s, after, hws, hbefore,
      complaint?_eq_some_iff.mpr ⟨os, why, hos, hread, rfl⟩⟩

/-- Where all settings have options, all that are rejected are reached. -/
theorem reached_of_settled (h : SettledAt config registry path) {why : OptionRefusal}
    (hrejected : Rejected config registry path rule layer why) : Reached config registry path rule := by
  obtain ⟨layers, s, os, hl, hlast, -, -⟩ := hrejected
  obtain ⟨before, after, hws⟩ := List.append_of_mem (mem_winners_iff.mpr hlast)
  refine ⟨layers, before, layer, s, after, hl, hws, ?_⟩
  rintro ⟨rule', layer', s'⟩ hw
  exact h layers hl rule' layer' s' (mem_winners_iff.mp (by rw [hws]; exact List.mem_append_left _ hw))

end Rejected

/-- The collector after some requests has what was told about their paths, once. -/
theorem diagnostics_after (config : Option Config) (registry : Registry) (requests : List Request) :
    ∃ ds, (after { config, registry, diagnostics := some [] } requests).diagnostics = some ds ∧ ds.Nodup ∧
      ∀ d, d ∈ ds ↔ ∃ path ∈ asked requests, d ∈ toldAt config registry path := by
  refine ⟨_, (after_logged (logged_fresh config registry []) requests).diagnostics_eq,
    Diagnostics.nodup_addAll List.nodup_nil _, fun d => ?_⟩
  simp [Diagnostics.mem_addAll]

end Resolver

/-! ## 5. The check of a configuration as a whole -/

/-- The place of a layer in the warnings about a configuration. -/
def Layer.place : Layer → String
  | .base => "rules"
  | .block i => "overrides[" ++ toString i ++ "]"

namespace Config

open Resolver

variable {c : Config} {registry : Registry}

/-- The warning about options in a layer that a rule's model refuses. -/
def invalidWarning (layer : Layer) (rule : String) (why : OptionRefusal) : String :=
  layer.place ++ ": invalid options for rule '" ++ rule ++ "': " ++ why.report

/-- No model fails on the options of a configuration. -/
def Readable (c : Config) (registry : Registry) : Prop :=
  ∀ e ∈ c.settings, ReadableSetting registry e.2.1 e.2.2

/-- What a layer says of a rule is a setting of the configuration. -/
theorem mem_settings_of_mem {rule : String} {layer : Layer} {s : RuleSetting}
    (h : s ∈ Assoc.valuesOf rule (rulesOf (some c) layer)) : (layer.place, rule, s) ∈ c.settings := by
  have hentry : (rule, s) ∈ rulesOf (some c) layer := by
    obtain ⟨e, he, hse⟩ := List.mem_filterMap.mp h
    split at hse
    · rename_i hrule
      rw [← hrule, ← Option.some.inj hse]
      exact he
    · cases hse
  rw [settings, List.mem_append]
  cases layer with
  | base => exact .inl (List.mem_map.mpr ⟨_, hentry, rfl⟩)
  | block i =>
    simp only [rulesOf, Option.bind_some] at hentry
    cases ho : c.overrides[i]? with
    | none => simp [ho] at hentry
    | some o =>
      rw [ho] at hentry
      refine .inr (List.mem_flatMap.mpr ⟨(o, i), ?_, List.mem_map.mpr ⟨_, hentry, rfl⟩⟩)
      exact List.mem_zipIdx_iff_getElem?.mpr ho

/-- **What decides at a path is a setting of the configuration.** -/
theorem mem_settings_of_deciding {path rule : String} {layers : List (Layer × RuleSettings)} {layer : Layer}
    {s : RuleSetting} (hl : layersAt (some c) (Path.normal path) = .ok layers)
    (hlast : (mentions rule layers).getLast? = some (layer, s)) : (layer.place, rule, s) ∈ c.settings :=
  mem_settings_of_mem (List.mem_of_getLast? (setting_of_mem_winners hl (mem_winners_iff.mpr hlast)))

/-- Where no model fails and all rules that are mentioned have default options, every setting has options. -/
theorem settledAt_of_readable (h : c.Readable registry)
    (hdefault : ∀ e ∈ c.settings, ∃ os, registry.defaultOptions e.2.1 = .ok os) (path : String) :
    SettledAt (some c) registry path := fun _ hl _ _ _ hlast =>
  have hmem := mem_settings_of_deciding hl hlast
  settingFault_eq_none_of_readable (h _ hmem) (hdefault _ hmem)

/-- Checking a setting fails exactly if the model of its rule does. -/
theorem settingWarning?_isOk_iff {place rule : String} {s : RuleSetting} :
    (∃ w, settingWarning? registry place rule s = .ok w) ↔ ReadableSetting registry rule s := by
  unfold settingWarning? ReadableSetting readOptions
  cases registry.info? rule with
  | none => cases s.options <;> simp
  | some info =>
    cases s.options with
    | none => simp
    | some os =>
      cases hm : info.options with
      | none => simp [hm]
      | some model => cases hc : model.check os <;> simp [hm, hc, Except.map]

/-- Options that are refused have their warning. -/
theorem settingWarning?_of_rejected (layer : Layer) {rule : String} {s : RuleSetting} {os : Entries}
    {why : OptionRefusal} (hos : s.options = some os)
    (hread : readOptions registry rule os = .ok (.error why)) :
    settingWarning? registry layer.place rule s = .ok (some (invalidWarning layer rule why)) := by
  unfold readOptions at hread
  cases hi : registry.info? rule with
  | none => simp [hi] at hread
  | some info =>
    cases hm : info.options with
    | none => simp [hi, hm] at hread
    | some model =>
      simp only [hi, hm, Option.bind_some] at hread
      simp [settingWarning?, hi, hos, hm, hread, Except.map, invalidWarning]

/-- **A configuration has its warnings exactly if no model fails on its options.** -/
theorem warnings_isOk_iff : (∃ ws, c.warnings registry = .ok ws) ↔ c.Readable registry := by
  have hone : c.Readable registry ↔
      ∀ e ∈ c.settings, ∃ w, settingWarning? registry e.1 e.2.1 e.2.2 = .ok w := by
    simp only [settingWarning?_isOk_iff, Readable]
  rw [hone, ← exists_forall₂_iff]
  constructor
  · rintro ⟨ws, hws⟩
    obtain ⟨bs, hbs, -⟩ := filterMapM_eq_ok_iff.mp hws
    exact ⟨bs, hbs⟩
  · rintro ⟨bs, hbs⟩
    exact ⟨_, filterMapM_eq_ok_iff.mpr ⟨bs, hbs, rfl⟩⟩

/-- Whatever is warned about in a setting stands among the warnings. -/
theorem mem_warnings {ws : List String} (h : c.warnings registry = .ok ws) {place rule : String}
    {s : RuleSetting} (hs : (place, rule, s) ∈ c.settings) {w : String}
    (hw : settingWarning? registry place rule s = .ok (some w)) : w ∈ ws := by
  obtain ⟨bs, hbs, rfl⟩ := filterMapM_eq_ok_iff.mp h
  obtain ⟨b, hb, hcheck⟩ := exists_of_mem_forall₂ hbs.flip hs
  have heq : some w = b := Except.ok.inj (hw.symm.trans hcheck)
  exact List.mem_filterMap.mpr ⟨b, hb, heq.symm⟩

/-- **Rejected options have their warning.** -/
theorem invalidWarning_mem_warnings {ws : List String} (h : c.warnings registry = .ok ws)
    {path rule : String} {layer : Layer} {why : OptionRefusal}
    (hrejected : Rejected (some c) registry path rule layer why) : invalidWarning layer rule why ∈ ws := by
  obtain ⟨layers, s, os, hl, hlast, hos, hread⟩ := hrejected
  exact mem_warnings h (mem_settings_of_deciding hl hlast) (settingWarning?_of_rejected layer hos hread)

end Config

/-! ## 6. The two checks beside each other -/

namespace Resolver

theorem message_injOn {config : Option Config} {registry : Registry} {ds : Diagnostics}
    {paths : List String} (h : ∀ d, d ∈ ds ↔ ∃ path ∈ paths, d ∈ toldAt config registry path) :
    ∀ d ∈ ds, ∀ e ∈ ds, d.message = e.message → d = e := by
  have hshape : ∀ d ∈ ds, d = ⟨d.message, source, .warning, some invalidOptions⟩ := by
    intro d hd
    obtain ⟨path, -, htold⟩ := (h d).mp hd
    obtain ⟨rule, layer, why, -, -, rfl⟩ := mem_toldAt_iff.mp htold
    rfl
  intro d hd e he hde
  rw [hshape d hd, hshape e he, hde]

/-- **Both checks of the options agree, and nothing is reported twice.**  After any requests the
collector holds the warnings about the options that are refused at the paths asked for, no message
twice; of the refused options it misses only those behind a setting that has no options.  If no model
fails on the options of the configuration, all that is refused at any path has its warning in the check of
the configuration, and nothing is missed unless default options are; else that check has no result. -/
theorem diagnostics_of_requests (config : Option Config) (registry : Registry) (requests : List Request) :
    ∃ ds, (after { config, registry, diagnostics := some [] } requests).diagnostics = some ds ∧
      (ds.map Diagnostic.message).Nodup ∧
      (∀ d, d ∈ ds ↔ ∃ path ∈ asked requests, ∃ rule layer why,
        Rejected config registry path rule layer why ∧ Reached config registry path rule ∧
          d = refusedWarning rule why) ∧
      (∀ path, SettledAt config registry path → ∀ rule layer why,
        Rejected config registry path rule layer why → Reached config registry path rule) ∧
      (∀ c, config = some c → c.Readable registry →
        ((∀ e ∈ c.settings, ∃ os, registry.defaultOptions e.2.1 = .ok os) →
          ∀ path, SettledAt config registry path) ∧
        ∃ ws, c.warnings registry = .ok ws ∧
          (∀ path rule layer why, Rejected config registry path rule layer why →
            Config.invalidWarning layer rule why ∈ ws) ∧
          ((∀ layer rule why, Config.invalidWarning layer rule why ∉ ws) → ds = [])) ∧
      (∀ c, config = some c → ¬ c.Readable registry → ∃ f, c.warnings registry = .error f) := by
  obtain ⟨ds, hds, hnodup, hmem⟩ := diagnostics_after config registry requests
  have htold : ∀ d, d ∈ ds ↔ ∃ path ∈ asked requests, ∃ rule layer why,
      Rejected config registry path rule layer why ∧ Reached config registry path rule ∧
        d = refusedWarning rule why := by
    intro d
    rw [hmem d]
    simp only [mem_toldAt_iff]
  refine ⟨ds, hds, ?_, htold, ?_, ?_, ?_⟩
  · exact hnodup.map_on (message_injOn hmem)
  · intro path hsettled rule layer why hrejected
    exact reached_of_settled hsettled hrejected
  · rintro c rfl hreadable
    obtain ⟨ws, hws⟩ := Config.warnings_isOk_iff.mpr hreadable
    refine ⟨Config.settledAt_of_readable hreadable, ws, hws, ?_, ?_⟩
    · intro path rule layer why hrejected
      exact Config.invalidWarning_mem_warnings hws hrejected
    · intro hnone
      rw [List.eq_nil_iff_forall_not_mem]
      intro d hd
      obtain ⟨path, -, rule, layer, why, hrejected, -, -⟩ := (htold d).mp hd
      exact hnone layer rule why (Config.invalidWarning_mem_warnings hws hrejected)
  · rintro c rfl hreadable
    cases hws : c.warnings registry with
    | error f => exact ⟨f, rfl⟩
    | ok ws => exact absurd (Config.warnings_isOk_iff.mp ⟨ws, hws⟩) hreadable

/-- The model of a limit and a mode never fails, and a rule without a model takes anything. -/
theorem readable_limitRegistry (c : Config) : c.Readable limitRegistry := by
  rintro ⟨-, rule, -⟩ - os -
  rw [readOptions]
  by_cases hrule : "r" = rule
  · subst hrule
    show ∃ c, limitModel.check os = .ok c
    unfold limitModel
    dsimp only
    split
    · split
      · exact ⟨_, rfl⟩
      · split <;> exact ⟨_, rfl⟩
    · exact ⟨_, rfl⟩
    · exact ⟨_, rfl⟩
  · rw [info?_limitRegistry hrule]
    exact ⟨.ok os, rfl⟩

/-- Every rule has default options here. -/
theorem exists_defaultOptions_limitRegistry (rule : String) : ∃ os, limitRegistry.defaultOptions rule = .ok os := by
  by_cases hrule : "r" = rule
  · subst hrule
    exact ⟨limitOptions 10 "strict", rfl⟩
  · rw [Registry.defaultOptions, info?_limitRegistry hrule]
    exact ⟨[], rfl⟩

/-- A limit of zero in the base and a mode that is no text below `docs`: each is reported once, although two paths have
the first and memory is lost in between, and both stand among the warnings. -/
theorem two_limits_reported_once :
    let c : Config := {
      rules := [("r", ⟨.error, some [(.text "limit", .int 0)]⟩)]
      overrides := [⟨["docs/**"], [("r", ⟨.warn, some [(.text "mode", .int 5)]⟩)]⟩] }
    let zero : OptionRefusal := ⟨[⟨["limit"], "Input should be greater than 0"⟩], "Input should be greater than 0"⟩
    let number : OptionRefusal := ⟨[⟨["mode"], "Input should be a valid string"⟩], "Input should be a valid string"⟩
    c.Readable limitRegistry ∧
      ∃ ds, (after { config := some c, registry := limitRegistry, diagnostics := some [] }
        [.severity "r" "CLAUDE.md", .forget, .options "other" "src/CLAUDE.md",
          .resolve "docs/CLAUDE.md"]).diagnostics = some ds ∧ (ds.map Diagnostic.message).Nodup ∧
        refusedWarning "r" zero ∈ ds ∧ refusedWarning "r" number ∈ ds ∧
        ∃ ws, c.warnings limitRegistry = .ok ws ∧
          Config.invalidWarning .base "r" zero ∈ ws ∧ Config.invalidWarning (.block 0) "r" number ∈ ws := by
  intro c zero number
  have hreadable : c.Readable limitRegistry := readable_limitRegistry c
  have hzero : Rejected (some c) limitRegistry "CLAUDE.md" "r" .base zero :=
    ⟨_, _, _, rfl, rfl, rfl, rfl⟩
  have hnumber : Rejected (some c) limitRegistry "docs/CLAUDE.md" "r" (.block 0) number :=
    ⟨_, _, _, rfl, rfl, rfl, rfl⟩
  obtain ⟨ds, hds, hnodup, hmem, hreached, hstatic, -⟩ := diagnostics_of_requests (some c) limitRegistry
    [.severity "r" "CLAUDE.md", .forget, .options "other" "src/CLAUDE.md", .resolve "docs/CLAUDE.md"]
  obtain ⟨hall, ws, hws, hwarned, -⟩ := hstatic c rfl hreadable
  have hdefault : ∀ e ∈ c.settings, ∃ os, limitRegistry.defaultOptions e.2.1 = .ok os :=
    fun e _ => exists_defaultOptions_limitRegistry e.2.1
  have hin : ∀ path ∈ ["CLAUDE.md", "src/CLAUDE.md", "docs/CLAUDE.md"], ∀ layer why,
      Rejected (some c) limitRegistry path "r" layer why → refusedWarning "r" why ∈ ds := by
    intro path hpath layer why hrejected
    exact (hmem _).mpr ⟨path, hpath, "r", layer, why, hrejected,
      hreached path (hall hdefault path) _ _ _ hrejected, rfl⟩
  exact ⟨hreadable, ds, hds, hnodup, hin _ (by simp) _ _ hzero, hin _ (by simp) _ _ hnumber, ws, hws,
    hwarned _ _ _ _ hzero, hwarned _ _ _ _ hnumber⟩

/-- Options with which a model fails hide that a limit of zero is refused, which decides at the path. -/
theorem failing_model_hides_complaints :
    let c : Config := {
      rules := [
        ("mcp-invalid-env-var", ⟨.warn, some [(.text "pattern", .text "a\x7b4294967295\x7d")]⟩),
        ("size-error", ⟨.warn, some [(.text "maxSize", .int 0)]⟩)] }
    (∃ why, why.phrases = "maxSize: Input should be greater than 0" ∧
        Rejected (some c) Builtin.registry "CLAUDE.md" "size-error" .base why) ∧
      (after { config := some c, registry := Builtin.registry, diagnostics := some [] }
        [.resolve "CLAUDE.md"]).diagnostics = some [] := by
  intro c
  refine ⟨⟨_, ?_, ⟨_, _, _, rfl, rfl, rfl, rfl⟩⟩, ?_⟩
  · decide +kernel
  · decide +kernel

end Resolver

end AgentLint
