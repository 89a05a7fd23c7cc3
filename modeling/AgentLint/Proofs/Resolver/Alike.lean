import AgentLint.Proofs.Config.RoundTrip
import AgentLint.Proofs.Resolver.Complaints
import AgentLint.Proofs.Rule.Options
import AgentLint.Proofs.Value
import Mathlib.Data.List.Forall2

/-!
# Configurations that hold the same

Two configurations are alike if they have the same overrides for the same files, and in each layer the same rules with
the same severities and the same options, where the order of rules and of options is left out (`Config.Alike`).  No
question about a rule at a path tells them apart, unless a model looks at the order of the options that it is given
(`agree_severityAt`, `agree_optionsAt`); those of the built-in rules do not (`Builtin.orderBlind`).

The order does show in one place: if settings have no options, it decides which fault comes first.  So both questions
fail then, but perhaps not in the same way (`Agree`).

Written down, a configuration is a document.  Two of them that are plain and the same come from configurations that are
alike (`Config.alike_of_same`).
-/

namespace AgentLint

/-- Two outcomes that are both failures, or related. -/
inductive Agree {ε α β : Type} (R : α → β → Prop) : Except ε α → Except ε β → Prop where
  /-- Both succeed. -/
  | ok {a b} (h : R a b) : Agree R (.ok a) (.ok b)
  /-- Both fail. -/
  | error (e f) : Agree R (.error e) (.error f)

namespace Agree

variable {ε α β γ δ : Type} {R : α → β → Prop} {S : γ → δ → Prop} {x : Except ε α} {y : Except ε β}

theorem map {f : α → γ} {g : β → δ} (h : Agree R x y) (hfg : ∀ a b, R a b → S (f a) (g b)) :
    Agree S (x.map f) (y.map g) := by
  cases h with
  | ok h => exact .ok (hfg _ _ h)
  | error e f => exact .error e f

theorem mapError {ε' : Type} (h : Agree R x y) (f : ε → ε') : Agree R (x.mapError f) (y.mapError f) := by
  cases h with
  | ok h => exact .ok h
  | error e e' => exact .error (f e) (f e')

theorem bind {f : α → Except ε γ} {g : β → Except ε δ} (h : Agree R x y) (hfg : ∀ a b, R a b → Agree S (f a) (g b)) :
    Agree S (x >>= f) (y >>= g) := by
  cases h with
  | ok h => exact hfg _ _ h
  | error e f => exact .error e f

end Agree

/-! ## 1. Options that hold the same -/

/-- Options that JSON tells all of, and that hold the same. -/
structure SameOptions (os ps : Entries) : Prop where
  left : Value.havePlain os = true
  right : Value.havePlain ps = true
  same : Value.same (.map os) (.map ps) = true

namespace SameOptions

variable {os ps : Entries}

/-- Options that hold the same have the same at each key, or nothing. -/
theorem get?_rel (h : SameOptions os ps) (key : String) :
    Option.Rel (fun v w => Value.same v w = true) (Entries.get? key os) (Entries.get? key ps) := by
  have hsame := h.same
  rw [Value.same, Bool.and_eq_true, Value.sameEntries_iff] at hsame
  cases hv : Entries.get? key os with
  | some v =>
    obtain ⟨w, hw, hvw⟩ := hsame.2 _ (Entries.mem_of_find? h.left hv)
    rw [Entries.get?, hw]
    exact .some hvw
  | none =>
    cases hw : Entries.get? key ps with
    | none => exact .none
    | some w =>
      obtain ⟨v, hmem, -⟩ := Entries.exists_of_same h.left h.right h.same (Entries.mem_of_find? h.right hw)
      have hfound := Entries.find?_of_mem h.left hmem
      rw [Entries.get?] at hv
      rw [hv] at hfound
      cases hfound

/-- They have the same keys. -/
theorem mem_keys_iff (h : SameOptions os ps) (k : Value) : (∃ v, (k, v) ∈ os) ↔ ∃ w, (k, w) ∈ ps := by
  have hsame := h.same
  rw [Value.same, Bool.and_eq_true, Value.sameEntries_iff] at hsame
  constructor
  · rintro ⟨v, hv⟩
    obtain ⟨s, hs, -⟩ := Entries.eq_text_of_isPlainKey (Entries.plain_of_mem h.left hv).1
    obtain ⟨w, hw, -⟩ := hsame.2 _ hv
    have hks : k = .text s := hs
    subst hks
    exact ⟨w, Entries.mem_of_find? h.right hw⟩
  · rintro ⟨w, hw⟩
    obtain ⟨v, hv, -⟩ := Entries.exists_of_same h.left h.right h.same hw
    exact ⟨v, hv⟩

end SameOptions

/-- A value is read as what holds the same is read. -/
theorem OptionKind.read_of_same (k : OptionKind) {v w : Value} (h : Value.same v w = true) : k.read v = k.read w := by
  fun_cases Value.same v w
  all_goals simp_all [Value.same]
  all_goals cases k <;> rfl

/-- Options that are one, or hold the same. -/
def SameAnswer (os ps : Entries) : Prop := os = ps ∨ Value.same (.map os) (.map ps) = true

/-- A model to which the order of options is nothing: of options that hold the same it makes the same, or it refuses
them both, or fails on both. -/
def OptionModel.OrderBlind (m : OptionModel) : Prop :=
  ∀ os ps, SameOptions os ps →
    Agree (Option.Rel SameAnswer) ((m.check os).map Except.toOption) ((m.check ps).map Except.toOption)

/-- All models are of this kind. -/
def Registry.OrderBlind (t : Registry) : Prop :=
  ∀ rule m, (t.info? rule).bind RuleInfo.options = some m → m.OrderBlind

namespace FieldModel

variable {m : FieldModel} {os ps : Entries}

/-- No entry is a stranger exactly if the option itself is all there is. -/
theorem filterMap_stranger_eq_nil_iff : os.filterMap m.stranger = [] ↔ ∀ k, (∃ v, (k, v) ∈ os) → k = .text m.field := by
  have hone : ∀ e : Value × Value, m.stranger e = none ↔ e.1 = .text m.field := by
    rintro ⟨k, v⟩
    cases k <;> simp [stranger]
  rw [List.filterMap_eq_nil_iff]
  constructor
  · rintro h k ⟨v, hv⟩
    exact (hone _).mp (h _ hv)
  · rintro h ⟨k, v⟩ hv
    exact (hone _).mpr (h k ⟨v, hv⟩)

theorem value_of_same (h : SameOptions os ps) :
    (m.value os).map Except.toOption = (m.value ps).map Except.toOption := by
  have hrel := h.get?_rel m.field
  unfold value
  cases hv : Entries.get? m.field os with
  | none =>
    rw [hv] at hrel
    generalize Entries.get? m.field ps = w at hrel
    cases hrel
    rfl
  | some v =>
    rw [hv] at hrel
    generalize Entries.get? m.field ps = w at hrel
    cases hrel with
    | some hvw =>
      dsimp only
      rw [m.kind.read_of_same hvw]
      rename_i w
      cases m.kind.read w with
      | error e => rfl
      | ok r => cases r <;> rfl

/-- What a check comes to, the complaints left out. -/
theorem check_toOption (m : FieldModel) (os : Entries) : (m.check os).map Except.toOption =
    ((m.value os).map Except.toOption).map fun v =>
      if os.filterMap m.stranger = [] then v.map fun v => [(.text m.field, v)] else none := by
  unfold check
  cases m.value os with
  | error e => rfl
  | ok v => cases v <;> cases os.filterMap m.stranger <;> rfl

/-- **Options that hold the same come to the same**, or are all refused. -/
theorem check_of_same (h : SameOptions os ps) :
    (m.check os).map Except.toOption = (m.check ps).map Except.toOption := by
  have hstrangers : os.filterMap m.stranger = [] ↔ ps.filterMap m.stranger = [] := by
    simp only [filterMap_stranger_eq_nil_iff, h.mem_keys_iff]
  rw [check_toOption, check_toOption, value_of_same h]
  simp only [hstrangers]

/-- **A model of one option is blind to the order.** -/
theorem orderBlind (m : FieldModel) : m.model.OrderBlind := by
  have hmodel : ∀ os, (m.model.check os).map Except.toOption =
      ((m.check os).mapError Fault.pattern).map Except.toOption := by
    intro os
    show (((m.check os).mapError Fault.pattern).map fun c => c.mapError m.refusal).map Except.toOption = _
    cases m.check os with
    | error e => rfl
    | ok c => cases c <;> rfl
  have hself : ∀ x : Option Entries, Option.Rel SameAnswer x x := by
    rintro (- | os)
    · exact .none
    · exact .some (.inl rfl)
  intro os ps h
  have hsame := check_of_same (m := m) h
  rw [hmodel, hmodel]
  cases hos : m.check os with
  | error e =>
    rw [hos] at hsame
    cases hps : m.check ps with
    | error f => exact .error _ _
    | ok c =>
      rw [hps] at hsame
      cases hsame
  | ok c =>
    rw [hos] at hsame
    cases hps : m.check ps with
    | error f =>
      rw [hps] at hsame
      cases hsame
    | ok d =>
      rw [hps] at hsame
      have hcd : c.toOption = d.toOption := Except.ok.inj hsame
      refine .ok ?_
      rw [hcd]
      exact hself _

end FieldModel

theorem Builtin.orderBlind : registry.OrderBlind := by
  intro rule m hm
  obtain ⟨i, hi, hm⟩ := Option.bind_eq_some_iff.mp hm
  obtain ⟨r, hr, rfl⟩ := Option.map_eq_some_iff.mp hi
  have hrules : r ∈ rules := by
    have hregistry : registry = rules.map fun r => (r.info.id, r) := rfl
    have hmem := Assoc.mem_of_get? hr
    rw [hregistry, List.mem_map] at hmem
    obtain ⟨q, hq, hqr⟩ := hmem
    exact (Prod.mk.inj hqr).2 ▸ hq
  obtain ⟨f, rfl⟩ := exists_fieldModel hrules hm
  exact f.orderBlind

/-! ## 2. Settings and layers that hold the same -/

/-- Settings with the same severity and options that hold the same. -/
structure SameSetting (s t : RuleSetting) : Prop where
  severity : s.severity = t.severity
  options : Option.Rel SameOptions s.options t.options

/-- Settings of the same rules, each once, that hold the same. -/
structure AlikeRules (rs ss : RuleSettings) : Prop where
  left : (Assoc.keys rs).Nodup
  right : (Assoc.keys ss).Nodup
  settings : ∀ id, Option.Rel SameSetting (Assoc.get? id rs) (Assoc.get? id ss)

/-- Configurations that hold the same in each layer. -/
structure Config.Alike (c d : Config) : Prop where
  rules : AlikeRules c.rules d.rules
  overrides : List.Forall₂ (fun o p : Override => o.files = p.files ∧ AlikeRules o.rules p.rules) c.overrides d.overrides

namespace Resolver

/-- The same layers, with settings that hold the same. -/
abbrev AlikeLayers : List (Layer × RuleSettings) → List (Layer × RuleSettings) → Prop :=
  List.Forall₂ fun l m => l.1 = m.1 ∧ AlikeRules l.2 m.2

/-- Settings of one layer that hold the same. -/
def SameMention (a b : Layer × RuleSetting) : Prop := a.1 = b.1 ∧ SameSetting a.2 b.2

/-- Settings that come to the same. -/
structure SameResolved (a b : Resolved) : Prop where
  severity : a.severity = b.severity
  options : SameAnswer a.options b.options

theorem agree_blocksAt {path : String} {os ps : List Override}
    (h : List.Forall₂ (fun o p : Override => o.files = p.files ∧ AlikeRules o.rules p.rules) os ps) :
    ∀ index, Agree AlikeLayers (blocksAt path index os) (blocksAt path index ps) := by
  induction h with
  | nil => exact fun _ => .ok .nil
  | @cons o p os ps hop _ ih =>
    intro index
    rw [blocksAt, blocksAt, hop.1]
    cases Glob.globAny path p.files with
    | error e => exact .error e e
    | ok hit =>
      refine (ih (index + 1)).bind fun ls ms hlm => ?_
      cases hit with
      | false => exact .ok hlm
      | true => exact .ok (.cons ⟨rfl, hop.2⟩ hlm)

theorem agree_layersAt {c d : Config} (h : c.Alike d) (path : String) :
    Agree AlikeLayers (layersAt (some c) path) (layersAt (some d) path) :=
  (agree_blocksAt h.overrides 0).map fun _ _ hlm => .cons ⟨rfl, h.rules⟩ hlm

/-- Layers that hold the same mention a rule in the same places. -/
theorem mentions_rel (rule : String) {ls ms : List (Layer × RuleSettings)} (h : AlikeLayers ls ms) :
    List.Forall₂ SameMention (mentions rule ls) (mentions rule ms) := by
  induction h with
  | nil => exact .nil
  | @cons l m ls ms hlm _ ih =>
    have hsplit : ∀ (l : Layer × RuleSettings) ls, mentions rule (l :: ls) =
        (Assoc.valuesOf rule l.2).map (fun s => (l.1, s)) ++ mentions rule ls := fun _ _ => rfl
    have hset := hlm.2.settings rule
    rw [hsplit, hsplit, Assoc.valuesOf_of_nodup hlm.2.left, Assoc.valuesOf_of_nodup hlm.2.right, hlm.1]
    generalize Assoc.get? rule l.2 = x at hset
    generalize Assoc.get? rule m.2 = y at hset
    cases hset with
    | none => exact ih
    | some hst => exact .cons ⟨rfl, hst⟩ ih

theorem getLast?_rel {α β : Type} {R : α → β → Prop} {xs : List α} {ys : List β} (h : List.Forall₂ R xs ys) :
    Option.Rel R xs.getLast? ys.getLast? := by
  have hreverse : List.Forall₂ R xs.reverse ys.reverse := List.rel_reverse h
  rw [List.getLast?_eq_head?_reverse, List.getLast?_eq_head?_reverse]
  generalize xs.reverse = us at hreverse
  generalize ys.reverse = vs at hreverse
  cases hreverse with
  | nil => exact .none
  | cons huv _ => exact .some huv

/-! ## 3. Answers that are the same -/

section Answers

variable {registry : Registry} (hblind : registry.OrderBlind)

include hblind

/-- Settings that hold the same come to the same. -/
theorem agree_readSetting (rule : String) {s t : RuleSetting} (h : SameSetting s t) :
    Agree SameResolved (readSetting registry rule s) (readSetting registry rule t) := by
  have hoptions := h.options
  have horDefault : ∀ x y, Option.Rel SameAnswer x y →
      Agree SameResolved ((registry.optionsOrDefault rule x).map fun os => ⟨t.severity, os⟩)
        ((registry.optionsOrDefault rule y).map fun os => ⟨t.severity, os⟩) := by
    rintro x y (hxy | -)
    · exact .ok ⟨rfl, hxy⟩
    · cases hdefault : registry.defaultOptions rule with
      | error f =>
        simp only [Registry.optionsOrDefault, hdefault]
        exact .error f f
      | ok os =>
        simp only [Registry.optionsOrDefault, hdefault]
        exact .ok ⟨rfl, .inl rfl⟩
  unfold readSetting
  rw [h.severity]
  generalize s.options = x at hoptions
  generalize t.options = y at hoptions
  cases hoptions with
  | none => exact horDefault none none .none
  | @some os ps hop =>
    refine Agree.bind (R := Option.Rel SameAnswer) ?_ horDefault
    unfold readOptions
    cases hm : (registry.info? rule).bind RuleInfo.options with
    | none => exact .ok (.some (.inr hop.same))
    | some m => exact hblind rule m hm os ps hop

theorem settingFault_iff_of_same (rule : String) {s t : RuleSetting} (h : SameSetting s t) :
    settingFault registry rule s = none ↔ settingFault registry rule t = none := by
  have hagree := agree_readSetting hblind rule h
  rw [readSetting_eq, readSetting_eq] at hagree
  rw [settingFault_eq_none_iff, settingFault_eq_none_iff]
  generalize settingOptions registry rule s = x at hagree ⊢
  generalize settingOptions registry rule t = y at hagree ⊢
  cases x with
  | error e =>
    cases y with
    | error f => simp
    | ok ps => cases hagree
  | ok os =>
    cases y with
    | error f => cases hagree
    | ok ps => simp

theorem sameResolved_of_options (rule : String) {s t : RuleSetting} (h : SameSetting s t) {os ps : Entries}
    (hos : settingOptions registry rule s = .ok os) (hps : settingOptions registry rule t = .ok ps) :
    SameResolved ⟨s.severity, os⟩ ⟨t.severity, ps⟩ := by
  have hagree := agree_readSetting hblind rule h
  rw [readSetting_eq, readSetting_eq, hos, hps] at hagree
  cases hagree with
  | ok h => exact h

omit hblind in
/-- Reading all winners gives something exactly if each of them has options. -/
theorem readAll_isOk_iff (ls : List (Layer × RuleSettings)) :
    (∃ found, readAll registry (winners ls) = .ok found) ↔
      ∀ rule, ∀ d ∈ (mentions rule ls).getLast?, settingFault registry rule d.2 = none := by
  have hfind : (∃ found, readAll registry (winners ls) = .ok found) ↔
      ((winners ls).findSome? fun w => settingFault registry w.1 w.2.2) = none := by
    rw [Option.eq_none_iff_forall_not_mem]
    simp only [Option.mem_def, ← readAll_eq_error_iff]
    cases readAll registry (winners ls) <;> simp
  rw [hfind, List.findSome?_eq_none_iff]
  constructor
  · rintro h rule ⟨layer, s⟩ hd
    exact h _ (mem_winners_iff.mpr hd)
  · rintro h ⟨rule, layer, s⟩ hw
    exact h rule (layer, s) (mem_winners_iff.mp hw)

/-- **Layers that hold the same come to the same.** -/
theorem agree_readAll {ls ms : List (Layer × RuleSettings)} (h : AlikeLayers ls ms) :
    Agree (fun found found' => ∀ rule, Option.Rel SameResolved (Assoc.get? rule found) (Assoc.get? rule found'))
      (readAll registry (winners ls)) (readAll registry (winners ms)) := by
  have hrel : ∀ rule, Option.Rel SameMention (mentions rule ls).getLast? (mentions rule ms).getLast? :=
    fun rule => getLast?_rel (mentions_rel rule h)
  have hok : (∃ found, readAll registry (winners ls) = .ok found) ↔
      ∃ found, readAll registry (winners ms) = .ok found := by
    rw [readAll_isOk_iff, readAll_isOk_iff]
    refine forall_congr' fun rule => ?_
    have hdd := hrel rule
    generalize (mentions rule ls).getLast? = x at hdd
    generalize (mentions rule ms).getLast? = y at hdd
    cases hdd with
    | none => simp
    | some hd => simpa using settingFault_iff_of_same hblind rule hd.2
  cases hl : readAll registry (winners ls) with
  | error e =>
    cases hm : readAll registry (winners ms) with
    | error f => exact .error e f
    | ok found => exact absurd (hok.mpr ⟨found, hm⟩) (by simp [hl])
  | ok found =>
    obtain ⟨found', hm⟩ := hok.mp ⟨found, hl⟩
    rw [hm]
    refine .ok fun rule => ?_
    have hdd := hrel rule
    have hget := get?_readAll rule hl
    have hget' := get?_readAll rule hm
    rw [get?_winners] at hget hget'
    rcases hget with ⟨hnone, hg⟩ | ⟨d, os, hd, hos, hg⟩
    · rcases hget' with ⟨-, hg'⟩ | ⟨d', ps, hd', -, -⟩
      · rw [hg, hg']
        exact .none
      · rw [hnone, hd'] at hdd
        cases hdd
    · rcases hget' with ⟨hnone', -⟩ | ⟨d', ps, hd', hps, hg'⟩
      · rw [hd, hnone'] at hdd
        cases hdd
      · rw [hd, hd'] at hdd
        rw [hg, hg']
        cases hdd with
        | some hdd => exact .some (sameResolved_of_options hblind rule hdd.2 hos hps)

variable {c d : Config}

/-- The settings at a path are the same. -/
theorem agree_resolveAfresh (h : c.Alike d) (path : String) :
    Agree (fun found found' => ∀ rule, Option.Rel SameResolved (Assoc.get? rule found) (Assoc.get? rule found'))
      (resolveAfresh (some c) registry path) (resolveAfresh (some d) registry path) :=
  ((agree_layersAt h (Path.normal path)).mapError Fault.pattern).bind fun _ _ hlm => agree_readAll hblind hlm

/-- **Configurations that hold the same give a rule the same severity.** -/
theorem agree_severityAt (h : c.Alike d) (rule path : String) :
    Agree (· = ·) (severityAt (some c) registry rule path) (severityAt (some d) registry rule path) := by
  refine (agree_resolveAfresh hblind h path).map fun found found' hall => ?_
  have hrule := hall rule
  generalize Assoc.get? rule found = x at hrule
  generalize Assoc.get? rule found' = y at hrule
  cases hrule with
  | none => rfl
  | some h => exact h.severity

/-- **They give it the same options.** -/
theorem agree_optionsAt (h : c.Alike d) (rule path : String) :
    Agree SameAnswer (optionsAt (some c) registry rule path) (optionsAt (some d) registry rule path) := by
  refine (agree_resolveAfresh hblind h path).bind fun found found' hall => ?_
  have hrule := hall rule
  generalize Assoc.get? rule found = x at hrule
  generalize Assoc.get? rule found' = y at hrule
  cases hrule with
  | none =>
    show Agree SameAnswer (registry.defaultOptions rule) (registry.defaultOptions rule)
    cases registry.defaultOptions rule with
    | error f => exact .error f f
    | ok os => exact .ok (.inl rfl)
  | some h => exact .ok h.options

end Answers

end Resolver

/-! ## 4. Configurations as documents -/

/-- What stands at one key in both is plain and the same. -/
theorem SameOptions.same_at {os ps : Entries} (h : SameOptions os ps) (key : String) {v w : Value}
    (hv : Entries.get? key os = some v) (hw : Entries.get? key ps = some w) :
    v.isPlain = true ∧ w.isPlain = true ∧ Value.same v w = true := by
  have hvplain := (Entries.plain_of_mem h.left (Entries.mem_of_find? h.left hv)).2
  have hwplain := (Entries.plain_of_mem h.right (Entries.mem_of_find? h.right hw)).2
  have hrel := h.get?_rel key
  rw [hv, hw] at hrel
  cases hrel with
  | some hvw => exact ⟨hvplain, hwplain, hvw⟩

theorem sameOptions_of_map {os ps : Entries} (hos : (Value.map os).isPlain = true)
    (hps : (Value.map ps).isPlain = true) (h : Value.same (.map os) (.map ps) = true) : SameOptions os ps := by
  rw [Value.isPlain] at hos hps
  exact ⟨hos, hps, h⟩

namespace Config

theorem word_injective {s t : Severity} (h : s.word = t.word) : s = t := by
  have hread := parse?_word s
  rw [h, parse?_word t] at hread
  exact (Option.some.inj hread).symm

theorem sameSetting_of_same {s t : RuleSetting} (hs : (settingValue s).isPlain = true)
    (ht : (settingValue t).isPlain = true) (h : Value.same (settingValue s) (settingValue t) = true) :
    SameSetting s t := by
  obtain ⟨severity, options⟩ := s
  obtain ⟨severity', options'⟩ := t
  cases options with
  | none =>
    cases options' with
    | none =>
      simp only [settingValue, Value.same, decide_eq_true_eq] at h
      exact ⟨word_injective h, .none⟩
    | some ps => simp [settingValue, Entries.ofFields, Value.same] at h
  | some os =>
    cases options' with
    | none => simp [settingValue, Entries.ofFields, Value.same] at h
    | some ps =>
      have hfields := sameOptions_of_map hs ht h
      obtain ⟨-, -, hseverity⟩ := hfields.same_at "severity" rfl rfl
      obtain ⟨hos, hps, hop⟩ := hfields.same_at "options" rfl rfl
      rw [Value.same, decide_eq_true_eq] at hseverity
      exact ⟨word_injective hseverity, .some (sameOptions_of_map hos hps hop)⟩

theorem get?_fields (id : String) (rs : RuleSettings) :
    Entries.get? id (rs.map fun e => (.text e.1, settingValue e.2)) = (Assoc.get? id rs).map settingValue := by
  induction rs with
  | nil => rfl
  | cons e rs ih =>
    rw [Entries.get?] at ih
    rw [List.map_cons, Entries.get?, Entries.find?_text_cons, ih, Assoc.get?_cons]
    by_cases he : e.1 = id
    · rw [if_pos he, if_pos he]
      rfl
    · rw [if_neg he, if_neg he]

/-- Rules that are plain as a document are set once each. -/
theorem nodup_of_isPlain {rs : RuleSettings} (h : (rulesValue rs).isPlain = true) : (Assoc.keys rs).Nodup := by
  rw [rulesValue_eq, Value.isPlain] at h
  have hnodup := Entries.nodup_keys h
  rw [List.map_map] at hnodup
  have hkeys : (Assoc.keys (RuleSettings.inOrder rs)).Nodup :=
    List.Nodup.of_map Value.text (by simpa [Assoc.keys, Function.comp_def] using hnodup)
  exact ((List.mergeSort_perm rs _).map Prod.fst).nodup_iff.mp hkeys

theorem alikeRules_of_same {rs ss : RuleSettings} (hrs : (rulesValue rs).isPlain = true)
    (hss : (rulesValue ss).isPlain = true) (h : Value.same (rulesValue rs) (rulesValue ss) = true) :
    AlikeRules rs ss := by
  have hleft := nodup_of_isPlain hrs
  have hright := nodup_of_isPlain hss
  refine ⟨hleft, hright, fun id => ?_⟩
  rw [rulesValue_eq] at hrs hss h
  rw [rulesValue_eq] at h
  have hfields := sameOptions_of_map hrs hss h
  have hrel := hfields.get?_rel id
  have hat := fun v w => hfields.same_at (v := v) (w := w) id
  rw [get?_fields, get?_fields] at hrel
  simp only [get?_fields] at hat
  rw [← sameRules_inOrder hleft id, ← sameRules_inOrder hright id]
  generalize Assoc.get? id (RuleSettings.inOrder rs) = x at hrel hat
  generalize Assoc.get? id (RuleSettings.inOrder ss) = y at hrel hat
  cases x with
  | none =>
    cases y with
    | none => exact .none
    | some t => cases hrel
  | some s =>
    cases y with
    | none => cases hrel
    | some t =>
      obtain ⟨hs, ht, hst⟩ := hat _ _ rfl rfl
      exact .some (sameSetting_of_same hs ht hst)

theorem texts_eq_of_same {ts us : List String} (h : Value.same (textsValue ts) (textsValue us) = true) : ts = us := by
  rw [textsValue, textsValue, Value.same, Value.sameItems_iff, List.forall₂_map_left_iff,
    List.forall₂_map_right_iff] at h
  refine List.forall₂_eq_eq_eq ▸ h.imp fun t u htu => ?_
  rwa [Value.same, decide_eq_true_eq] at htu

theorem alike_overrides_of_same {os ps : List Override} (hos : Value.arePlain (os.map overrideValue) = true)
    (hps : Value.arePlain (ps.map overrideValue) = true)
    (h : Value.sameItems (os.map overrideValue) (ps.map overrideValue) = true) :
    List.Forall₂ (fun o p : Override => o.files = p.files ∧ AlikeRules o.rules p.rules) os ps := by
  rw [Value.sameItems_iff, List.forall₂_map_left_iff, List.forall₂_map_right_iff] at h
  rw [Value.arePlain_iff] at hos hps
  induction h with
  | nil => exact .nil
  | @cons o p os ps hop _ ih =>
    rw [List.map_cons, List.forall_mem_cons] at hos hps
    have hfields := sameOptions_of_map hos.1 hps.1 hop
    obtain ⟨-, -, hfiles⟩ := hfields.same_at "files" rfl rfl
    obtain ⟨hro, hrp, hrules⟩ := hfields.same_at "rules" rfl rfl
    exact .cons ⟨texts_eq_of_same hfiles, alikeRules_of_same hro hrp hrules⟩ (ih hos.2 hps.2)

/-- **Documents that are plain and the same are of configurations that hold the same.** -/
theorem alike_of_same {c d : Config} (hc : c.toValue.isPlain = true) (hd : d.toValue.isPlain = true)
    (h : Value.same c.toValue d.toValue = true) : c.Alike d := by
  have hfields := sameOptions_of_map hc hd h
  obtain ⟨hrc, hrd, hrules⟩ := hfields.same_at "rules" rfl rfl
  obtain ⟨hoc, hod, hoverrides⟩ := hfields.same_at "overrides" rfl rfl
  rw [Value.isPlain] at hoc hod
  rw [Value.same] at hoverrides
  exact ⟨alikeRules_of_same hrc hrd hrules, alike_overrides_of_same hoc hod hoverrides⟩

end Config

end AgentLint
