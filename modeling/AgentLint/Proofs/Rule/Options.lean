import AgentLint.Proofs.Resolver.Memory
import AgentLint.Proofs.Sequencing
import AgentLint.Proofs.Value
import AgentLint.Rule.Builtin
import Mathlib.Data.List.Nodup

/-!
# Options that a rule takes

Options reach a rule by way of its model: they are what the model has made of given ones (`RuleInfo.Accepts`).  The
models of the built-in rules have one option each, so what reaches such a rule is this option and nothing else, and the
rule can rely on its kind: a number above zero, a switch, or a pattern that can be read (`Builtin.holds_of_accepts`).
For the standard value of an option this is a fact about the built-in rules, each of which passes its own check.

`Resolver.accepts_of_optionsAt` is the other half: whatever a configuration says, the options that a rule is run with
are accepted by its model, if the default options are.
-/

namespace AgentLint

/-! ## 1. What a model lets through -/

/-- A value of a kind. -/
def OptionKind.Holds : OptionKind → Value → Prop
  | positive _, v => ∃ n : Int, 0 < n ∧ v = .int n
  | switch _, v => ∃ b, v = .bool b
  | pattern _, v => ∃ s p, v = .text s ∧ Regex.read s = .ok p

theorem OptionKind.holds_of_read {k : OptionKind} {v w : Value} (h : k.read v = .ok (.ok w)) : k.Holds w := by
  cases k with
  | positive n =>
    rw [read, Except.ok.injEq, bind_eq_ok_iff] at h
    obtain ⟨i, -, h⟩ := h
    split at h
    · cases h
      exact ⟨i, ‹0 < i›, rfl⟩
    · cases h
  | switch b =>
    rw [read, Except.ok.injEq, map_eq_ok_iff] at h
    obtain ⟨b, -, rfl⟩ := h
    exact ⟨b, rfl⟩
  | pattern s =>
    rw [read] at h
    split at h
    · rename_i t ht
      unfold patternOf at h
      split at h
      · cases h
        exact ⟨t, _, rfl, ‹Regex.read t = .ok _›⟩
      · split at h <;> cases h
    · cases h

/-- A standard value that is accepted is accepted as it is. -/
theorem OptionKind.eq_standard_of_read {k : OptionKind} {w : Value} (h : k.read k.standard = .ok (.ok w)) :
    w = k.standard := by
  cases k with
  | positive n =>
    rw [standard, read, integerOf, Except.ok.injEq, bind_eq_ok_iff] at h
    obtain ⟨i, hi, h⟩ := h
    cases hi
    split at h
    · cases h
      rfl
    · cases h
  | switch b =>
    cases h
    rfl
  | pattern s =>
    have hread : patternOf s = .ok (.ok w) := h
    unfold patternOf at hread
    split at hread
    · cases hread
      rfl
    · split at hread <;> cases hread

namespace FieldModel

variable {m : FieldModel} {given os : Entries}

theorem check_model_iff : m.model.check given = .ok (.ok os) ↔ m.check given = .ok (.ok os) := by
  show ((m.check given).mapError Fault.pattern).map (fun c => c.mapError m.refusal) = _ ↔ _
  simp only [map_eq_ok_iff, mapError_eq_ok_iff]
  exact ⟨fun ⟨_, hc, hok⟩ => hok ▸ hc, fun h => ⟨_, h, rfl⟩⟩

/-- **What a model makes of options** is its one option, of its kind or as it is by itself. -/
theorem exists_of_check (h : m.check given = .ok (.ok os)) :
    ∃ v, os = [(.text m.field, v)] ∧ (v = m.kind.standard ∨ m.kind.Holds v) := by
  obtain ⟨r, hr, hchecked⟩ := map_eq_ok_iff.mp h
  cases r with
  | error c => cases hchecked
  | ok v =>
    split at hchecked
    · rename_i hv _
      cases hv
      cases hchecked
      refine ⟨v, rfl, ?_⟩
      unfold value at hr
      split at hr
      · cases hr
        exact .inl rfl
      · obtain ⟨w, hw, hmap⟩ := map_eq_ok_iff.mp hr
        obtain rfl := mapError_eq_ok_iff.mp hmap
        exact .inr (OptionKind.holds_of_read hw)
    · cases hchecked
    · cases hchecked

/-- A standard value that passes the check is of its kind. -/
theorem holds_standard_of_check (h : m.check m.defaults = .ok (.ok os)) : m.kind.Holds m.kind.standard := by
  obtain ⟨r, hr, hchecked⟩ := map_eq_ok_iff.mp h
  have hget : Entries.get? m.field m.defaults = some m.kind.standard := by
    simp [Entries.get?, defaults, Entries.find?_text_cons]
  rw [value, hget] at hr
  obtain ⟨read, hread, rfl⟩ := map_eq_ok_iff.mp hr
  cases read with
  | error p => cases hchecked
  | ok w =>
    rw [OptionKind.eq_standard_of_read hread] at hread
    exact OptionKind.holds_of_read hread

end FieldModel

/-- The options are what the model of the rule makes of some; a rule without a model takes any. -/
def RuleInfo.Accepts (i : RuleInfo) (os : Entries) : Prop :=
  ∀ m, i.options = some m → ∃ given, m.check given = .ok (.ok os)

/-- The default options are accepted: the model makes them of some as well. -/
def RuleInfo.AcceptsDefault (i : RuleInfo) : Prop := ∀ os, i.defaultOptions = .ok os → i.Accepts os

namespace Builtin

/-- Every standard value passes the check of its own model. -/
theorem holds_standard {r : Rule} (hr : r ∈ rules) {m : FieldModel} (hm : r.info.options = some m.model) :
    m.kind.Holds m.kind.standard := by
  have hpasses : ∀ r ∈ rules, ∀ m ∈ r.info.options.toList,
      ((m.defaults.toOption.bind fun os => (m.check os).toOption).bind Except.toOption).isSome = true := by
    decide +kernel
  have hsome := hpasses r hr m.model (Option.mem_toList.mpr hm)
  obtain ⟨os, hos⟩ := Option.isSome_iff_exists.mp hsome
  obtain ⟨c, hc, hok⟩ := Option.bind_eq_some_iff.mp hos
  have hcheck : m.model.check m.defaults = .ok (.ok os) := by
    rw [eq_ok_of_toOption (x := m.model.check m.defaults) hc, eq_ok_of_toOption hok]
  exact FieldModel.holds_standard_of_check (FieldModel.check_model_iff.mp hcheck)

/-- The models of the built-in rules are those of one option. -/
theorem exists_fieldModel {r : Rule} (hr : r ∈ rules) {m : OptionModel} (hm : r.info.options = some m) :
    ∃ f : FieldModel, m = f.model := by
  have hfield : ∀ r ∈ rules, r.info.options = none ∨ ∃ f : FieldModel, r.info.options = some f.model := by
    simp only [rules, instructionRules, skillRules, agentRules, serverRules, settingRules, List.cons_append,
      List.nil_append, List.forall_mem_cons]
    simp
  rcases hfield r hr with hnone | ⟨f, hf⟩
  · rw [hnone] at hm
    cases hm
  · exact ⟨f, Option.some.inj (hm.symm.trans hf)⟩

theorem acceptsDefault {r : Rule} (hr : r ∈ rules) : r.info.AcceptsDefault := by
  intro os hos m hm
  obtain ⟨f, rfl⟩ := exists_fieldModel hr hm
  rw [RuleInfo.defaultOptions, hm] at hos
  cases hos
  exact ⟨[], rfl⟩

/-- A built-in rule is found under its id. -/
theorem info?_of_mem {r : Rule} (hr : r ∈ rules) : registry.info? r.info.id = some r.info := by
  have hregistry : registry = rules.map fun r => (r.info.id, r) := rfl
  have hnodup : (Assoc.keys registry).Nodup := by decide +kernel
  have hget : Assoc.get? r.info.id registry = some r :=
    Assoc.get?_of_mem hnodup (hregistry ▸ List.mem_map.mpr ⟨r, hr, rfl⟩)
  rw [Registry.info?, hget]
  rfl

/-- What is known under an id is that of a built-in rule. -/
theorem exists_of_info? {id : String} {i : RuleInfo} (hi : registry.info? id = some i) : ∃ r ∈ rules, r.info = i := by
  have hregistry : registry = rules.map fun r => (r.info.id, r) := rfl
  obtain ⟨r, hr, rfl⟩ := Option.map_eq_some_iff.mp hi
  obtain ⟨r', hr', he⟩ := List.mem_map.mp (hregistry ▸ Assoc.mem_of_get? hr)
  cases he
  exact ⟨r, hr', rfl⟩

/-- The default options of a rule can be worked out. -/
theorem exists_defaultOptions (id : String) : ∃ os, registry.defaultOptions id = .ok os := by
  unfold Registry.defaultOptions
  cases hi : registry.info? id with
  | none => exact ⟨[], rfl⟩
  | some i =>
    obtain ⟨r, hr, rfl⟩ := exists_of_info? hi
    dsimp only
    rw [RuleInfo.defaultOptions]
    cases hm : r.info.options with
    | none => exact ⟨[], rfl⟩
    | some m =>
      obtain ⟨f, rfl⟩ := exists_fieldModel hr hm
      exact ⟨_, rfl⟩

/-- Built-in rules are told apart by their ids. -/
theorem eq_of_id_eq {r r' : Rule} (hr : r ∈ rules) (hr' : r' ∈ rules) (h : r.info.id = r'.info.id) :
    r = r' := by
  have hnodup : (rules.map fun r => r.info.id).Nodup := by decide +kernel
  exact List.inj_on_of_nodup_map hnodup hr hr' h

/-- **The options of a built-in rule** are the one that its model has, of its kind. -/
theorem holds_of_accepts {r : Rule} (hr : r ∈ rules) {m : FieldModel} (hm : r.info.options = some m.model)
    {os : Entries} (h : r.info.Accepts os) : ∃ v, os = [(.text m.field, v)] ∧ m.kind.Holds v := by
  obtain ⟨given, hgiven⟩ := h m.model hm
  obtain ⟨v, rfl, rfl | hv⟩ := FieldModel.exists_of_check (FieldModel.check_model_iff.mp hgiven)
  · exact ⟨m.kind.standard, rfl, holds_standard hr hm⟩
  · exact ⟨v, rfl, hv⟩

end Builtin

/-! ## 2. What a configuration lets through -/

namespace Resolver

section Accepted

variable {config : Option Config} {registry : Registry} {rule path : String} {i : RuleInfo} {os : Entries}

theorem accepts_default (hinfo : registry.info? rule = some i) (hdefault : i.AcceptsDefault)
    (hos : registry.defaultOptions rule = .ok os) : i.Accepts os := by
  rw [Registry.defaultOptions, hinfo] at hos
  exact hdefault os hos

theorem accepts_readSetting (hinfo : registry.info? rule = some i) (hdefault : i.AcceptsDefault) {s : RuleSetting}
    {found : Resolved} (h : readSetting registry rule s = .ok found) : i.Accepts found.options := by
  obtain ⟨read, hread, h⟩ := bind_eq_ok_iff.mp h
  obtain ⟨os, hos, rfl⟩ := map_eq_ok_iff.mp h
  cases read with
  | none => exact accepts_default hinfo hdefault hos
  | some _ =>
    cases hos
    split at hread
    · cases hread
    · intro m hm
      obtain ⟨c, hc, hok⟩ := map_eq_ok_iff.mp hread
      rw [readOptions, hinfo, Option.bind_some, hm, eq_ok_of_toOption hok] at hc
      exact ⟨_, hc⟩

/-- What is found for a rule was read of its setting. -/
theorem exists_of_get?_readAll : ∀ {ws : Assoc String (Layer × RuleSetting)} {found : Assoc String Resolved},
    readAll registry ws = .ok found → ∀ {s}, Assoc.get? rule found = some s →
      ∃ setting, readSetting registry rule setting = .ok s
  | [], _, h, s, hs => by
    cases h
    cases hs
  | (id, _, setting) :: ws, _, h, s, hs => by
    obtain ⟨resolved, hresolved, h⟩ := bind_eq_ok_iff.mp h
    obtain ⟨rest, hrest, h⟩ := bind_eq_ok_iff.mp h
    cases h
    rw [Assoc.get?_cons] at hs
    split at hs
    · rename_i hid
      cases hs
      exact ⟨setting, hid ▸ hresolved⟩
    · exact exists_of_get?_readAll hrest hs

/-- **The options of a rule at a path** are accepted by its model. -/
theorem accepts_of_optionsAt (hinfo : registry.info? rule = some i) (hdefault : i.AcceptsDefault)
    (h : optionsAt config registry rule path = .ok os) : i.Accepts os := by
  obtain ⟨found, hfound, hos⟩ := bind_eq_ok_iff.mp h
  obtain ⟨layers, -, hread⟩ := bind_eq_ok_iff.mp hfound
  cases hs : Assoc.get? rule found with
  | none =>
    rw [hs] at hos
    exact accepts_default hinfo hdefault hos
  | some s =>
    rw [hs] at hos
    cases hos
    obtain ⟨setting, hsetting⟩ := exists_of_get?_readAll hread hs
    exact accepts_readSetting hinfo hdefault hsetting

end Accepted

end Resolver

namespace Builtin

/-! ## 3. Settings that cannot be worked out -/

open Resolver

/-- A model fails only for a pattern that is refused. -/
theorem exists_pattern_of_readOptions {id : String} {os : Entries} {e : Fault}
    (h : readOptions registry id os = .error e) : ∃ why, e = .pattern why := by
  unfold readOptions at h
  split at h
  · cases h
  · rename_i m hm
    obtain ⟨i, hi, him⟩ := Option.bind_eq_some_iff.mp hm
    obtain ⟨r, hr, rfl⟩ := exists_of_info? hi
    obtain ⟨f, rfl⟩ := exists_fieldModel hr him
    have hcheck : ((f.check os).mapError Fault.pattern).map (fun c => c.mapError f.refusal) = .error e := h
    cases hf : f.check os with
    | ok c =>
      rw [hf] at hcheck
      cases hcheck
    | error why =>
      rw [hf] at hcheck
      cases hcheck
      exact ⟨why, rfl⟩

theorem exists_pattern_of_readSetting {id : String} {s : RuleSetting} {e : Fault}
    (h : readSetting registry id s = .error e) : ∃ why, e = .pattern why := by
  rcases bind_eq_error_iff.mp h with h | ⟨read, -, h⟩
  · cases hs : s.options with
    | none =>
      rw [hs] at h
      cases h
    | some os =>
      rw [hs] at h
      cases hread : readOptions registry id os with
      | ok c =>
        simp only [hread] at h
        cases h
      | error e' =>
        simp only [hread] at h
        cases h
        exact exists_pattern_of_readOptions hread
  · obtain ⟨os, hos⟩ : ∃ os, registry.optionsOrDefault id read = .ok os := by
      cases read with
      | none => exact exists_defaultOptions id
      | some os => exact ⟨os, rfl⟩
    rw [hos] at h
    cases h

theorem exists_pattern_of_readAll {e : Fault} : ∀ {ws : Assoc String (Layer × RuleSetting)},
    readAll registry ws = .error e → ∃ why, e = .pattern why
  | [], h => by cases h
  | (id, _, s) :: ws, h => by
    rcases bind_eq_error_iff.mp h with h | ⟨resolved, -, h⟩
    · exact exists_pattern_of_readSetting h
    · rcases bind_eq_error_iff.mp h with h | ⟨rest, -, h⟩
      · exact exists_pattern_of_readAll h
      · cases h

/-- **With the built-in rules** the settings at a path can be worked out unless a pattern is refused. -/
theorem exists_pattern_of_resolveAfresh {config : Option Config} {path : String} {e : Fault}
    (h : resolveAfresh config registry path = .error e) : ∃ why, e = .pattern why := by
  rcases bind_eq_error_iff.mp h with h | ⟨layers, -, h⟩
  · obtain ⟨why, -, rfl⟩ := mapError_eq_error_iff.mp h
    exact ⟨why, rfl⟩
  · exact exists_pattern_of_readAll h

end Builtin

end AgentLint
