import AgentLint.Proofs.Family.Failures
import AgentLint.Proofs.Rule.Instructions
import AgentLint.Proofs.Rule.Options

/-!
# How checks end

A check ends well or with a fault, and leaves views and reports in either case.  `Check.EndsAs` says how it ends,
and that this does not depend on what it starts from: neither on the views that other rules have left nor on the
reports so far.  It is closed under all that checks are made of, so the end of a check is found by going through its
text once, and a check made of many is as the first of them that fails (`EndsAs.forM`).

If all rules of a file end like this, then running them is like asking each of them by itself, until one fails
(`Runner.endOf_eq_forM`).  Mostly no rule of a category but one can fail at all, and then the run fails exactly if that
one is on and fails (`Runner.endOf_eq_crash_iff`).
-/

namespace AgentLint

/-! ## 1. Checks -/

namespace Check

variable {content : String} {α β γ : Type}

/-- The check ends with the outcome, whatever it starts from. -/
def EndsAs (m : Check content α) (x : Except Fault α) : Prop := ∀ t, (exec m t).1 = x

namespace EndsAs

theorem pure (a : α) : EndsAs (Pure.pure a : Check content α) (.ok a) := fun _ => rfl

theorem report (r : Report) : EndsAs (Check.report r : Check content Unit) (.ok ()) := fun _ => rfl

theorem lift {ε : Type} (wrap : ε → Fault) (x : Except ε α) :
    EndsAs (Check.lift wrap x : Check content α) (x.mapError wrap) := by
  intro t
  cases x <;> rfl

theorem prose : EndsAs (Check.prose : Check content String) (.ok (Markdown.withoutCode content)) := by
  intro t
  obtain ⟨v, hv⟩ := exec_prose t
  rw [hv]

theorem bind {m : Check content α} {k : α → Check content β} {x : Except Fault α} {y : α → Except Fault β}
    (hm : EndsAs m x) (hk : ∀ a, x = .ok a → EndsAs (k a) (y a)) : EndsAs (m >>= k) (x >>= y) := by
  intro t
  have hfirst := hm t
  rw [exec_bind]
  cases hrun : exec m t with
  | mk r u =>
    rw [hrun] at hfirst
    subst hfirst
    cases r with
    | error e => rfl
    | ok a => exact hk a rfl u

/-- A check that goes on only after one that cannot fail. -/
theorem bind_ok {m : Check content α} {k : α → Check content β} {a : α} {x : Except Fault β}
    (hm : EndsAs m (.ok a)) (hk : EndsAs (k a) x) : EndsAs (m >>= k) x :=
  hm.bind fun _ ha => Except.ok.inj ha ▸ hk

theorem ite {p : Prop} [Decidable p] {m n : Check content α} {x : Except Fault α} (hm : p → EndsAs m x)
    (hn : ¬ p → EndsAs n x) : EndsAs (if p then m else n) x := by
  split
  · exact hm ‹p›
  · exact hn ‹¬ p›

theorem forM {f : γ → Check content Unit} {g : γ → Except Fault Unit} : ∀ {xs : List γ},
    (∀ x ∈ xs, EndsAs (f x) (g x)) → EndsAs (xs.forM f) (ForM.forM xs g)
  | [], _ => pure ()
  | x :: xs, h => by
    rw [List.forM_cons]
    exact (h x List.mem_cons_self).bind fun _ _ => forM fun y hy => h y (List.mem_cons_of_mem x hy)

/-- A check made of checks that cannot fail cannot fail. -/
theorem forM_ok {f : γ → Check content Unit} {xs : List γ} (h : ∀ x ∈ xs, EndsAs (f x) (.ok ())) :
    EndsAs (xs.forM f) (.ok ()) := by
  have hall := forM (g := fun _ => Except.ok ()) h
  rwa [forM_eq_ok_iff.mpr fun _ _ => rfl] at hall

end EndsAs

end Check

/-- A rule ends as its check does, whatever was left to it. -/
theorem Rule.runOn_fst {rule : Rule} {c : Context} {x : Except Fault Unit} (h : Check.EndsAs (rule.check c) x)
    (shared : Shared c.content) : (rule.runOn c shared).1 = x := h ⟨shared, []⟩

theorem Rule.run_fst {rule : Rule} {c : Context} {x : Except Fault Unit} (h : Check.EndsAs (rule.check c) x)
    (views : Views c.content) : (rule.run c views).1 = x := Rule.runOn_fst h ⟨views, none⟩

/-! ## 2. The rules of a file -/

namespace Runner

section Ends

variable {config : Option Config} {registry : Registry} {host : Host} {path content : String}
variable {ends : Rule → Entries → Except Fault Unit} {rules : List Rule}

/-- Where the settings at a path cannot be worked out, those of no rule can. -/
theorem optionsIfOn_of_unresolved {e : Fault} (he : Resolver.resolveAfresh config registry path = .error e)
    (rule : String) : optionsIfOn config registry rule path = .error e := by
  unfold optionsIfOn Resolver.severityAt
  rw [he]
  rfl

/-- If a rule has default options, there is no other reason. -/
theorem unresolved_of_optionsIfOn {rule : String} (hdefault : ∃ os, registry.defaultOptions rule = .ok os) {e : Fault}
    (he : optionsIfOn config registry rule path = .error e) :
    Resolver.resolveAfresh config registry path = .error e := by
  obtain ⟨os, hos⟩ := hdefault
  unfold optionsIfOn Resolver.severityAt Resolver.optionsAt at he
  cases hfound : Resolver.resolveAfresh config registry path with
  | error e' =>
    rw [hfound] at he
    cases he
    rfl
  | ok found =>
    have hoptions : ∃ os, registry.optionsOrDefault rule ((Assoc.get? rule found).map Resolved.options) = .ok os := by
      cases Assoc.get? rule found with
      | none => exact ⟨os, hos⟩
      | some s => exact ⟨s.options, rfl⟩
    obtain ⟨os', hos'⟩ := hoptions
    rw [hfound] at he
    dsimp only [Except.map, bind, Except.bind] at he
    rw [hos'] at he
    split at he
    · rename_i hseverity
      cases hseverity
    · cases he
    · cases he

/-- How one rule ends by itself, if `ends` says so for the options with which it is on. -/
def endOfRule (config : Option Config) (registry : Registry) (path : String)
    (ends : Rule → Entries → Except Fault Unit) (rule : Rule) : Except Fault Unit :=
  match optionsIfOn config registry rule.info.id path with
  | .error e => .error e
  | .ok none => .ok ()
  | .ok (some options) => (ends rule options).mapError (.crash rule.info.id path)

/-- **Rules end one after the other**, each by itself. -/
theorem endOf_eq_forM : ∀ {rules : List Rule} (shared : Shared content),
    (∀ rule ∈ rules, ∀ options, optionsIfOn config registry rule.info.id path = .ok (some options) →
      Check.EndsAs (rule.check ⟨rule.info.id, path, content, options, host⟩) (ends rule options)) →
    endOf config registry host path content rules shared =
      ForM.forM rules (endOfRule config registry path ends)
  | [], _, _ => rfl
  | rule :: rest, shared, h => by
    obtain ⟨hrule, hrest⟩ := List.forall_mem_cons.mp h
    have hnext := fun shared : Shared content => endOf_eq_forM shared hrest
    rw [List.forM_cons, endOf, endOfRule]
    cases hon : optionsIfOn config registry rule.info.id path with
    | error e => rfl
    | ok options =>
      cases options with
      | none => exact hnext shared
      | some options =>
        have hfst := Rule.runOn_fst (hrule options hon) shared
        dsimp only
        cases hrun : rule.runOn ⟨rule.info.id, path, content, options, host⟩ shared with
        | mk end_ trace =>
          rw [hrun] at hfst
          rw [← hfst]
          cases end_ with
          | error e => rfl
          | ok _ => exact hnext trace.toShared

/-- A rule fails by itself exactly if it is on and its check fails. -/
theorem endOfRule_eq_crash_iff {rule : Rule}
    (hsettings : ∀ e, optionsIfOn config registry rule.info.id path = .error e → ∃ why, e = .pattern why)
    {id p : String} {cause : Fault} :
    endOfRule config registry path ends rule = .error (.crash id p cause) ↔
      id = rule.info.id ∧ p = path ∧ ∃ options, optionsIfOn config registry rule.info.id path = .ok (some options) ∧
        ends rule options = .error cause := by
  unfold endOfRule
  constructor
  · intro h
    split at h
    · rename_i e he
      obtain ⟨why, rfl⟩ := hsettings e he
      cases h
    · cases h
    · rename_i options hon
      obtain ⟨e, he, hcrash⟩ := mapError_eq_error_iff.mp h
      cases hcrash
      exact ⟨rfl, rfl, options, hon, he⟩
  · rintro ⟨rfl, rfl, options, hon, he⟩
    rw [hon]
    exact mapError_eq_error_iff.mpr ⟨cause, he, rfl⟩

/-- Where no rule but one can fail, it is that one that does. -/
theorem endOf_eq_crash_iff (ends : Rule → Entries → Except Fault Unit) {only : Rule} (honly : only ∈ rules)
    (h : ∀ rule ∈ rules, ∀ options, optionsIfOn config registry rule.info.id path = .ok (some options) →
      Check.EndsAs (rule.check ⟨rule.info.id, path, content, options, host⟩) (ends rule options))
    (hothers : ∀ rule ∈ rules, rule ≠ only → ∀ options, ends rule options = .ok ())
    (hdefaults : ∀ rule ∈ rules, ∃ os, registry.defaultOptions rule.info.id = .ok os)
    (hpatterns : ∀ e, Resolver.resolveAfresh config registry path = .error e → ∃ why, e = .pattern why)
    (shared : Shared content) {id p : String} {cause : Fault} :
    endOf config registry host path content rules shared = .error (.crash id p cause) ↔
      id = only.info.id ∧ p = path ∧ ∃ options, optionsIfOn config registry only.info.id path = .ok (some options) ∧
        ends only options = .error cause := by
  have hcrash : ∀ rule ∈ rules, ∀ id p cause, endOfRule config registry path ends rule = .error (.crash id p cause) ↔
      id = rule.info.id ∧ p = path ∧ ∃ options, optionsIfOn config registry rule.info.id path = .ok (some options) ∧
        ends rule options = .error cause := fun rule hrule _ _ _ =>
    endOfRule_eq_crash_iff fun e he => hpatterns e (unresolved_of_optionsIfOn (hdefaults rule hrule) he)
  rw [endOf_eq_forM shared h, ← hcrash only honly]
  constructor
  · intro hfail
    obtain ⟨before, rule, after, rfl, -, hrule⟩ := forM_eq_error_iff.mp hfail
    by_cases hne : rule = only
    · exact hne ▸ hrule
    · obtain ⟨-, -, options, -, he⟩ := (hcrash rule (by simp) _ _ _).mp hrule
      rw [hothers rule (List.mem_append_right _ List.mem_cons_self) hne options] at he
      cases he
  · intro honlyFails
    obtain ⟨-, -, options, hon, -⟩ := (hcrash only honly _ _ _).mp honlyFails
    -- The settings at the path can be worked out, so that the others are either off or end well.
    have hsettled : ∀ rule ∈ rules, rule ≠ only → endOfRule config registry path ends rule = .ok () := by
      intro rule hrule hne
      unfold endOfRule
      split
      · rename_i e he
        have hunresolved := unresolved_of_optionsIfOn (hdefaults rule hrule) he
        cases hon.symm.trans (optionsIfOn_of_unresolved hunresolved only.info.id)
      · rfl
      · rw [hothers rule hrule hne]
        rfl
    cases hrun : ForM.forM rules (endOfRule config registry path ends) with
    | ok _ =>
      have hok := forM_eq_ok_iff.mp hrun only honly
      rw [honlyFails] at hok
      cases hok
    | error fault =>
      obtain ⟨before, rule, after, rfl, -, hrule⟩ := forM_eq_error_iff.mp hrun
      by_cases hne : rule = only
      · rw [← hrule, hne, honlyFails]
      · rw [hsettled rule (List.mem_append_right _ List.mem_cons_self) hne] at hrule
        cases hrule

/-- A category ends as its rules do. -/
theorem Ready.runCategory_snd {reportUnused : Bool} {r : Runner} (hr : Ready config registry reportUnused r)
    (host : Host) (category : Category) (path content : String) :
    (r.runCategory host category path content).2 =
      endOf config registry host path content (registry.ofCategory category) .fresh := by
  rw [runCategory, hr.registry_eq]
  exact runRules_snd _ (hr.enter path content) _

end Ends

end Runner

end AgentLint
