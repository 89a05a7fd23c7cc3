import Mathlib.Data.List.Forall2
import Mathlib.Tactic.Common

/-!
# Operations in sequence

Two kinds of operations run through this library: those that may fail, and those that may fail and
also change a state.  This module says what a sequence of either kind comes to.
-/

namespace AgentLint

/-! ## 1. With a state -/

section State

variable {ε σ α β : Type}

/-- The outcome of an operation and the state it leaves, whether or not it fails. -/
def exec (op : ExceptT ε (StateM σ) α) (s : σ) : Except ε α × σ := (ExceptT.run op).run s

theorem exec_bind (op : ExceptT ε (StateM σ) α) (k : α → ExceptT ε (StateM σ) β) (s : σ) :
    exec (op >>= k) s = match exec op s with
      | (.ok a, s') => exec (k a) s'
      | (.error e, s') => (.error e, s') := by
  simp only [exec, ExceptT.run_bind, StateT.run_bind]
  generalize StateT.run (ExceptT.run op) s = x
  obtain ⟨r, s'⟩ := x
  cases r <;> rfl

/-- A sequence that does not fail is one of which no part does. -/
theorem exec_bind_eq_ok_iff {op : ExceptT ε (StateM σ) α} {k : α → ExceptT ε (StateM σ) β} {s s' : σ} {b : β} :
    exec (op >>= k) s = (.ok b, s') ↔ ∃ a s₁, exec op s = (.ok a, s₁) ∧ exec (k a) s₁ = (.ok b, s') := by
  rw [exec_bind]
  cases exec op s with
  | mk r s₁ =>
    cases r with
    | error e => exact ⟨nofun, fun ⟨_, _, ha, _⟩ => by cases ha⟩
    | ok a =>
      refine ⟨fun h => ⟨a, s₁, rfl, h⟩, ?_⟩
      rintro ⟨a', s₂, ha, h⟩
      cases ha
      exact h

theorem exec_pure (a : α) (s : σ) : exec (pure a : ExceptT ε (StateM σ) α) s = (.ok a, s) := rfl

theorem exec_throw (e : ε) (s : σ) : exec (throw e : ExceptT ε (StateM σ) α) s = (.error e, s) := rfl

theorem exec_get (s : σ) : exec (get : ExceptT ε (StateM σ) σ) s = (.ok s, s) := rfl

/-- An operation that cannot fail. -/
theorem exec_lift (op : StateM σ α) (s : σ) :
    exec (ExceptT.lift op : ExceptT ε (StateM σ) α) s = (.ok (op.run s).1, (op.run s).2) := rfl

/-- An operation whose failure is an outcome like any other. -/
theorem exec_lift_run {ε' : Type} (op : ExceptT ε (StateM σ) α) (s : σ) :
    exec (ExceptT.lift (ExceptT.run op) : ExceptT ε' (StateM σ) (Except ε α)) s =
      (.ok (exec op s).1, (exec op s).2) := rfl

end State

/-! ## 2. Without a state -/

section Except

variable {ε ε' α β : Type}

theorem eq_ok_of_toOption {x : Except ε α} {a : α} (h : x.toOption = some a) :
    x = .ok a := by
  cases x with
  | error e => cases h
  | ok b =>
    cases h
    rfl

/-- A failure is the same whatever it was to give. -/
theorem error_eq_error_iff {e e' : ε} :
    (Except.error e : Except ε α) = .error e' ↔ (Except.error e : Except ε β) = .error e' := by
  rw [Except.error.injEq, Except.error.injEq]

theorem toOption_bind (x : Except ε α) (k : α → Except ε β) :
    (x >>= k).toOption = x.toOption.bind fun a => (k a).toOption := by
  cases x <;> rfl

theorem toOption_map (f : α → β) (x : Except ε α) : (x.map f).toOption = x.toOption.map f := by
  cases x <;> rfl

theorem mapError_eq_ok_iff {f : ε → ε'} {x : Except ε α} {a : α} : x.mapError f = .ok a ↔ x = .ok a := by
  cases x <;> simp [Except.mapError]

theorem map_eq_ok_iff {f : α → β} {x : Except ε α} {b : β} : x.map f = .ok b ↔ ∃ a, x = .ok a ∧ f a = b := by
  cases x <;> simp [Except.map]

theorem bind_eq_ok_iff {x : Except ε α} {k : α → Except ε β} {b : β} :
    x >>= k = .ok b ↔ ∃ a, x = .ok a ∧ k a = .ok b := by
  cases x with
  | error e => exact ⟨nofun, fun ⟨_, ha, _⟩ => nomatch ha⟩
  | ok a => exact ⟨fun h => ⟨a, rfl, h⟩, fun ⟨_, ha, h⟩ => Except.ok.inj ha ▸ h⟩

theorem mapError_eq_error_iff {f : ε → ε'} {x : Except ε α} {e : ε'} :
    x.mapError f = .error e ↔ ∃ d, x = .error d ∧ f d = e := by
  cases x <;> simp [Except.mapError]

theorem bind_eq_error_iff {x : Except ε α} {k : α → Except ε β} {e : ε} :
    x >>= k = .error e ↔ x = .error e ∨ ∃ a, x = .ok a ∧ k a = .error e := by
  cases x with
  | error d => exact ⟨fun h => .inl (congrArg _ (Except.error.inj h)), fun h => h.elim
      (fun he => congrArg _ (Except.error.inj he)) fun ⟨_, ha, _⟩ => nomatch ha⟩
  | ok a => exact ⟨fun h => .inr ⟨a, rfl, h⟩, fun h => h.elim nofun fun ⟨_, ha, hk⟩ => Except.ok.inj ha ▸ hk⟩

theorem bind_congr_of_ok {x : Except ε α} {k k' : α → Except ε β} (h : ∀ a, x = .ok a → k a = k' a) :
    x >>= k = x >>= k' := by
  cases x with
  | error e => rfl
  | ok a => exact h a rfl

theorem toOption_eq_some_iff {x : Except ε α} {a : α} : x.toOption = some a ↔ x = .ok a := by
  refine ⟨eq_ok_of_toOption, ?_⟩
  rintro rfl
  rfl

end Except

/-! ## 3. Over a list -/

section List

variable {ε α β γ : Type} {f : α → Except ε β}

/-- A list that is gone through without failure gives one result for each of its elements. -/
theorem forall₂_of_mapM : ∀ {xs : List α} {ys : List β}, xs.mapM f = .ok ys →
    List.Forall₂ (fun x y => f x = .ok y) xs ys
  | [], ys, h => by
    cases h
    exact .nil
  | x :: xs, ys, h => by
    rw [List.mapM_cons] at h
    cases hx : f x with
    | error e =>
      rw [hx] at h
      cases h
    | ok y =>
      have h' : (xs.mapM f >>= fun ys => pure (y :: ys)) = Except.ok ys := by
        rw [hx] at h
        exact h
      cases hxs : xs.mapM f with
      | error e =>
        rw [hxs] at h'
        cases h'
      | ok ys' =>
        rw [hxs] at h'
        cases h'
        exact .cons hx (forall₂_of_mapM hxs)

/-- Whatever is in the second of two lists has something in the first that it goes with. -/
theorem exists_of_mem_forall₂ {R : α → β → Prop} {xs : List α} {ys : List β} (h : List.Forall₂ R xs ys) {y : β}
    (hy : y ∈ ys) : ∃ x ∈ xs, R x y := by
  induction h with
  | nil => cases hy
  | cons hx _ ih =>
    rcases List.mem_cons.mp hy with rfl | hy
    · exact ⟨_, List.mem_cons_self, hx⟩
    · obtain ⟨x, hx, hxy⟩ := ih hy
      exact ⟨x, List.mem_cons_of_mem _ hx, hxy⟩

theorem exists_of_mem_mapM {xs : List α} {ys : List β} (h : xs.mapM f = .ok ys) {y : β}
    (hy : y ∈ ys) : ∃ x ∈ xs, f x = .ok y := exists_of_mem_forall₂ (forall₂_of_mapM h) hy

/-- Something goes with all elements of a list, one by one, exactly if something goes with each. -/
theorem exists_forall₂_iff {R : α → β → Prop} : ∀ {xs : List α},
    (∃ ys, List.Forall₂ R xs ys) ↔ ∀ x ∈ xs, ∃ y, R x y
  | [] => ⟨fun _ => nofun, fun _ => ⟨[], .nil⟩⟩
  | x :: xs => by
    rw [List.forall_mem_cons, ← exists_forall₂_iff]
    constructor
    · rintro ⟨_, hys⟩
      cases hys with
      | cons hx hxs => exact ⟨⟨_, hx⟩, ⟨_, hxs⟩⟩
    · rintro ⟨⟨y, hx⟩, ⟨ys, hxs⟩⟩
      exact ⟨y :: ys, .cons hx hxs⟩

/-- Going through a list and leaving some results out gives what the elements give, one by one. -/
theorem filterMapM_eq_ok_iff {g : α → Except ε (Option β)} : ∀ {xs : List α} {ys : List β},
    xs.filterMapM g = .ok ys ↔ ∃ bs, List.Forall₂ (fun x b => g x = .ok b) xs bs ∧ bs.filterMap id = ys
  | [], ys => by
    rw [List.filterMapM_nil]
    constructor
    · rintro h
      cases h
      exact ⟨[], .nil, rfl⟩
    · rintro ⟨_, hbs, rfl⟩
      cases hbs
      rfl
  | x :: xs, ys => by
    rw [List.filterMapM_cons, bind_eq_ok_iff]
    constructor
    · rintro ⟨b, hb, h⟩
      cases b with
      | none =>
        obtain ⟨bs, hbs, rfl⟩ := filterMapM_eq_ok_iff.mp h
        exact ⟨none :: bs, .cons hb hbs, rfl⟩
      | some y =>
        obtain ⟨ys', hys, hpure⟩ := bind_eq_ok_iff.mp h
        obtain ⟨bs, hbs, rfl⟩ := filterMapM_eq_ok_iff.mp hys
        cases hpure
        exact ⟨some y :: bs, .cons hb hbs, rfl⟩
    · rintro ⟨_, hbs, rfl⟩
      cases hbs with
      | @cons _ b _ bs hb hbs =>
        refine ⟨b, hb, ?_⟩
        have hrest := filterMapM_eq_ok_iff.mpr ⟨bs, hbs, rfl⟩
        cases b with
        | none => exact hrest
        | some y =>
          show (xs.filterMapM g >>= fun ys => pure (y :: ys)) = _
          rw [hrest]
          rfl

theorem mapM_congr {g : α → Except ε β} : ∀ {xs : List α}, (∀ x ∈ xs, f x = g x) → xs.mapM f = xs.mapM g
  | [], _ => rfl
  | x :: xs, h => by
    rw [List.mapM_cons, List.mapM_cons, h x List.mem_cons_self,
      mapM_congr fun y hy => h y (List.mem_cons_of_mem x hy)]

/-- Stored forms are read back one by one. -/
theorem mapM_map_of_ok {write : γ → α} {g : γ → β} (h : ∀ a, f (write a) = .ok (g a)) :
    ∀ xs : List γ, (xs.map write).mapM f = .ok (xs.map g)
  | [] => rfl
  | x :: xs => by
    rw [List.map_cons, List.mapM_cons, h x, mapM_map_of_ok h xs]
    rfl

theorem forM_eq_ok_iff {f : α → Except ε Unit} : ∀ {xs : List α}, forM xs f = .ok () ↔ ∀ x ∈ xs, f x = .ok ()
  | [] => ⟨fun _ _ hx => absurd hx List.not_mem_nil, fun _ => rfl⟩
  | x :: xs => by
    rw [List.forM_cons, List.forall_mem_cons, ← forM_eq_ok_iff]
    cases f x with
    | error e => exact ⟨nofun, fun h => nomatch h.1⟩
    | ok _ => exact ⟨fun h => ⟨rfl, h⟩, And.right⟩

/-- **Going through a list** until one of its elements fails: that one is the first to do so. -/
theorem forM_eq_error_iff {f : α → Except ε Unit} {e : ε} : ∀ {xs : List α}, forM xs f = .error e ↔
    ∃ before x after, xs = before ++ x :: after ∧ (∀ y ∈ before, f y = .ok ()) ∧ f x = .error e
  | [] => by
    constructor
    · intro h
      cases h
    · rintro ⟨before, x, after, h, -⟩
      cases before <;> cases h
  | x :: xs => by
    rw [List.forM_cons]
    constructor
    · intro h
      cases hx : f x with
      | error e' =>
        rw [hx] at h
        cases h
        exact ⟨[], x, xs, rfl, fun y hy => absurd hy List.not_mem_nil, hx⟩
      | ok _ =>
        rw [hx] at h
        obtain ⟨before, y, after, rfl, hbefore, hy⟩ := forM_eq_error_iff.mp h
        refine ⟨x :: before, y, after, rfl, fun z hz => ?_, hy⟩
        rcases List.mem_cons.mp hz with rfl | hz
        · exact hx
        · exact hbefore z hz
    · rintro ⟨before, y, after, h, hbefore, hy⟩
      cases before with
      | nil =>
        cases h
        rw [hy]
        rfl
      | cons z before =>
        cases h
        rw [hbefore x List.mem_cons_self]
        exact forM_eq_error_iff.mpr ⟨before, y, after, rfl, fun z hz =>
          hbefore z (List.mem_cons_of_mem x hz), hy⟩

end List

end AgentLint
