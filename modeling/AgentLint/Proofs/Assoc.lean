import AgentLint.Assoc
import Mathlib.Data.List.Basic
import Mathlib.Tactic.Common

/-!
# More on association lists

Entries and look-ups of a table with distinct keys, and what is left of a list of entries that are
written one after the other: the last value of each key, and the keys in the order in which they
first came in.  Two tables with the same keys that are written side by side stay side by side (`Beside`).
-/

namespace AgentLint.Assoc

variable {α β : Type} [DecidableEq α]

/-! ## 1. Entries and look-ups -/

theorem get?_cons (k j : α) (v : β) (t : Assoc α β) :
    get? j ((k, v) :: t) = if k = j then some v else get? j t := rfl

omit [DecidableEq α] in
theorem keys_cons (e : α × β) (t : Assoc α β) : keys (e :: t) = e.1 :: keys t := rfl

theorem mem_of_get? {t : Assoc α β} {k : α} {v : β} (h : get? k t = some v) : (k, v) ∈ t := by
  induction t with
  | nil => simp at h
  | cons e t ih =>
    obtain ⟨k', v'⟩ := e
    rw [get?_cons] at h
    split at h
    · rename_i hk
      subst hk
      rw [Option.some.injEq] at h
      exact h ▸ List.mem_cons_self
    · exact List.mem_cons_of_mem _ (ih h)

theorem get?_of_mem {t : Assoc α β} (hnd : (keys t).Nodup) {k : α} {v : β} (h : (k, v) ∈ t) :
    get? k t = some v := by
  induction t with
  | nil => simp at h
  | cons e t ih =>
    obtain ⟨k', v'⟩ := e
    rw [keys_cons, List.nodup_cons] at hnd
    rw [get?_cons]
    rcases List.mem_cons.mp h with h | h
    · rw [Prod.mk.injEq] at h
      rw [if_pos h.1.symm, h.2]
    · have hk : k ∈ keys t := List.mem_map.mpr ⟨(k, v), h, rfl⟩
      have hne : ¬ k' = k := fun e => hnd.1 (by rw [e]; exact hk)
      rw [if_neg hne]
      exact ih hnd.2 h

/-- Writing keeps the keys distinct. -/
theorem nodup_keys_put {t : Assoc α β} (h : (keys t).Nodup) (k : α) (v : β) :
    (keys (put k v t)).Nodup := by
  rw [keys_put]
  split
  · exact h
  · rename_i hk
    rw [List.nodup_append]
    refine ⟨h, by simp, ?_⟩
    intro a ha b hb
    rw [List.mem_singleton] at hb
    rintro rfl
    exact hk (hb ▸ ha)

theorem get?_erase (t : Assoc α β) (k j : α) :
    get? j (erase k t) = if k = j then none else get? j t := by
  induction t with
  | nil => simp [erase]
  | cons e t ih =>
    obtain ⟨k', v⟩ := e
    by_cases h : k' = k
    · have herase : erase k ((k', v) :: t) = erase k t := by simp [erase, h]
      rw [herase, ih, get?_cons, h]
      split <;> simp_all
    · have herase : erase k ((k', v) :: t) = (k', v) :: erase k t := by simp [erase, h]
      rw [herase, get?_cons, get?_cons, ih]
      by_cases hj : k' = j
      · rw [if_pos hj, if_neg (fun e => h (hj.trans e.symm))]
        simp [hj]
      · rw [if_neg hj, if_neg hj]

theorem get?_eq_some_iff {t : Assoc α β} (hnd : (keys t).Nodup) {k : α} {v : β} :
    get? k t = some v ↔ (k, v) ∈ t := ⟨mem_of_get?, get?_of_mem hnd⟩

/-- The order of the entries does not matter to a look-up. -/
theorem get?_perm {t u : Assoc α β} (h : t.Perm u) (hnd : (keys t).Nodup) (k : α) : get? k u = get? k t := by
  have hnd' : (keys u).Nodup := (h.map Prod.fst).nodup_iff.mp hnd
  refine Option.ext fun v => ?_
  rw [get?_eq_some_iff hnd', get?_eq_some_iff hnd, h.mem_iff]

/-- A new key comes last. -/
theorem put_of_not_mem {t : Assoc α β} {k : α} (hk : k ∉ keys t) (v : β) : put k v t = t ++ [(k, v)] := by
  induction t with
  | nil => rfl
  | cons e t ih =>
    obtain ⟨k', v'⟩ := e
    rw [keys_cons, List.mem_cons, not_or] at hk
    rw [put, if_neg fun he => hk.1 he.symm, ih hk.2, List.cons_append]

/-! ## 2. Writing many entries -/

theorem putAll_cons (t : Assoc α β) (e : α × β) (u : Assoc α β) :
    putAll t (e :: u) = putAll (put e.1 e.2 t) u := rfl

theorem exists_of_mem_put {t : Assoc α β} {k : α} {v : β} {e : α × β} (he : e ∈ put k v t) : e.2 = v ∨ e ∈ t := by
  induction t with
  | nil => exact .inl (by rw [List.mem_singleton.mp he])
  | cons f t ih =>
    obtain ⟨k', v'⟩ := f
    unfold put at he
    split at he
    · rcases List.mem_cons.mp he with rfl | he
      · exact .inl rfl
      · exact .inr (List.mem_cons_of_mem _ he)
    · rcases List.mem_cons.mp he with rfl | he
      · exact .inr List.mem_cons_self
      · exact (ih he).imp_right (List.mem_cons_of_mem _)

/-- What is written has been one of the values. -/
theorem exists_of_mem_putAll {u : Assoc α β} {e : α × β} (he : e ∈ putAll [] u) : ∃ f ∈ u, e.2 = f.2 := by
  have hall : ∀ {u t : Assoc α β}, e ∈ putAll t u → e ∈ t ∨ ∃ f ∈ u, e.2 = f.2 := by
    intro u
    induction u with
    | nil => exact fun he => .inl he
    | cons g u ih =>
      intro t he
      rw [putAll_cons] at he
      rcases ih he with he | ⟨f, hf, hfe⟩
      · rcases exists_of_mem_put he with hv | he
        · exact .inr ⟨g, List.mem_cons_self, hv⟩
        · exact .inl he
      · exact .inr ⟨f, List.mem_cons_of_mem _ hf, hfe⟩
  exact (hall he).resolve_left List.not_mem_nil

theorem putAll_append (t u w : Assoc α β) : putAll t (u ++ w) = putAll (putAll t u) w := by
  simp [putAll]

theorem nodup_keys_putAll {t : Assoc α β} (h : (keys t).Nodup) (u : Assoc α β) :
    (keys (putAll t u)).Nodup := by
  induction u generalizing t with
  | nil => exact h
  | cons e u ih =>
    rw [putAll_cons]
    exact ih (nodup_keys_put h e.1 e.2)

/-- New keys come one after the other. -/
theorem putAll_of_nodup {t u : Assoc α β} (hnd : (keys (t ++ u)).Nodup) : putAll t u = t ++ u := by
  induction u generalizing t with
  | nil => rw [List.append_nil]; rfl
  | cons e u ih =>
    have hsplit : t ++ e :: u = t ++ [e] ++ u := by simp
    have hnew : e.1 ∉ keys t := by
      rw [keys, List.map_append, List.nodup_append] at hnd
      exact fun hmem => hnd.2.2 e.1 hmem e.1 (by simp) rfl
    rw [hsplit] at hnd ⊢
    rw [putAll_cons, put_of_not_mem hnew, ih hnd]

/-- The values that a list of entries gives to a key, in order. -/
def valuesOf (k : α) (u : Assoc α β) : List β := u.filterMap fun e => if e.1 = k then some e.2 else none

/-- **Of several values for a key the last one stays.** -/
theorem get?_putAll (t u : Assoc α β) (k : α) :
    get? k (putAll t u) = (valuesOf k u).getLast?.or (get? k t) := by
  induction u generalizing t with
  | nil => rfl
  | cons e u ih =>
    rw [putAll_cons, ih, get?_put]
    by_cases h : e.1 = k
    · have hv : valuesOf k (e :: u) = e.2 :: valuesOf k u := by simp [valuesOf, h]
      rw [if_pos h, hv, List.getLast?_cons]
      cases (valuesOf k u).getLast? <;> rfl
    · simp [valuesOf, h]

/-- What is found among written entries was written under its key. -/
theorem mem_of_get?_putAll {u : Assoc α β} {k : α} {v : β} (h : get? k (putAll [] u) = some v) : (k, v) ∈ u := by
  rw [get?_putAll, get?_nil, Option.or_none] at h
  obtain ⟨e, he, hv⟩ := List.mem_filterMap.mp (List.mem_of_getLast? h)
  split at hv
  · rename_i hk
    cases hk
    cases hv
    exact he
  · cases hv

/-- A search that looks at keys alone meets the written keys in the order in which they come. -/
theorem findSome?_keys_putAll {γ : Type} (g : α → Option γ) (t u : Assoc α β) :
    (keys (putAll t u)).findSome? g = ((keys t).findSome? g).or ((keys u).findSome? g) := by
  induction u generalizing t with
  | nil => simp [putAll, keys]
  | cons e u ih =>
    rw [putAll_cons, ih, keys_put, keys_cons, List.findSome?_cons]
    split
    · rename_i hk
      cases hf : (keys t).findSome? g with
      | some c => rfl
      | none =>
        have hnone : g e.1 = none := List.findSome?_eq_none_iff.mp hf e.1 hk
        rw [hnone]
    · rw [List.findSome?_append]
      cases (keys t).findSome? g <;> cases hg : g e.1 <;> simp [hg]

/-! ## 3. Writing what was written -/

theorem put_put (t : Assoc α β) (k : α) (v v' : β) : put k v' (put k v t) = put k v' t := by
  induction t with
  | nil => simp [put]
  | cons e t ih =>
    obtain ⟨k', w⟩ := e
    by_cases h : k' = k
    · simp [put, h]
    · simp [put, h, ih]

/-- A key that is there keeps its place, whatever is written to others. -/
theorem put_comm {t : Assoc α β} {k j : α} (hk : k ∈ keys t) (hne : k ≠ j) (v w : β) :
    put k v (put j w t) = put j w (put k v t) := by
  induction t with
  | nil => cases hk
  | cons e t ih =>
    obtain ⟨i, u⟩ := e
    by_cases hi : i = k
    · have hij : ¬ i = j := fun he => hne (hi.symm.trans he)
      have hkj : ¬ k = j := hne
      simp [put, hi, hkj]
    · have hk' : k ∈ keys t := (List.mem_cons.mp hk).resolve_left fun he => hi he.symm
      by_cases hij : i = j
      · have hjk : ¬ j = k := fun he => hne he.symm
        simp [put, hij, hjk]
      · simp [put, hi, hij, ih hk']

theorem put_putAll {t u : Assoc α β} {k : α} (ht : k ∈ keys t) (hu : k ∉ keys u) (v : β) :
    put k v (putAll t u) = putAll (put k v t) u := by
  induction u generalizing t with
  | nil => rfl
  | cons e u ih =>
    rw [keys_cons, List.mem_cons, not_or] at hu
    have ht' : k ∈ keys (put e.1 e.2 t) := by
      rw [keys_put]
      split
      · exact ht
      · exact List.mem_append_left _ ht
    rw [putAll_cons, putAll_cons, ih ht' hu.2, put_comm ht hu.1]

/-- Writing a table in which one value was written. -/
theorem putAll_put {u : Assoc α β} (hu : (keys u).Nodup) (t : Assoc α β) (k : α) (v : β) :
    putAll t (put k v u) = put k v (putAll t u) := by
  induction u generalizing t with
  | nil => rfl
  | cons e u ih =>
    obtain ⟨k', v'⟩ := e
    rw [keys_cons, List.nodup_cons] at hu
    rw [put]
    split
    · rename_i hk
      obtain rfl : k' = k := hk
      have hmem : k' ∈ keys (put k' v' t) := by
        rw [keys_put]
        split
        · assumption
        · exact List.mem_append_right _ (List.mem_singleton.mpr rfl)
      rw [putAll_cons, putAll_cons, put_putAll hmem hu.1, put_put]
    · rw [putAll_cons, putAll_cons, ih hu.2]

/-- **Writing a table that was written** is writing both, one after the other. -/
theorem putAll_putAll {u : Assoc α β} (hu : (keys u).Nodup) (t w : Assoc α β) :
    putAll t (putAll u w) = putAll (putAll t u) w := by
  induction w generalizing u with
  | nil => rfl
  | cons e w ih => rw [putAll_cons, putAll_cons, ih (nodup_keys_put hu e.1 e.2), putAll_put hu]

/-- The values of a key in a table with distinct keys. -/
theorem valuesOf_of_nodup {u : Assoc α β} (hu : (keys u).Nodup) (k : α) : valuesOf k u = (get? k u).toList := by
  induction u with
  | nil => rfl
  | cons e u ih =>
    obtain ⟨k', v⟩ := e
    rw [keys_cons, List.nodup_cons] at hu
    rw [get?_cons]
    split
    · rename_i hk
      obtain rfl : k' = k := hk
      have hnone : get? k' u = none := (get?_eq_none_iff u k').mpr hu.1
      have hrest : valuesOf k' u = [] := by rw [ih hu.2, hnone, Option.toList_none]
      have hcons : valuesOf k' ((k', v) :: u) = v :: valuesOf k' u := by simp [valuesOf]
      rw [hcons, hrest, Option.toList_some]
    · rename_i hk
      have hcons : valuesOf k ((k', v) :: u) = valuesOf k u := by simp [valuesOf, hk]
      rw [hcons, ih hu.2]

/-- A look-up in a table that was written over another. -/
theorem get?_putAll_of_nodup {u : Assoc α β} (hu : (keys u).Nodup) (t : Assoc α β) (k : α) :
    get? k (putAll t u) = (get? k u).or (get? k t) := by
  rw [get?_putAll, valuesOf_of_nodup hu]
  cases get? k u <;> rfl

/-! ## 4. Tables side by side -/

section SideBySide

variable {γ : Type} {P : β → γ → Prop}

/-- Two tables with the same keys in the same order, and values that go together. -/
abbrev Beside (P : β → γ → Prop) (t : Assoc α β) (u : Assoc α γ) : Prop :=
  List.Forall₂ (fun x y => x.1 = y.1 ∧ P x.2 y.2) t u

omit [DecidableEq α] in
theorem Beside.keys_eq {t : Assoc α β} {u : Assoc α γ} (h : Beside P t u) : keys t = keys u := by
  induction h with
  | nil => rfl
  | cons hxy _ ih => rw [keys_cons, keys_cons, hxy.1, ih]

theorem Beside.put {t : Assoc α β} {u : Assoc α γ} (h : Beside P t u) (k : α) {v : β} {w : γ} (hvw : P v w) :
    Beside P (put k v t) (put k w u) := by
  induction h with
  | nil => exact .cons ⟨rfl, hvw⟩ .nil
  | @cons x y t u hxy htu ih =>
    obtain ⟨j, v'⟩ := x
    obtain ⟨j', w'⟩ := y
    obtain ⟨rfl, hP⟩ : j = j' ∧ P v' w' := hxy
    by_cases hj : j = k
    · simp only [Assoc.put, if_pos hj]
      exact .cons ⟨rfl, hvw⟩ htu
    · simp only [Assoc.put, if_neg hj]
      exact .cons ⟨rfl, hP⟩ ih

theorem Beside.putAll {xs : Assoc α β} {ys : Assoc α γ} (h : Beside P xs ys) :
    ∀ {t : Assoc α β} {u : Assoc α γ}, Beside P t u → Beside P (putAll t xs) (putAll u ys) := by
  induction h with
  | nil => exact id
  | @cons x y xs ys hxy _ ih =>
    intro t u htu
    rw [putAll_cons, putAll_cons, ← hxy.1]
    exact ih (htu.put x.1 hxy.2)

/-- What is found in one is found in the other. -/
theorem Beside.get?_eq_some {t : Assoc α β} {u : Assoc α γ} (h : Beside P t u) {k : α} {v : β}
    (hk : get? k t = some v) : ∃ w, get? k u = some w ∧ P v w := by
  induction h with
  | nil => cases hk
  | @cons x y t u hxy _ ih =>
    obtain ⟨j, v'⟩ := x
    obtain ⟨j', w'⟩ := y
    obtain ⟨rfl, hP⟩ : j = j' ∧ P v' w' := hxy
    rw [get?_cons] at hk ⊢
    split at hk
    · rename_i hj
      rw [if_pos hj]
      exact ⟨w', rfl, Option.some.inj hk ▸ hP⟩
    · rename_i hj
      rw [if_neg hj]
      exact ih hk

omit [DecidableEq α] in
theorem Beside.swap {t : Assoc α β} {u : Assoc α γ} (h : Beside P t u) : Beside (fun w v => P v w) u t := by
  induction h with
  | nil => exact .nil
  | cons hxy _ ih => exact .cons ⟨hxy.1.symm, hxy.2⟩ ih

/-- What is found in both is the same, as far as functions of it go that agree on what goes together. -/
theorem Beside.map_get? {δ : Type} {f : β → δ} {g : γ → δ} {t : Assoc α β} {u : Assoc α γ} (h : Beside P t u) {k : α}
    (hfg : ∀ v w, get? k t = some v → P v w → g w = f v) : (get? k u).map g = (get? k t).map f := by
  cases hv : get? k t with
  | some v =>
    obtain ⟨w, hw, hP⟩ := h.get?_eq_some hv
    rw [hw, Option.map_some, Option.map_some, hfg v w hv hP]
  | none =>
    cases hw : get? k u with
    | none => rfl
    | some w =>
      obtain ⟨v, hv', -⟩ := h.swap.get?_eq_some hw
      rw [hv] at hv'
      cases hv'

end SideBySide

end AgentLint.Assoc
