/-!
# Association lists in order of first insertion

Most tables of this library keep their entries in the order in which the keys first came in, and
answers show that order.  `Assoc` is such a table: writing to a key that is present replaces its
value in place, writing to a new key appends.  The lemmas say what `put` and `erase` do to the two
views, the list of keys and the look-up.
-/

namespace AgentLint

/-- Entries with distinct keys, in order of first insertion. -/
abbrev Assoc (α β : Type) := List (α × β)

namespace Assoc

variable {α β : Type} [DecidableEq α]

/-- The keys, in order. -/
def keys {α β : Type} (t : Assoc α β) : List α := t.map Prod.fst

/-- The values, in order. -/
def vals {α β : Type} (t : Assoc α β) : List β := t.map Prod.snd

/-- The value at a key. -/
def get? (k : α) : Assoc α β → Option β
  | [] => none
  | (k', v) :: t => if k' = k then some v else get? k t

/-- Whether a key is present. -/
def has (k : α) (t : Assoc α β) : Bool := (get? k t).isSome

/-- Writes a value: in place if the key is present, at the end otherwise. -/
def put (k : α) (v : β) : Assoc α β → Assoc α β
  | [] => [(k, v)]
  | (k', v') :: t => if k' = k then (k', v) :: t else (k', v') :: put k v t

/-- Removes a key. -/
def erase (k : α) (t : Assoc α β) : Assoc α β := t.filter fun e => e.1 ≠ k

/-- Writes the entries of `u` one after the other. -/
def putAll (t u : Assoc α β) : Assoc α β := u.foldl (fun acc e => put e.1 e.2 acc) t

/-! ## What the operations do to the views -/

@[simp]
theorem get?_nil (k : α) : get? k ([] : Assoc α β) = none := rfl

theorem get?_put (t : Assoc α β) (k j : α) (v : β) :
    get? j (put k v t) = if k = j then some v else get? j t := by
  induction t with
  | nil => rfl
  | cons e t ih =>
    obtain ⟨k', v'⟩ := e
    by_cases h : k' = k
    · subst h
      by_cases hj : k' = j <;> simp [put, get?, hj]
    · by_cases hj : k' = j
      · subst hj
        simp [put, get?, h, Ne.symm h]
      · simp [put, get?, h, hj, ih]

theorem keys_put (t : Assoc α β) (k : α) (v : β) :
    keys (put k v t) = if k ∈ keys t then keys t else keys t ++ [k] := by
  induction t with
  | nil => rfl
  | cons e t ih =>
    obtain ⟨k', v'⟩ := e
    by_cases h : k' = k
    · subst h
      simp [put, keys]
    · have ih' : (put k v t).map Prod.fst = if k ∈ t.map Prod.fst then t.map Prod.fst
          else t.map Prod.fst ++ [k] := ih
      by_cases hk : k ∈ t.map Prod.fst
      · rw [if_pos hk] at ih'
        simp [put, keys, h, ih', hk]
      · rw [if_neg hk] at ih'
        have : ¬ (k = k' ∨ k ∈ t.map Prod.fst) := by
          rintro (rfl | h')
          · exact h rfl
          · exact hk h'
        simp only [put, if_neg h, keys, List.map_cons, List.mem_cons, if_neg this, ih',
          List.cons_append]

theorem get?_eq_none_iff (t : Assoc α β) (k : α) : get? k t = none ↔ k ∉ keys t := by
  induction t with
  | nil => simp [keys]
  | cons e t ih =>
    obtain ⟨k', v'⟩ := e
    by_cases h : k' = k
    · simp [get?, keys, h]
    · have hne : ¬ k = k' := fun hc => h hc.symm
      have : get? k t = none ↔ k ∉ t.map Prod.fst := ih
      simp only [get?, if_neg h, keys, List.map_cons, List.mem_cons, this, not_or, hne,
        not_false_eq_true, true_and]

end Assoc

end AgentLint
