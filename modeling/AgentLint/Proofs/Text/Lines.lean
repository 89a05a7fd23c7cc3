import AgentLint.Proofs.Path

/-!
# Lines and the text they make

Splitting a text into lines and joining lines into a text undo each other, where a list of lines is never empty
and no line holds a line feed.  Lines are numbered from one where they are numbered.
-/

namespace AgentLint.Text

theorem joinLines_eq_intercalate (ls : List (List Char)) : joinLines ls = ['\n'].intercalate ls := by
  cases ls with
  | nil => rfl
  | cons l ls =>
    show l ++ ls.flatMap (['\n'] ++ ·) = _
    induction ls generalizing l with
    | nil => simp
    | cons l' ls ih => rw [List.flatMap_cons, List.append_assoc, ih, List.intercalate_cons_cons, List.append_assoc]

/-- Lines come back from the text they make. -/
theorem splitLines_joinLines {ls : List (List Char)} (h : ∀ l ∈ ls, '\n' ∉ l) (hne : ls ≠ []) :
    splitLines (joinLines ls) = ls := by
  rw [joinLines_eq_intercalate]
  exact splitOn_intercalate h hne

/-- A text is made of its lines. -/
theorem joinLines_splitLines (cs : List Char) : joinLines (splitLines cs) = cs := by
  rw [joinLines_eq_intercalate, splitLines, splitOn_eq]
  exact List.intercalate_splitOn '\n'

theorem joinLines_cons (l : List Char) {ls : List (List Char)} (h : ls ≠ []) :
    joinLines (l :: ls) = l ++ '\n' :: joinLines ls := by
  obtain ⟨l', ls, rfl⟩ := List.exists_cons_of_ne_nil h
  rfl

/-- Lines that others follow end with a line feed each. -/
theorem joinLines_append (ls : List (List Char)) {rest : List (List Char)} (h : rest ≠ []) :
    joinLines (ls ++ rest) = ls.flatMap (· ++ ['\n']) ++ joinLines rest := by
  induction ls with
  | nil => rfl
  | cons l ls ih => rw [List.cons_append, joinLines_cons l (by simp [h]), ih, List.flatMap_cons]; simp

/-- One line feed more than there are between the lines. -/
theorem flatMap_feed {ls : List (List Char)} (h : ls ≠ []) :
    ls.flatMap (· ++ ['\n']) = joinLines ls ++ ['\n'] := by
  induction ls with
  | nil => exact absurd rfl h
  | cons l ls ih =>
    cases ls with
    | nil => simp [joinLines, joinWith]
    | cons l' ls => rw [List.flatMap_cons, ih (List.cons_ne_nil _ _), joinLines_cons l (List.cons_ne_nil _ _)]; simp

theorem numberFrom_cons {α : Type} (n : Nat) (x : α) (xs : List α) :
    numberFrom n (x :: xs) = (n, x) :: numberFrom (n + 1) xs := rfl

/-- What is numbered by `n` from one on. -/
theorem mem_numberFrom_one_iff {α : Type} {xs : List α} {n : Nat} {x : α} :
    (n, x) ∈ numberFrom 1 xs ↔ ∃ i, n = i + 1 ∧ xs[i]? = some x := by
  simp only [numberFrom, List.mem_map, Prod.exists, Prod.mk.injEq, List.mem_zipIdx_iff_le_and_getElem?_sub]
  constructor
  · rintro ⟨y, k, ⟨hk, hget⟩, rfl, rfl⟩
    exact ⟨k - 1, by omega, hget⟩
  · rintro ⟨i, rfl, hget⟩
    exact ⟨x, i + 1, ⟨by omega, by simpa using hget⟩, rfl, rfl⟩

end AgentLint.Text
