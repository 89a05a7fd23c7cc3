import AgentLint.Proofs.Glob
import AgentLint.Proofs.Sequencing

/-!
# The pieces of a pattern

`Glob.pieces` goes through a pattern with fuel for its length.  Any fuel that suffices gives the same pieces
(`piecesAux_congr`), so `pieces` satisfies the equations that its cases suggest; the proofs about patterns use these
and no fuel.

A class goes from its opening bracket to the first closing one behind its first character (`splitClass_eq_some_iff`).
Every piece has a word of the pattern (`Piece.Written`), and the words together are the pattern
(`exists_words_of_pieces`); so what a pattern does not hold is in none of its words.
-/

namespace AgentLint

namespace Glob

/-! ## 1. Classes -/

/-- **Where a class ends**: at the first bracket behind its first character. -/
theorem splitClass_eq_some_iff {rest body after : List Char} : splitClass rest = some (body, after) ↔
    ∃ c run, rest = c :: (run ++ ']' :: after) ∧ body = c :: run ∧ ']' ∉ run := by
  cases rest with
  | nil => simp [splitClass]
  | cons c cs =>
    constructor
    · intro h
      rw [splitClass] at h
      split at h
      · rename_i hmem
        obtain ⟨rfl, rfl⟩ := Prod.mk.inj (Option.some.inj h)
        obtain ⟨run, after, rfl, hrun⟩ := List.eq_append_cons_of_mem (List.contains_iff_mem.mp hmem)
        have htake : (run ++ ']' :: after).takeWhile (· ≠ ']') = run := by
          rw [List.takeWhile_append_of_pos (by simpa using fun a ha (he : a = ']') => hrun (he ▸ ha))]
          simp
        have hdrop : (run ++ ']' :: after).dropWhile (· ≠ ']') = ']' :: after := by
          rw [List.dropWhile_append_of_pos (by simpa using fun a ha (he : a = ']') => hrun (he ▸ ha))]
          simp
        exact ⟨c, run, by rw [hdrop, List.drop_one, List.tail_cons], by rw [htake], hrun⟩
      · cases h
    · rintro ⟨c', run, hrest, rfl, hrun⟩
      obtain ⟨rfl, rfl⟩ := List.cons.inj hrest
      have hpos : ∀ a ∈ run, decide (a ≠ ']') = true := fun a ha => decide_eq_true fun he => hrun (he ▸ ha)
      rw [splitClass, if_pos (by simp), List.takeWhile_append_of_pos hpos, List.dropWhile_append_of_pos hpos]
      simp

/-! ## 2. Fuel -/

theorem piecesAux_congr {n m : Nat} {cs : List Char} (hn : cs.length ≤ n) (hm : cs.length ≤ m) :
    piecesAux n cs = piecesAux m cs := by
  fun_induction piecesAux n cs generalizing m with
  | case1 cs =>
    rw [List.length_eq_zero_iff.mp (Nat.le_zero.mp hn)]
    cases m <;> rfl
  | case2 => cases m <;> rfl
  | case3 n rest ih =>
    obtain ⟨m, rfl⟩ : ∃ k, m = k + 1 := ⟨m - 1, by simp at hm; omega⟩
    simp only [List.length_cons] at hn hm
    rw [piecesAux, ih (m := m) (by omega) (by omega)]
  | case4 n rest hslash ih =>
    obtain ⟨m, rfl⟩ : ∃ k, m = k + 1 := ⟨m - 1, by simp at hm; omega⟩
    simp only [List.length_cons] at hn hm
    rw [piecesAux, ih (m := m) (by omega) (by omega)]
    all_goals assumption
  | case5 n rest hdir hdeep ih =>
    obtain ⟨m, rfl⟩ : ∃ k, m = k + 1 := ⟨m - 1, by simp at hm; omega⟩
    simp only [List.length_cons] at hn hm
    rw [piecesAux, ih (m := m) (by omega) (by omega)]
    all_goals assumption
  | case6 n rest ih =>
    obtain ⟨m, rfl⟩ : ∃ k, m = k + 1 := ⟨m - 1, by simp at hm; omega⟩
    simp only [List.length_cons] at hn hm
    rw [piecesAux, ih (m := m) (by omega) (by omega)]
  | case7 n rest body after hsplit ih =>
    obtain ⟨m, rfl⟩ : ∃ k, m = k + 1 := ⟨m - 1, by simp at hm; omega⟩
    obtain ⟨c, run, rfl, -, -⟩ := splitClass_eq_some_iff.mp hsplit
    simp only [List.length_cons, List.length_append] at hn hm
    rw [piecesAux, hsplit]
    simp only
    rw [ih (m := m) (by omega) (by omega)]
  | case8 n rest hsplit ih =>
    obtain ⟨m, rfl⟩ : ∃ k, m = k + 1 := ⟨m - 1, by simp at hm; omega⟩
    simp only [List.length_cons] at hn hm
    rw [piecesAux, hsplit]
    simp only
    rw [ih (m := m) (by omega) (by omega)]
  | case9 n c rest hdir hdeep hstar hone hcls ih =>
    obtain ⟨m, rfl⟩ : ∃ k, m = k + 1 := ⟨m - 1, by simp at hm; omega⟩
    simp only [List.length_cons] at hn hm
    rw [piecesAux, ih (m := m) (by omega) (by omega)]
    all_goals assumption

theorem piecesAux_eq {n : Nat} {cs : List Char} (hn : cs.length ≤ n) : piecesAux n cs = pieces cs :=
  piecesAux_congr hn (Nat.le_refl _)

/-! ## 3. Equations -/

variable {rest : List Char}

@[simp]
theorem pieces_nil : pieces [] = [] := rfl

theorem pieces_deepDir : pieces ('*' :: '*' :: '/' :: rest) = .deepDir :: pieces rest := by
  rw [pieces, List.length_cons, piecesAux, piecesAux_eq (by simp; omega)]

theorem pieces_star (h : rest.head? ≠ some '*') : pieces ('*' :: rest) = .star :: pieces rest := by
  rw [pieces, List.length_cons, piecesAux, piecesAux_eq (Nat.le_refl _)]
  · rintro more rfl
    exact h rfl
  · rintro more rfl
    exact h rfl

theorem pieces_one : pieces ('?' :: rest) = .one :: pieces rest := by
  rw [pieces, List.length_cons, piecesAux, piecesAux_eq (Nat.le_refl _)]

theorem pieces_lit {c : Char} (hstar : c ≠ '*') (hone : c ≠ '?') (hcls : c ≠ '[') :
    pieces (c :: rest) = .lit c :: pieces rest := by
  rw [pieces, List.length_cons, piecesAux, piecesAux_eq (Nat.le_refl _)]
  all_goals intros; simp_all

/-! ## 4. Words -/

/-- The word that becomes a piece. -/
inductive Piece.Written : Piece → List Char → Prop where
  /-- Any character but the two that stand for others. -/
  | lit {c : Char} (hstar : c ≠ '*') (hone : c ≠ '?') : Written (.lit c) [c]
  /-- A question mark. -/
  | one : Written .one ['?']
  /-- A star. -/
  | star : Written .star ['*']
  /-- Two of them. -/
  | deep : Written .deep ['*', '*']
  /-- Two of them and a slash. -/
  | deepDir : Written .deepDir ['*', '*', '/']
  /-- A class, of which the bracket is the first behind its first character. -/
  | cls {c : Char} {run : List Char} (hrun : ']' ∉ run) :
    Written (.cls (classBody (c :: run))) ('[' :: c :: (run ++ [']']))

theorem exists_words_of_piecesAux {n : Nat} {cs : List Char} (hn : cs.length ≤ n) :
    ∃ words, cs = words.flatten ∧ List.Forall₂ Piece.Written (piecesAux n cs) words := by
  fun_induction piecesAux n cs with
  | case1 cs => exact ⟨[], List.length_eq_zero_iff.mp (Nat.le_zero.mp hn), .nil⟩
  | case2 => exact ⟨[], rfl, .nil⟩
  | case3 n rest ih =>
    obtain ⟨words, rfl, h⟩ := ih (by simp only [List.length_cons] at hn; omega)
    exact ⟨_ :: words, rfl, .cons .deepDir h⟩
  | case4 n rest _ ih =>
    obtain ⟨words, rfl, h⟩ := ih (by simp only [List.length_cons] at hn; omega)
    exact ⟨_ :: words, rfl, .cons .deep h⟩
  | case5 n rest _ _ ih =>
    obtain ⟨words, rfl, h⟩ := ih (by simp only [List.length_cons] at hn; omega)
    exact ⟨_ :: words, rfl, .cons .star h⟩
  | case6 n rest ih =>
    obtain ⟨words, rfl, h⟩ := ih (by simp only [List.length_cons] at hn; omega)
    exact ⟨_ :: words, rfl, .cons .one h⟩
  | case7 n rest body after hsplit ih =>
    obtain ⟨c, run, rfl, rfl, hrun⟩ := splitClass_eq_some_iff.mp hsplit
    obtain ⟨words, rfl, h⟩ := ih (by simp only [List.length_cons, List.length_append] at hn; omega)
    exact ⟨_ :: words, by simp, .cons (.cls hrun) h⟩
  | case8 n rest _ ih =>
    obtain ⟨words, rfl, h⟩ := ih (by simp only [List.length_cons] at hn; omega)
    exact ⟨_ :: words, rfl, .cons (.lit (by decide) (by decide)) h⟩
  | case9 n c rest _ _ hstar hone _ ih =>
    obtain ⟨words, rfl, h⟩ := ih (by simp only [List.length_cons] at hn; omega)
    exact ⟨[c] :: words, rfl, .cons (.lit hstar hone) h⟩

/-- **A pattern is the words of its pieces.** -/
theorem exists_words_of_pieces (cs : List Char) :
    ∃ words, cs = words.flatten ∧ List.Forall₂ Piece.Written (pieces cs) words :=
  exists_words_of_piecesAux (Nat.le_refl _)

/-- The word of a piece stands in the pattern. -/
theorem exists_word_of_mem_pieces {cs : List Char} {p : Piece} (hp : p ∈ pieces cs) :
    ∃ word, p.Written word ∧ word <:+: cs := by
  obtain ⟨words, hcs, hall⟩ := exists_words_of_pieces cs
  obtain ⟨word, hmem, hword⟩ := exists_of_mem_forall₂ hall.flip hp
  refine ⟨word, hword, ?_⟩
  rw [hcs]
  exact List.infix_of_mem_flatten hmem

/-- There is no class without an opening bracket. -/
theorem any_isClass_pieces_of_not_mem {cs : List Char} (h : '[' ∉ cs) : (pieces cs).any Piece.isClass = false := by
  rw [List.any_eq_false]
  intro p hp hclass
  obtain ⟨word, hword, hin⟩ := exists_word_of_mem_pieces hp
  cases hword with
  | cls => exact h (hin.subset List.mem_cons_self)
  | lit => cases hclass
  | one => cases hclass
  | star => cases hclass
  | deep => cases hclass
  | deepDir => cases hclass

end Glob

end AgentLint
