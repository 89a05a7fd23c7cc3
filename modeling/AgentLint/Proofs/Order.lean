import AgentLint.Order
import AgentLint.Proofs.Sequencing
import Mathlib.Data.List.Basic

/-!
# Sorting neither adds nor loses anything

`Order.sortM` sorts with a comparison that may refuse or contradict itself, so that its result need not be in any
order.  Whatever the comparison says, what comes out is a rearrangement of what went in (`sortM_perm`).

Each part of the sort is shown to rearrange what it is given.  The elements of a merge in progress are counted
together, those that have been moved and those that have not; every way of moving elements keeps them.
-/

namespace AgentLint.Order

open scoped List

variable {α ε : Type} {lt : α → α → Except ε Bool}

/-! ## 1. Runs -/

/-- A run and what follows it are the whole list. -/
theorem firstRun_perm {xs run rest : List α} (h : firstRun lt xs = .ok (run, rest)) : run ++ rest ~ xs := by
  unfold firstRun at h
  split at h
  · cases h
    simp
  · cases h
    simp
  · rename_i x y tail
    obtain ⟨descending, -, h⟩ := bind_eq_ok_iff.mp h
    obtain ⟨n, -, h⟩ := bind_eq_ok_iff.mp h
    cases h
    have hrun : (if descending = true then (x :: y :: tail.take n).reverse else x :: y :: tail.take n) ~
        x :: y :: tail.take n := by
      split
      · exact List.reverse_perm _
      · rfl
    calc
      (if descending = true then (x :: y :: tail.take n).reverse else x :: y :: tail.take n) ++ tail.drop n
        ~ (x :: y :: tail.take n) ++ tail.drop n := hrun.append_right _
      _ = x :: y :: tail := by simp

/-- The first run takes something. -/
theorem firstRun_ne_nil {x : α} {xs run rest : List α} (h : firstRun lt (x :: xs) = .ok (run, rest)) : run ≠ [] := by
  cases xs with
  | nil =>
    cases h
    simp
  | cons y tail =>
    rw [firstRun] at h
    obtain ⟨descending, -, h⟩ := bind_eq_ok_iff.mp h
    obtain ⟨n, -, h⟩ := bind_eq_ok_iff.mp h
    cases h
    split <;> simp

theorem insertAll_perm {xs : List α} {sorted ys : Array α} (h : insertAll lt sorted xs = .ok ys) :
    ys.toList ~ sorted.toList ++ xs := by
  induction xs generalizing sorted with
  | nil =>
    cases h
    simp
  | cons x xs ih =>
    rw [insertAll] at h
    split at h
    · cases h
    · rename_i i _
      have hin : sorted.toList.take i ++ x :: sorted.toList.drop i ~ x :: sorted.toList := by
        refine List.perm_middle.trans ?_
        rw [List.take_append_drop]
      calc
        ys.toList ~ (sorted.toList.take i ++ x :: sorted.toList.drop i) ++ xs := ih h
        _ ~ (x :: sorted.toList) ++ xs := hin.append_right _
        _ ~ sorted.toList ++ x :: xs := List.perm_middle.symm

/-! ## 2. Merging two runs -/

namespace Merge

/-- All elements of a merge. -/
def items (m : Merge α) : List α := m.first ++ m.second ++ m.moved

theorem result_perm (m : Merge α) : m.result ~ m.items := by
  unfold result items
  split
  · refine List.Perm.append_right _ ?_
    exact ((List.reverse_perm _).append (List.reverse_perm _)).trans List.perm_append_comm
  · calc
      m.moved.reverse ++ m.second ++ m.first ~ m.moved ++ m.second ++ m.first :=
        ((List.reverse_perm _).append_right _).append_right _
      _ ~ m.first ++ (m.moved ++ m.second) := List.perm_append_comm
      _ ~ m.first ++ (m.second ++ m.moved) := List.perm_append_comm.append_left _
      _ = m.first ++ m.second ++ m.moved := (List.append_assoc _ _ _).symm

theorem moveFirst_perm (m : Merge α) (n : Nat) : (m.moveFirst n).items ~ m.items := by
  show m.first.drop n ++ m.second ++ ((m.first.take n).reverse ++ m.moved) ~ m.first ++ m.second ++ m.moved
  calc
    m.first.drop n ++ m.second ++ ((m.first.take n).reverse ++ m.moved)
      ~ (m.first.take n).reverse ++ m.moved ++ (m.first.drop n ++ m.second) := List.perm_append_comm
    _ = (m.first.take n).reverse ++ (m.moved ++ (m.first.drop n ++ m.second)) := List.append_assoc _ _ _
    _ ~ m.first.take n ++ (m.first.drop n ++ m.second ++ m.moved) :=
      (List.reverse_perm _).append List.perm_append_comm
    _ = m.first ++ m.second ++ m.moved := by simp [← List.append_assoc]

theorem moveSecond_perm (m : Merge α) (n : Nat) : (m.moveSecond n).items ~ m.items := by
  show m.first ++ m.second.drop n ++ ((m.second.take n).reverse ++ m.moved) ~ m.first ++ m.second ++ m.moved
  rw [List.append_assoc, List.append_assoc]
  refine List.Perm.append_left _ ?_
  calc
    m.second.drop n ++ ((m.second.take n).reverse ++ m.moved)
      ~ (m.second.take n).reverse ++ m.moved ++ m.second.drop n := List.perm_append_comm
    _ = (m.second.take n).reverse ++ (m.moved ++ m.second.drop n) := List.append_assoc _ _ _
    _ ~ m.second.take n ++ (m.second.drop n ++ m.moved) := (List.reverse_perm _).append List.perm_append_comm
    _ = m.second ++ m.moved := by simp [← List.append_assoc]

theorem items_heed (m : Merge α) : m.heed.items = m.items := by
  unfold heed
  split <;> rfl

theorem single_perm {m m' : Merge α} (h : m.single lt = .ok m') : m'.items ~ m.items := by
  unfold single at h
  split at h
  · obtain ⟨less, -, h⟩ := bind_eq_ok_iff.mp h
    split at h
    · cases h
      rw [items_heed]
      exact m.moveFirst_perm 1
    · cases h
      rw [items_heed]
      exact m.moveSecond_perm 1
  · cases h
    rfl

theorem both_perm {m m' : Merge α} (h : m.both lt = .ok m') : m'.items ~ m.items := by
  unfold both at h
  simp only at h
  split at h
  all_goals
    obtain ⟨inFirst, -, h⟩ := bind_eq_ok_iff.mp h
    have hfirst := moveFirst_perm { m with patience := max 1 (m.patience - 1) } inFirst
    generalize moveFirst { m with patience := max 1 (m.patience - 1) } inFirst = m₁ at h hfirst
    split at h
    · cases h
      exact hfirst
    have hbetween := (m₁.moveSecond_perm 1).trans hfirst
    generalize m₁.moveSecond 1 = m₂ at h hbetween
    split at h
    · cases h
      exact hbetween
    split at h
    all_goals
      obtain ⟨inSecond, -, h⟩ := bind_eq_ok_iff.mp h
      have hsecond := (m₂.moveSecond_perm inSecond).trans hbetween
      generalize m₂.moveSecond inSecond = m₃ at h hsecond
      split at h
      · cases h
        exact hsecond
      have hlast := (m₃.moveFirst_perm 1).trans hsecond
      generalize m₃.moveFirst 1 = m₄ at h hlast
      split at h
      · cases h
        exact hlast
      · cases h
        exact hlast

theorem carryOut_perm {fuel : Nat} {m m' : Merge α} (h : m.carryOut lt fuel = .ok m') : m'.items ~ m.items := by
  induction fuel generalizing m with
  | zero =>
    cases h
    rfl
  | succ fuel ih =>
    rw [carryOut] at h
    split at h
    · cases h
      rfl
    · obtain ⟨m₁, hstep, hrest⟩ := bind_eq_ok_iff.mp h
      have hmoved : m₁.items ~ m.items := by
        split at hstep
        · exact both_perm hstep
        · exact single_perm hstep
      exact (ih hrest).trans hmoved

end Merge

/-- Wherever a merge starts, it has the elements of both runs. -/
theorem start_perm {fuel patience : Nat} {first second : List α} {m : Merge α}
    (h : Merge.carryOut lt fuel (if first.length ≤ second.length then
      Merge.moveSecond ⟨false, first, second, [], patience, 0, 0, false⟩ 1
      else Merge.moveFirst ⟨true, first.reverse, second.reverse, [], patience, 0, 0, false⟩ 1) = .ok m) :
    m.items ~ first ++ second := by
  refine (Merge.carryOut_perm h).trans ?_
  split
  · refine (Merge.moveSecond_perm _ 1).trans ?_
    simp [Merge.items]
  · refine (Merge.moveFirst_perm _ 1).trans ?_
    simp only [Merge.items, List.append_nil]
    exact (List.reverse_perm _).append (List.reverse_perm _)

theorem rejoin (settled contested : Nat) (xs ys : List α) :
    xs.take settled ++ (xs.drop settled ++ ys.take contested) ++ ys.drop contested = xs ++ ys := by
  rw [← List.append_assoc, List.take_append_drop, List.append_assoc, List.take_append_drop]

/-- **A merge of two runs** has the elements of both. -/
theorem mergeRuns_perm {patience patience' : Nat} {xs ys zs : List α}
    (h : mergeRuns lt patience xs ys = .ok (zs, patience')) : zs ~ xs ++ ys := by
  unfold mergeRuns at h
  simp only at h
  split at h
  all_goals
    obtain ⟨settled, -, h⟩ := bind_eq_ok_iff.mp h
    split at h
    · cases h
      rfl
    obtain ⟨contested, -, h⟩ := bind_eq_ok_iff.mp h
    split at h
    · cases h
      rfl
    obtain ⟨m, hm, h⟩ := bind_eq_ok_iff.mp h
    cases h
    have hjoined := ((m.result_perm.trans (start_perm hm)).append_left (xs.take settled)).append_right
    rw [← rejoin settled contested xs]
    exact hjoined _

/-! ## 3. Merging all runs -/

/-- All elements of waiting runs. -/
def waiting (ps : List (Pending α)) : List α := ps.flatMap Pending.items

theorem waiting_cons (p : Pending α) (ps : List (Pending α)) : waiting (p :: ps) = p.items ++ waiting ps := rfl

theorem mergeDeeper_perm {depth : Nat} {ps ps' : List (Pending α)} {patience patience' : Nat} {last : Pending α}
    (h : mergeDeeper lt depth patience last ps = .ok (ps', patience')) : waiting ps' ~ last.items ++ waiting ps := by
  induction ps generalizing patience last with
  | nil =>
    cases h
    rfl
  | cons p ps ih =>
    rw [mergeDeeper] at h
    split at h
    · obtain ⟨⟨items, patience₁⟩, hmerge, h⟩ := bind_eq_ok_iff.mp h
      calc
        waiting ps' ~ items ++ waiting ps := ih h
        _ ~ (p.items ++ last.items) ++ waiting ps := (mergeRuns_perm hmerge).append_right _
        _ ~ (last.items ++ p.items) ++ waiting ps := List.perm_append_comm.append_right _
        _ = last.items ++ waiting (p :: ps) := by rw [waiting_cons, List.append_assoc]
    · cases h
      rfl

theorem mergeAll_perm {fuel patience : Nat} {ps : List (Pending α)} {zs : List α}
    (h : mergeAll lt fuel patience ps = .ok zs) : zs ~ waiting ps := by
  induction fuel generalizing patience ps with
  | zero =>
    cases h
    exact (List.reverse_perm ps).flatMap_right _
  | succ fuel ih =>
    unfold mergeAll at h
    split at h
    · rename_i heq
      cases heq
    · cases h
      rfl
    · cases h
      simp [waiting]
    · rename_i z y heq
      cases heq
      obtain ⟨⟨items, patience₁⟩, hmerge, h⟩ := bind_eq_ok_iff.mp h
      calc
        zs ~ items ++ [] := ih h
        _ ~ (y.items ++ z.items) ++ [] := (mergeRuns_perm hmerge).append_right _
        _ ~ (z.items ++ y.items) ++ [] := List.perm_append_comm.append_right _
        _ = waiting [z, y] := by simp [waiting]
    · rename_i z y x rest heq
      cases heq
      split at h
      · obtain ⟨⟨items, patience₁⟩, hmerge, h⟩ := bind_eq_ok_iff.mp h
        calc
          zs ~ z.items ++ (items ++ waiting rest) := ih h
          _ ~ z.items ++ ((x.items ++ y.items) ++ waiting rest) :=
            ((mergeRuns_perm hmerge).append_right _).append_left _
          _ ~ z.items ++ ((y.items ++ x.items) ++ waiting rest) :=
            (List.perm_append_comm.append_right _).append_left _
          _ = waiting (z :: y :: x :: rest) := by simp [waiting]
      · obtain ⟨⟨items, patience₁⟩, hmerge, h⟩ := bind_eq_ok_iff.mp h
        calc
          zs ~ items ++ (x.items ++ waiting rest) := ih h
          _ ~ (y.items ++ z.items) ++ (x.items ++ waiting rest) := (mergeRuns_perm hmerge).append_right _
          _ ~ (z.items ++ y.items) ++ (x.items ++ waiting rest) := List.perm_append_comm.append_right _
          _ = waiting (z :: y :: x :: rest) := by simp [waiting]

theorem addRun_perm {total patience patience' start : Nat} {ps ps' : List (Pending α)} {items : List α}
    (h : addRun lt total patience ps start items = .ok (ps', patience')) : waiting ps' ~ waiting ps ++ items := by
  unfold addRun at h
  split at h
  · cases h
    simp [waiting]
  · rename_i last rest
    obtain ⟨⟨merged, patience₁⟩, hmerge, h⟩ := bind_eq_ok_iff.mp h
    have hperm : waiting merged ~ waiting (last :: rest) := mergeDeeper_perm hmerge
    simp only at h
    split at h
    · rename_i last' rest'
      cases h
      calc
        waiting (⟨start, items, 0⟩ :: { last' with depth := _ } :: rest')
          ~ waiting (last' :: rest') ++ items := List.perm_append_comm
        _ ~ waiting (last :: rest) ++ items := hperm.append_right _
    · cases h
      calc
        waiting [⟨start, items, 0⟩] = waiting [] ++ items := by simp [waiting]
        _ ~ waiting (last :: rest) ++ items := hperm.append_right _

theorem sortRuns_perm {total least fuel patience start : Nat} {ps : List (Pending α)} {xs zs : List α}
    (h : sortRuns lt total least fuel patience ps start xs = .ok zs) (hfuel : xs.length ≤ fuel) :
    zs ~ waiting ps ++ xs := by
  induction fuel generalizing patience ps start xs with
  | zero =>
    obtain rfl := List.length_eq_zero_iff.mp (Nat.le_zero.mp hfuel)
    rw [List.append_nil]
    exact mergeAll_perm h
  | succ fuel ih =>
    cases xs with
    | nil =>
      rw [List.append_nil]
      exact mergeAll_perm h
    | cons x xs =>
      simp only [sortRuns] at h
      obtain ⟨⟨run, rest⟩, hrun, h⟩ := bind_eq_ok_iff.mp h
      obtain ⟨filled, hfilled, h⟩ := bind_eq_ok_iff.mp h
      obtain ⟨⟨ps', patience'⟩, hadded, h⟩ := bind_eq_ok_iff.mp h
      generalize least - run.length = missing at hfilled hadded h
      have hwhole := firstRun_perm hrun
      have hlength : (rest.drop missing).length ≤ fuel := by
        have hsum := hwhole.length_eq
        have hpos := List.length_pos_iff.mpr (firstRun_ne_nil hrun)
        simp only [List.length_append, List.length_cons, List.length_drop] at hsum hfuel ⊢
        omega
      calc
        zs ~ waiting ps' ++ rest.drop missing := ih h hlength
        _ ~ (waiting ps ++ filled.toList) ++ rest.drop missing := (addRun_perm hadded).append_right _
        _ ~ (waiting ps ++ (run ++ rest.take missing)) ++ rest.drop missing :=
          ((insertAll_perm hfilled).append_left _).append_right _
        _ = waiting ps ++ (run ++ rest) := by simp
        _ ~ waiting ps ++ x :: xs := hwhole.append_left _

/-- **What is sorted is rearranged**, whatever the comparison says. -/
theorem sortM_perm {xs ys : List α} (h : sortM lt xs = .ok ys) : ys ~ xs :=
  sortRuns_perm h (Nat.le_refl _)

end AgentLint.Order
