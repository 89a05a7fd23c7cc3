import AgentLint.Proofs.Suppression.Usage
import Mathlib.Data.Nat.Find

/-!
# What becomes of an opening

A line that opens a block either gives one range, from itself to the end of the block, or none: it gives none if
the block is opened again before its end (`Restarts`).  One of the two is always the case, and never both
(`isBlock_iff_not_restarts`).  So after some queries it is used, or it is the one unused range of its line, or it
was restarted and is neither (`unused_of_opening`).
-/

namespace AgentLint

/-! ## 1. Blocks and restarts -/

/-- A directive that opens a block again: the first opening is lost. -/
structure Restarts (lines : List (List Char)) (target : String) (first again : Nat) : Prop where
  opens : directiveOn lines first = some ⟨.block, target⟩
  restarts : directiveOn lines again = some ⟨.block, target⟩
  lt : first < again
  between : ∀ i : Nat, first < i → i < again → directiveOn lines i ≠ some ⟨.block, target⟩ ∧
    directiveOn lines i ≠ some ⟨.enable, target⟩

section Openings

variable {lines : List (List Char)} {target : String} {first last : Nat}

/-- A block runs downwards. -/
theorem IsBlock.le (h : IsBlock lines target first last) : first ≤ last := by
  rcases isBlock_iff.mp h with h | ⟨h, rfl⟩
  · exact Nat.le_of_lt h.lt
  · have := (directiveOn_bounds h.opens).2
    omega

/-- What follows a block is no restart of it. -/
theorem IsBlock.not_restarts (h : IsBlock lines target first last) {again : Nat} :
    ¬ Restarts lines target first again := by
  intro hrestarts
  rcases isBlock_iff.mp h with hclosed | ⟨hopen, -⟩
  · rcases Nat.lt_trichotomy again last with hlt | heq | hgt
    · exact (hclosed.between again hrestarts.lt hlt).1 hrestarts.restarts
    · subst heq
      cases hrestarts.restarts.symm.trans hclosed.ends
    · exact (hrestarts.between last hclosed.lt hgt).2 hclosed.ends
  · exact (hopen.since again hrestarts.lt).1 hrestarts.restarts

/-- **An opening starts a block or is restarted.** -/
theorem isBlock_iff_not_restarts (hopens : directiveOn lines first = some ⟨.block, target⟩) :
    IsBlock lines target first (blockEnd lines target first) ↔ ¬ ∃ again, Restarts lines target first again := by
  refine ⟨fun h ⟨again, hrestarts⟩ => h.not_restarts hrestarts, fun h => ⟨hopens, rfl, fun i hi hle hblock => h ?_⟩⟩
  have hfirst := (directiveOn_bounds hopens).2
  -- The next opening is the one that restarts.
  have hnext : ∃ i : Nat, first < i ∧ directiveOn lines i = some ⟨.block, target⟩ := ⟨i, hi, hblock⟩
  obtain ⟨hlt, hagain⟩ := Nat.find_spec hnext
  have hmin : Nat.find hnext ≤ i := Nat.find_min' hnext ⟨hi, hblock⟩
  refine ⟨Nat.find hnext, hopens, hagain, hlt, fun j hj hj' => ⟨fun hb => Nat.find_min hnext hj' ⟨hj, hb⟩, ?_⟩⟩
  rcases (blockEnd_eq_iff (by omega)).mp (rfl : blockEnd lines target first = blockEnd lines target first) with
    ⟨-, -, hbetween⟩ | ⟨-, hnone⟩
  · exact hbetween j hj (by omega)
  · exact hnone j hj

end Openings

namespace Tracker

/-! ## 2. Ranges by line -/

section Ranges

variable {content : String} {r s : Suppressed} {target : String} {n : Nat}

/-- Every range of a text stands for the directive on its line. -/
theorem directiveOn_comment (hs : s ∈ (parse content).ranges) :
    directiveOn (Text.splitLines content.toList) s.comment = some ⟨s.scope.verb, s.target⟩ := by
  rcases (mem_parse_iff content s).mp hs with hrec | ⟨t, first, hopen, rfl⟩
  · exact comment_of_recorded hrec
  · exact hopen.opens

theorem eq_of_comment_eq (hr : r ∈ (parse content).ranges) (hs : s ∈ (parse content).ranges)
    (h : r.comment = s.comment) : r = s :=
  List.inj_on_of_nodup_map (nodup_comments_parse content) hr hs h

/-- The range of an opening is a block of the text. -/
theorem isBlock_of_mem_parse (hs : s ∈ (parse content).ranges)
    (hd : directiveOn (Text.splitLines content.toList) s.comment = some ⟨.block, target⟩) :
    ∃ last, s = ⟨target, .block, s.comment, some (s.comment, last), false⟩ ∧
      IsBlock (Text.splitLines content.toList) target s.comment last := by
  rcases (mem_parse_iff content s).mp hs with hrec | ⟨t, first, hopen, rfl⟩
  · have hsame := (comment_of_recorded hrec).symm.trans hd
    cases hrec with
    | file on => cases hsame
    | nextLine on lt => cases hsame
    | line on => cases hsame
    | block closed =>
      cases hsame
      exact ⟨_, rfl, isBlock_iff.mpr (.inl closed)⟩
  · cases hopen.opens.symm.trans hd
    exact ⟨_, rfl, isBlock_iff.mpr (.inr ⟨hopen, rfl⟩)⟩

/-- A block of the text has a range. -/
theorem mem_parse_of_isBlock {last : Nat} (h : IsBlock (Text.splitLines content.toList) target n last) :
    ⟨target, .block, n, some (n, last), false⟩ ∈ (parse content).ranges := by
  rw [mem_parse_iff]
  rcases isBlock_iff.mp h with hclosed | ⟨hopen, rfl⟩
  · exact .inl (.block hclosed)
  · exact .inr ⟨target, n, hopen, rfl⟩

/-- A restarted opening has no range. -/
theorem comment_ne_of_restarts {again : Nat} (h : Restarts (Text.splitLines content.toList) target n again)
    (hr : r ∈ (parse content).ranges) : r.comment ≠ n := by
  rintro rfl
  obtain ⟨last, -, hblock⟩ := isBlock_of_mem_parse hr h.opens
  exact hblock.not_restarts h

/-- **The ranges of a line**: there is only one. -/
theorem filter_comment_eq_singleton (hs : s ∈ (parse content).ranges) :
    (parse content).ranges.filter (fun r => decide (r.comment = s.comment)) = [s] := by
  have hsame : (parse content).ranges.filter (fun r => decide (r.comment = s.comment)) =
      (parse content).ranges.filter fun r => decide (r = s) :=
    List.filter_congr fun r hr => decide_eq_decide.mpr ⟨eq_of_comment_eq hr hs, fun h => by rw [h]⟩
  have hcount := List.count_eq_one_of_mem (List.Nodup.of_map _ (nodup_comments_parse content)) hs
  rw [hsame, List.filter_eq, hcount, List.replicate_one]

end Ranges

/-! ## 3. Openings and queries -/

section Queries

variable (content : String) (queries : List (String × Option Int))

/-- The unused ranges on a line: the range of the line, unless it was the first one for some query. -/
theorem unused_on_line (n : Nat) :
    (((parse content).after queries).unused.filter fun s => decide (s.comment = n)) =
      if ∃ q ∈ queries, (parse content).suppressor q.1 q.2 = some n then []
      else (parse content).ranges.filter fun s => decide (s.comment = n) := by
  rw [unused_after_parse, List.filter_filter]
  split
  · rename_i hused
    obtain ⟨q, hq, hfirst⟩ := hused
    rw [List.filter_eq_nil_iff]
    intro s hs hboth
    obtain ⟨hline, hunused⟩ := Bool.and_eq_true_iff.mp hboth
    exact of_decide_eq_true hunused q hq (by rw [of_decide_eq_true hline, hfirst])
  · rename_i hunused
    refine List.filter_congr fun s _ => ?_
    rw [Bool.and_eq_left_iff_imp, decide_eq_true_iff, decide_eq_true_iff]
    rintro rfl q hq hfirst
    exact hunused ⟨q, hq, hfirst⟩

/-- **An opening is used or unused**, unless it is restarted and neither. -/
theorem unused_of_opening {n : Nat} {target : String}
    (hopens : directiveOn (Text.splitLines content.toList) n = some ⟨.block, target⟩) :
    let lines := Text.splitLines content.toList
    let used := ∃ q ∈ queries, (parse content).suppressor q.1 q.2 = some n
    let unused := ((parse content).after queries).unused.filter fun s => decide (s.comment = n)
    ((¬ ∃ again, Restarts lines target n again) → (used ∧ unused = []) ∨
      (¬ used ∧ unused = [⟨target, .block, n, some (n, blockEnd lines target n), false⟩])) ∧
    ((∃ again, Restarts lines target n again) → ¬ used ∧ unused = []) := by
  intro lines used unused
  refine ⟨fun hnot => ?_, fun ⟨again, hrestarts⟩ => ?_⟩
  · have hrange := mem_parse_of_isBlock ((isBlock_iff_not_restarts hopens).mpr hnot)
    by_cases hused : used
    · exact .inl ⟨hused, (unused_on_line content queries n).trans (if_pos hused)⟩
    · refine .inr ⟨hused, (unused_on_line content queries n).trans ((if_neg hused).trans ?_)⟩
      exact filter_comment_eq_singleton hrange
  · have hnone : ∀ s ∈ (parse content).ranges, s.comment ≠ n :=
      fun s => comment_ne_of_restarts hrestarts
    have hunused : ¬ used := by
      rintro ⟨q, -, hfirst⟩
      obtain ⟨s, hfind, hline⟩ := Option.map_eq_some_iff.mp hfirst
      exact hnone s (List.mem_of_find?_eq_some hfind) hline
    refine ⟨hunused, (unused_on_line content queries n).trans ((if_neg hunused).trans ?_)⟩
    rw [List.filter_eq_nil_iff]
    exact fun s hs h => hnone s hs (of_decide_eq_true h)

end Queries

end Tracker

end AgentLint
