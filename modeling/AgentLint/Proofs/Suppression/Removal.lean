import AgentLint.Proofs.Suppression.Openings
import AgentLint.Proofs.Text.Lines

/-!
# Removing a directive

A warning about an unused directive asks to remove its comment.  Removing it empties one line, and the other
directives are read as before, with one exception: where the directive had restarted a block (`Restarts`), the
earlier opening is left alone with the end, and the lines from it on are suppressed as well.

`mem_parse_withoutLine_iff` is about the ranges: those of the other lines stay, and the range of a removed
restart reaches up to the opening it had restarted.  `query_withoutLine_iff` is about the answers.  What the
removed directive covered by itself was not asked for, since it is unused, so the answers differ on the lines
between the two openings and nowhere else.
-/

namespace AgentLint

/-! ## 1. Empty lines -/

/-- Lines with one of them made empty, counted from one. -/
def emptied (lines : List (List Char)) (n : Nat) : List (List Char) := lines.set (n - 1) []

/-- A text with one of its lines made empty. -/
def withoutLine (content : String) (n : Nat) : String :=
  String.ofList (Text.joinLines (emptied (Text.splitLines content.toList) n))

theorem splitLines_withoutLine (content : String) (n : Nat) :
    Text.splitLines (withoutLine content n).toList = emptied (Text.splitLines content.toList) n := by
  rw [withoutLine, String.toList_ofList]
  refine Text.splitLines_joinLines (fun l hl => ?_) ?_
  · rcases List.mem_or_eq_of_mem_set hl with hl | rfl
    · exact Text.not_mem_of_mem_splitOn hl
    · exact List.not_mem_nil
  · rw [emptied, ne_eq, List.set_eq_nil_iff]
    exact Text.splitOn_ne_nil _ _

section Lines

variable {lines : List (List Char)} {n : Nat} {d : Directive}

theorem length_emptied (lines : List (List Char)) (n : Nat) : (emptied lines n).length = lines.length :=
  List.length_set

theorem one_le_of_directiveOn (hd : directiveOn lines n = some d) : 1 ≤ n := by
  have := (directiveOn_bounds hd).1
  omega

/-- No directive is on an empty line, and the others stay. -/
theorem directiveOn_emptied_eq_some_iff (hn : 1 ≤ n) {i : Int} :
    directiveOn (emptied lines n) i = some d ↔ i ≠ n ∧ directiveOn lines i = some d := by
  unfold directiveOn emptied
  by_cases hi : i < 1
  · simp [hi]
  rw [if_neg hi, if_neg hi, List.getElem?_set]
  by_cases heq : i = n
  · have hindex : n - 1 = i.toNat - 1 := by omega
    rw [if_pos hindex]
    split <;> simp [heq, Directive.onLine]
  · rw [if_neg (by omega)]
    simp [heq]

/-! ## 2. Blocks without a line -/

section Blocks

variable {target : String} {first last : Nat}

/-- A line says nothing about the blocks of a target if it is the empty one, or did not before. -/
theorem quiet_emptied_iff (hn : 1 ≤ n) {i : Nat} :
    (directiveOn (emptied lines n) i ≠ some ⟨.block, target⟩ ∧
        directiveOn (emptied lines n) i ≠ some ⟨.enable, target⟩) ↔
      i = n ∨ (directiveOn lines i ≠ some ⟨.block, target⟩ ∧ directiveOn lines i ≠ some ⟨.enable, target⟩) := by
  simp only [ne_eq, directiveOn_emptied_eq_some_iff hn]
  by_cases hi : i = n
  · simp [hi]
  · have hcast : ¬ (i : Int) = n := by omega
    simp [hi, hcast]

variable (hd : directiveOn lines n = some d) (henable : d.verb ≠ .enable)
include hd henable

/-- A directive that neither opens nor ends a block of a target says nothing about its blocks. -/
theorem quiet_of_ne_block (hblock : directiveOn lines n ≠ some ⟨.block, target⟩) :
    directiveOn lines n ≠ some ⟨.block, target⟩ ∧ directiveOn lines n ≠ some ⟨.enable, target⟩ := by
  refine ⟨hblock, fun he => henable ?_⟩
  rw [hd, Option.some.injEq] at he
  rw [he]

/-- An open block was open before, or has lost its restart. -/
theorem opened_emptied_iff : Opened (emptied lines n) target first ↔
    (Opened lines target first ∧ first ≠ n) ∨ (Restarts lines target first n ∧ Opened lines target n) := by
  have hn := one_le_of_directiveOn hd
  constructor
  · intro h
    obtain ⟨hfirst, hopens⟩ := (directiveOn_emptied_eq_some_iff hn).mp h.opens
    have hsince := fun (i : Nat) (hi : first < i) => (quiet_emptied_iff hn).mp (h.since i hi)
    by_cases hrestart : first < n ∧ directiveOn lines n = some ⟨.block, target⟩
    · obtain ⟨hlt, hblock⟩ := hrestart
      exact .inr ⟨⟨hopens, hblock, hlt, fun i hi hi' => (hsince i hi).resolve_left (by omega)⟩, hblock,
        fun i hi => (hsince i (by omega)).resolve_left (by omega)⟩
    · refine .inl ⟨⟨hopens, fun i hi => (hsince i hi).elim (fun hin => ?_) id⟩, by omega⟩
      subst hin
      exact quiet_of_ne_block hd henable fun hb => hrestart ⟨hi, hb⟩
  · rintro (⟨h, hfirst⟩ | ⟨hrestarts, h⟩)
    · exact ⟨(directiveOn_emptied_eq_some_iff hn).mpr ⟨by omega, h.opens⟩,
        fun i hi => (quiet_emptied_iff hn).mpr (.inr (h.since i hi))⟩
    · have hlt := hrestarts.lt
      refine ⟨(directiveOn_emptied_eq_some_iff hn).mpr ⟨by omega, hrestarts.opens⟩,
        fun i hi => (quiet_emptied_iff hn).mpr ?_⟩
      rcases Nat.lt_trichotomy i n with hi' | hi' | hi'
      · exact .inr (hrestarts.between i hi hi')
      · exact .inl hi'
      · exact .inr (h.since i hi')

/-- A closed block was closed before, or has lost its restart. -/
theorem closed_emptied_iff : Closed (emptied lines n) target first last ↔
    (Closed lines target first last ∧ first ≠ n) ∨
      (Restarts lines target first n ∧ Closed lines target n last) := by
  have hn := one_le_of_directiveOn hd
  constructor
  · intro h
    have hlt := h.lt
    obtain ⟨hfirst, hopens⟩ := (directiveOn_emptied_eq_some_iff hn).mp h.opens
    obtain ⟨hlast, hends⟩ := (directiveOn_emptied_eq_some_iff hn).mp h.ends
    have hbetween := fun (i : Nat) (hi : first < i) (hi' : i < last) =>
      (quiet_emptied_iff hn).mp (h.between i hi hi')
    by_cases hrestart : first < n ∧ n < last ∧ directiveOn lines n = some ⟨.block, target⟩
    · obtain ⟨hafter, hbefore, hblock⟩ := hrestart
      exact .inr ⟨⟨hopens, hblock, hafter, fun i hi hi' => (hbetween i hi (by omega)).resolve_left (by omega)⟩,
        hblock, hends, hbefore, fun i hi hi' => (hbetween i (by omega) hi').resolve_left (by omega)⟩
    · refine .inl ⟨⟨hopens, hends, hlt, fun i hi hi' => (hbetween i hi hi').elim (fun hin => ?_) id⟩, by omega⟩
      subst hin
      exact quiet_of_ne_block hd henable fun hb => hrestart ⟨hi, hi', hb⟩
  · rintro (⟨h, hfirst⟩ | ⟨hrestarts, h⟩)
    · -- The end stays, since an end is not what was removed.
      have hlast : last ≠ n := by
        rintro rfl
        rw [h.ends, Option.some.injEq] at hd
        exact henable (by rw [← hd])
      exact ⟨(directiveOn_emptied_eq_some_iff hn).mpr ⟨by omega, h.opens⟩,
        (directiveOn_emptied_eq_some_iff hn).mpr ⟨by omega, h.ends⟩, h.lt,
        fun i hi hi' => (quiet_emptied_iff hn).mpr (.inr (h.between i hi hi'))⟩
    · have hafter := hrestarts.lt
      have hbefore := h.lt
      refine ⟨(directiveOn_emptied_eq_some_iff hn).mpr ⟨by omega, hrestarts.opens⟩,
        (directiveOn_emptied_eq_some_iff hn).mpr ⟨by omega, h.ends⟩, by omega,
        fun i hi hi' => (quiet_emptied_iff hn).mpr ?_⟩
      rcases Nat.lt_trichotomy i n with hin | hin | hin
      · exact .inr (hrestarts.between i hi hin)
      · exact .inl hin
      · exact .inr (h.between i hin hi')

end Blocks

end Lines

namespace Tracker

/-! ## 3. Ranges without a directive -/

/-- What was read of the other lines stays, and a closed block may have lost its restart. -/
theorem recorded_emptied_iff {total : Nat} {lines : List (List Char)} {n : Nat} {d : Directive}
    (hd : directiveOn lines n = some d) (henable : d.verb ≠ .enable) {r : Suppressed} :
    Recorded total (emptied lines n) r ↔ (Recorded total lines r ∧ r.comment ≠ n) ∨
      ∃ target first last, Restarts lines target first n ∧ Closed lines target n last ∧
        r = ⟨target, .block, first, some (first, last), false⟩ := by
  have hn := one_le_of_directiveOn hd
  have hstays : ∀ {i : Nat} {e : Directive}, directiveOn (emptied lines n) i = some e ↔
      i ≠ n ∧ directiveOn lines i = some e := by
    intro i e
    rw [directiveOn_emptied_eq_some_iff hn, ne_eq, ne_eq, Int.ofNat_inj]
  constructor
  · intro h
    cases h with
    | file on => exact .inl ⟨.file (hstays.mp on).2, (hstays.mp on).1⟩
    | nextLine on lt => exact .inl ⟨.nextLine (hstays.mp on).2 lt, (hstays.mp on).1⟩
    | line on => exact .inl ⟨.line (hstays.mp on).2, (hstays.mp on).1⟩
    | block closed =>
      rcases (closed_emptied_iff hd henable).mp closed with ⟨h, hne⟩ | ⟨hrestarts, h⟩
      · exact .inl ⟨.block h, hne⟩
      · exact .inr ⟨_, _, _, hrestarts, h, rfl⟩
  · rintro (⟨h, hne⟩ | ⟨target, first, last, hrestarts, h, rfl⟩)
    · cases h with
      | file on => exact .file (hstays.mpr ⟨hne, on⟩)
      | nextLine on lt => exact .nextLine (hstays.mpr ⟨hne, on⟩) lt
      | line on => exact .line (hstays.mpr ⟨hne, on⟩)
      | block closed => exact .block ((closed_emptied_iff hd henable).mpr (.inl ⟨closed, hne⟩))
    · exact .block ((closed_emptied_iff hd henable).mpr (.inr ⟨hrestarts, h⟩))

section Ranges

variable {content : String} {r s : Suppressed}

/-- **The ranges without a directive**: those of the other lines, and if it restarted a block, its own from the
first opening on. -/
theorem mem_parse_withoutLine_iff (hs : s ∈ (parse content).ranges) :
    r ∈ (parse (withoutLine content s.comment)).ranges ↔
      (r ∈ (parse content).ranges ∧ r.comment ≠ s.comment) ∨
        ∃ first, Restarts (Text.splitLines content.toList) s.target first s.comment ∧
          r = { s with comment := first, span := s.span.map fun lines => (first, lines.2) } := by
  have hd := directiveOn_comment hs
  have henable : s.scope.verb ≠ .enable := by cases s.scope <;> nofun
  rw [mem_parse_iff, mem_parse_iff, splitLines_withoutLine, length_emptied, recorded_emptied_iff hd henable]
  constructor
  · rintro ((⟨h, hne⟩ | ⟨t, first, last, hrestarts, h, rfl⟩) | ⟨t, first, hopen, rfl⟩)
    · exact .inl ⟨.inl h, hne⟩
    · have hmem := (mem_parse_iff content _).mpr (.inl (.block h))
      rw [← eq_of_comment_eq hmem hs rfl]
      exact .inr ⟨first, hrestarts, rfl⟩
    · rcases (opened_emptied_iff hd henable).mp hopen with ⟨h, hne⟩ | ⟨hrestarts, h⟩
      · exact .inl ⟨.inr ⟨t, first, h, rfl⟩, hne⟩
      · have hmem := (mem_parse_iff content _).mpr (.inr ⟨t, s.comment, h, rfl⟩)
        rw [← eq_of_comment_eq hmem hs rfl]
        exact .inr ⟨first, hrestarts, rfl⟩
  · rintro (⟨h | ⟨t, first, hopen, rfl⟩, hne⟩ | ⟨first, hrestarts, rfl⟩)
    · exact .inl (.inl ⟨h, hne⟩)
    · exact .inr ⟨t, first, (opened_emptied_iff hd henable).mpr (.inl ⟨hopen, hne⟩), rfl⟩
    · obtain ⟨last, heq, hblock⟩ := isBlock_of_mem_parse hs hrestarts.restarts
      rw [heq]
      rcases isBlock_iff.mp hblock with h | ⟨h, rfl⟩
      · exact .inl (.inr ⟨_, first, last, hrestarts, h, rfl⟩)
      · exact .inr ⟨_, first, (opened_emptied_iff hd henable).mpr (.inr ⟨hrestarts, h⟩), rfl⟩

end Ranges

/-! ## 4. Answers without a directive -/

section Answers

variable (content : String) (queries : List (String × Option Int))

/-- A query that an unused range covers is covered by another one. -/
theorem exists_other_of_unused {s : Suppressed} (hs : s ∈ ((parse content).after queries).unused)
    {q : String × Option Int} (hq : q ∈ queries) (hcovers : (parse content).covers q.1 q.2 = true) :
    ∃ r ∈ (parse content).ranges, r.comment ≠ s.comment ∧ r.covers q.1 q.2 = true := by
  rw [unused_after_parse] at hs
  have hother := of_decide_eq_true (List.mem_filter.mp hs).2 q hq
  rw [← isSome_suppressor, Option.isSome_iff_exists] at hcovers
  obtain ⟨line, hline⟩ := hcovers
  obtain ⟨r, hfind, rfl⟩ := Option.map_eq_some_iff.mp hline
  refine ⟨r, List.mem_of_find?_eq_some hfind, fun heq => hother ?_, by simpa using List.find?_some hfind⟩
  rw [hline, heq]

/-- **Removing an unused directive** gives the answers of before, and suppresses its target on the lines
between the directive and an opening that it had restarted. -/
theorem query_withoutLine_iff {s : Suppressed} (hs : s ∈ ((parse content).after queries).unused)
    {q : String × Option Int} (hq : q ∈ queries) (earlier earlier' : List (String × Option Int)) :
    (((parse (withoutLine content s.comment)).after earlier').query q.1 q.2).1 = true ↔
      (((parse content).after earlier).query q.1 q.2).1 = true ∨
        (s.target ∈ [q.1, Directive.allRules] ∧ ∃ (first : Nat) (n : Int), q.2 = some n ∧
          Restarts (Text.splitLines content.toList) s.target first s.comment ∧ first ≤ n ∧ n < s.comment) := by
  rw [query_fst, query_fst, covers_after, covers_after]
  have hmem : s ∈ (parse content).ranges := by
    rw [unused_after_parse] at hs
    exact (List.mem_filter.mp hs).1
  constructor
  · intro hcovers
    obtain ⟨r, hr, hrcovers⟩ := List.any_eq_true.mp hcovers
    rcases (mem_parse_withoutLine_iff hmem).mp hr with ⟨hr, -⟩ | ⟨first, hrestarts, rfl⟩
    · exact .inl (List.any_eq_true.mpr ⟨r, hr, hrcovers⟩)
    · obtain ⟨last, heq, -⟩ := isBlock_of_mem_parse hmem hrestarts.restarts
      have hspan : s.span = some (s.comment, last) := by rw [heq]
      obtain ⟨htarget, hline⟩ := (covers_iff _ q.1 q.2).mp hrcovers
      obtain ⟨n, hn, hfirst, hlast⟩ := hline first last (by rw [hspan]; rfl)
      by_cases hbefore : n < s.comment
      · exact .inr ⟨htarget, first, n, hn, hrestarts, hfirst, hbefore⟩
      · refine .inl (List.any_eq_true.mpr ⟨s, hmem, (covers_iff s q.1 q.2).mpr ⟨htarget, fun first' last' h => ?_⟩⟩)
        cases hspan.symm.trans h
        exact ⟨n, hn, by omega, hlast⟩
  · rintro (hcovers | ⟨htarget, first, n, hn, hrestarts, hfirst, hbefore⟩)
    · obtain ⟨r, hr, hne, hrcovers⟩ := exists_other_of_unused content queries hs hq hcovers
      exact List.any_eq_true.mpr ⟨r, (mem_parse_withoutLine_iff hmem).mpr (.inl ⟨hr, hne⟩), hrcovers⟩
    · obtain ⟨last, heq, hblock⟩ := isBlock_of_mem_parse hmem hrestarts.restarts
      have hspan : s.span = some (s.comment, last) := by rw [heq]
      refine List.any_eq_true.mpr ⟨_, (mem_parse_withoutLine_iff hmem).mpr (.inr ⟨first, hrestarts, rfl⟩),
        (covers_iff _ q.1 q.2).mpr ⟨htarget, fun first' last' h => ?_⟩⟩
      rw [hspan] at h
      cases h
      have hle := hblock.le
      exact ⟨n, hn, hfirst, by omega⟩

/-- A block that is opened twice before its end. -/
def openedTwice : String :=
  "<!-- lintloom-disable r -->\nBAD\n<!-- lintloom-disable r -->\n<!-- lintloom-enable r -->"

/-- It has one range, which starts at the second opening, and at the first one if the second one is gone. -/
theorem parse_openedTwice :
    parse openedTwice = ⟨[⟨"r", .block, 3, some (3, 4), false⟩]⟩ ∧
      parse (withoutLine openedTwice 3) = ⟨[⟨"r", .block, 1, some (1, 4), false⟩]⟩ := by
  rw [parse, parse, splitLines_withoutLine, openedTwice, String.toList_ofList]
  decide +kernel

theorem restarts_openedTwice : Restarts (Text.splitLines openedTwice.toList) "r" 1 3 := by
  have hlines : directiveOn (Text.splitLines openedTwice.toList) (1 : Nat) = some ⟨.block, "r"⟩ ∧
      directiveOn (Text.splitLines openedTwice.toList) (2 : Nat) = none ∧
      directiveOn (Text.splitLines openedTwice.toList) (3 : Nat) = some ⟨.block, "r"⟩ := by
    rw [openedTwice, String.toList_ofList]
    decide +kernel
  obtain ⟨hopens, hbetween, hrestarts⟩ := hlines
  refine ⟨hopens, hrestarts, by omega, fun i hi hi' => ?_⟩
  obtain rfl : i = 2 := by omega
  rw [hbetween]
  exact ⟨nofun, nofun⟩

theorem unused_openedTwice :
    ⟨"r", .block, 3, some (3, 4), false⟩ ∈ ((parse openedTwice).after [("r", some 2)]).unused := by
  rw [parse_openedTwice.1]
  decide

/-- Its second opening is unused if only the line before it is asked about, and without it that line is
suppressed. -/
theorem query_openedTwice :
    ⟨"r", .block, 3, some (3, 4), false⟩ ∈ ((parse openedTwice).after [("r", some 2)]).unused ∧
      ("r", some (2 : Int)) ∈ [("r", some (2 : Int))] ∧
      ((parse (withoutLine openedTwice 3)).query "r" (some 2)).1 = true := by
  have hasked : ("r", some (2 : Int)) ∈ [("r", some (2 : Int))] := List.mem_singleton.mpr rfl
  exact ⟨unused_openedTwice, hasked,
    (query_withoutLine_iff openedTwice [("r", some 2)] unused_openedTwice hasked [] []).mpr
      (.inr ⟨by decide, 1, 2, rfl, restarts_openedTwice, by decide, by decide⟩)⟩

/-- **Removing an unused directive can change an answer**: the one that restarted a block. -/
theorem removal_changes_answer :
    ¬ ∀ content queries, ∀ s ∈ ((parse content).after queries).unused, ∀ q ∈ queries,
      ((parse (withoutLine content s.comment)).query q.1 q.2).1 = ((parse content).query q.1 q.2).1 := by
  intro h
  have hsame := h openedTwice [("r", some 2)] _ unused_openedTwice ("r", some 2) (List.mem_singleton.mpr rfl)
  rw [parse_openedTwice.1, parse_openedTwice.2] at hsame
  exact absurd hsame (by decide)

end Answers

end Tracker

end AgentLint
