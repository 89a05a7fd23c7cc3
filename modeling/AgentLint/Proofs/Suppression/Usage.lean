import AgentLint.Proofs.Suppression.Reading

/-!
# Which directives were used

A query marks the first range that covers it.  The ranges of a text are told apart by the lines of their
directives (`nodup_comments_parse`), so the marks can be described by lines: after some queries, those
directives are marked that are the first one for some of them (`after_eq_remark`).  Nothing in this depends on
how often or in which order the queries come.

`marks_of_queries` adds what the marks are good for.  The ranges that are marked answer each of the queries as
all ranges did, because they hold the first range that covers it; and asked again they are all used.
-/

namespace AgentLint

namespace Tracker

/-! ## 1. Ranges by the lines of their directives -/

section Comments

variable {total : Nat} {lines : List (List Char)}

/-- A range that was read stands for the directive on its line. -/
theorem comment_of_recorded {r : Suppressed} (h : Recorded total lines r) :
    directiveOn lines r.comment = some ⟨r.scope.verb, r.target⟩ := by
  cases h with
  | file on => exact on
  | nextLine on lt => exact on
  | line on => exact on
  | block closed => exact closed.opens

/-- What is still open is no range yet. -/
theorem comment_ne_of_opened {r : Suppressed} (h : Recorded total lines r) {target : String} {first : Nat}
    (ho : Opened lines target first) : r.comment ≠ first := by
  intro heq
  have hsame := comment_of_recorded h
  rw [heq, ho.opens, Option.some.injEq, Directive.mk.injEq] at hsame
  obtain ⟨hverb, htarget⟩ := hsame
  cases h with
  | file on => cases hverb
  | nextLine on lt => cases hverb
  | line on => cases hverb
  | block closed =>
    cases heq
    cases htarget
    exact (ho.since _ closed.lt).2 closed.ends

/-- **No line makes two ranges** while lines are read, by induction over them. -/
theorem nodup_comments_scan (total : Nat) (lines : List (List Char)) :
    ((scan total (Text.numberFrom 1 lines)).closed.map Suppressed.comment).Nodup := by
  induction lines using List.reverseRecOn with
  | nil => exact List.nodup_nil
  | append_singleton lines text ih =>
    have h := scanned_scan total lines
    rw [scan_append]
    generalize scan total (Text.numberFrom 1 lines) = s at ih h
    have hadd : ∀ r, (∀ r' ∈ s.closed, r'.comment ≠ r.comment) →
        ((s.closed ++ [r]).map Suppressed.comment).Nodup := by
      intro r hr
      rw [List.map_append, List.map_singleton, List.nodup_append]
      refine ⟨ih, List.nodup_singleton _, ?_⟩
      rintro n hn m hm rfl
      obtain ⟨r', hr', rfl⟩ := List.mem_map.mp hn
      exact hr r' hr' (List.mem_singleton.mp hm)
    have hlast : ∀ r' ∈ s.closed, r'.comment ≠ lines.length + 1 := by
      intro r' hr' heq
      have hle := (directiveOn_bounds (comment_of_recorded ((h.closed r').mp hr'))).2
      omega
    unfold stepLine
    cases Directive.onLine text with
    | none => exact ih
    | some d =>
      obtain ⟨verb, t⟩ := d
      cases verb with
      | file => exact hadd _ hlast
      | line => exact hadd _ hlast
      | block => exact ih
      | nextLine =>
        simp only [step]
        split
        · exact hadd _ hlast
        · exact ih
      | enable =>
        simp only [step]
        cases hget : Assoc.get? t s.opened with
        | none => exact ih
        | some first =>
          exact hadd _ fun r' hr' => comment_ne_of_opened ((h.closed r').mp hr') ((h.opened t first).mp hget)

end Comments

/-- **The ranges of a text are told apart by the lines of their directives.** -/
theorem nodup_comments_parse (content : String) : ((parse content).ranges.map Suppressed.comment).Nodup := by
  have h := scanned_scan (Text.splitLines content.toList).length (Text.splitLines content.toList)
  have hopened : ∀ e ∈ (scan (Text.splitLines content.toList).length
      (Text.numberFrom 1 (Text.splitLines content.toList))).opened,
        Opened (Text.splitLines content.toList) e.1 e.2 := fun e he =>
    (h.opened e.1 e.2).mp (Assoc.get?_of_mem h.keys he)
  unfold parse
  rw [List.map_append, List.map_map, List.nodup_append]
  refine ⟨nodup_comments_scan _ _, ?_, ?_⟩
  · refine (List.Nodup.of_map _ h.keys).map_on ?_
    rintro ⟨t, first⟩ he ⟨t', first'⟩ he' heq
    obtain rfl : first = first' := heq
    have hsame := (hopened _ he).opens.symm.trans (hopened _ he').opens
    cases hsame
    rfl
  · rintro n hn m hm rfl
    obtain ⟨r, hr, rfl⟩ := List.mem_map.mp hn
    obtain ⟨e, he, heq⟩ := List.mem_map.mp hm
    exact comment_ne_of_opened ((h.closed r).mp hr) (hopened e he) heq.symm

/-! ## 2. Marks -/

/-- The line of the first directive that covers a rule at a line. -/
def suppressor (t : Tracker) (rule : String) (line : Option Int) : Option Nat :=
  (t.ranges.find? fun r => r.covers rule line).map Suppressed.comment

/-- The same ranges with other marks. -/
def remark (t : Tracker) (marks : Suppressed → Bool) : Tracker :=
  ⟨t.ranges.map fun r => { r with used := marks r }⟩

/-- The ranges that are marked. -/
def inUse (t : Tracker) : Tracker := ⟨t.ranges.filter Suppressed.used⟩

section Marks

variable {t : Tracker} {rule : String} {line : Option Int} {queries : List (String × Option Int)}

theorem isSome_suppressor (t : Tracker) (rule : String) (line : Option Int) :
    (t.suppressor rule line).isSome = t.covers rule line := by
  rw [suppressor, Option.isSome_map, List.isSome_find?, covers]

/-- Marks do not decide who covers what. -/
theorem suppressor_remark (t : Tracker) (marks : Suppressed → Bool) :
    (t.remark marks).suppressor = t.suppressor := by
  funext rule line
  rw [suppressor, remark, List.find?_map, Option.map_map]
  rfl

theorem remark_remark (t : Tracker) (marks marks' : Suppressed → Bool) :
    (t.remark marks).remark marks' = t.remark fun r => marks' { r with used := marks r } := by
  rw [remark, remark, remark, List.map_map]
  rfl

theorem comments_remark (marks : Suppressed → Bool) :
    (t.remark marks).ranges.map Suppressed.comment = t.ranges.map Suppressed.comment := by
  rw [remark, List.map_map]
  rfl

/-- **One query** marks the first range that covers it, by induction over the ranges. -/
theorem query_snd (h : (t.ranges.map Suppressed.comment).Nodup) :
    (t.query rule line).2 = t.remark fun r => r.used || decide (t.suppressor rule line = some r.comment) := by
  obtain ⟨rs⟩ := t
  show (⟨(mark rule line rs).2⟩ : Tracker) = _
  rw [remark, Tracker.mk.injEq]
  unfold suppressor
  induction rs with
  | nil => rfl
  | cons r rs ih =>
    obtain ⟨hr, hrs⟩ := List.nodup_cons.mp h
    rw [mark, List.find?_cons, List.map_cons]
    cases hcov : r.covers rule line with
    | true =>
      -- No other range has the line of this one, so the others keep their marks.
      have hother : ∀ r' ∈ rs, decide (some r.comment = some r'.comment) = false := by
        intro r' hr'
        refine decide_eq_false fun heq => hr ?_
        rw [Option.some.inj heq]
        exact List.mem_map_of_mem hr'
      have hkept : ∀ r' ∈ rs,
          ({ r' with used := r'.used || decide (some r.comment = some r'.comment) } : Suppressed) = r' := by
        intro r' hr'
        rw [hother r' hr', Bool.or_false]
      rw [if_pos rfl, Option.map_some, (List.map_congr_left hkept).trans (List.map_id' rs)]
      simp
    | false =>
      have hself : decide ((rs.find? fun r => r.covers rule line).map Suppressed.comment = some r.comment) = false := by
        refine decide_eq_false fun heq => hr ?_
        obtain ⟨r', hfind, hcomment⟩ := Option.map_eq_some_iff.mp heq
        rw [← hcomment]
        exact List.mem_map_of_mem (List.mem_of_find?_eq_some hfind)
      rw [if_neg Bool.false_ne_true, hself, Bool.or_false]
      exact congrArg (r :: ·) (ih hrs)

theorem after_append (t : Tracker) (queries more : List (String × Option Int)) :
    t.after (queries ++ more) = (t.after queries).after more := List.foldl_append ..

/-- **The marks after some queries**, by induction over them. -/
theorem after_eq_remark (h : (t.ranges.map Suppressed.comment).Nodup) :
    t.after queries = t.remark fun r => r.used ||
      queries.any fun q => decide (t.suppressor q.1 q.2 = some r.comment) := by
  induction queries generalizing t with
  | nil =>
    rw [remark, Tracker.mk.injEq]
    simp [after]
  | cons q queries ih =>
    show (t.query q.1 q.2).2.after queries = _
    rw [query_snd h, ih (by rw [comments_remark]; exact h), remark_remark, suppressor_remark]
    simp only [List.any_cons, Bool.or_assoc]

/-! ## 3. The ranges in use -/

/-- Leaving ranges out does not matter where the first one stays. -/
theorem suppressor_inUse (h : ∀ r, (t.ranges.find? fun r => r.covers rule line) = some r → r.used = true) :
    t.inUse.suppressor rule line = t.suppressor rule line := by
  obtain ⟨rs⟩ := t
  unfold inUse suppressor
  congr 1
  induction rs with
  | nil => rfl
  | cons r rs ih =>
    rw [List.find?_cons] at h ⊢
    cases hcov : r.covers rule line with
    | true =>
      rw [hcov] at h
      rw [List.filter_cons_of_pos (h r rfl), List.find?_cons, hcov]
    | false =>
      rw [hcov] at h
      cases hused : r.used with
      | true =>
        rw [List.filter_cons_of_pos hused, List.find?_cons, hcov]
        exact ih h
      | false =>
        rw [List.filter_cons_of_neg (by simp [hused])]
        exact ih h

/-- What was asked is covered first by a range in use. -/
theorem suppressor_inUse_after (h : (t.ranges.map Suppressed.comment).Nodup) {q : String × Option Int}
    (hq : q ∈ queries) : (t.after queries).inUse.suppressor q.1 q.2 = t.suppressor q.1 q.2 := by
  have hsame : (t.after queries).suppressor q.1 q.2 = t.suppressor q.1 q.2 := by
    rw [after_eq_remark h, suppressor_remark]
  rw [← hsame]
  refine suppressor_inUse fun r hr => ?_
  rw [after_eq_remark h, remark, List.find?_map] at hr
  obtain ⟨r₀, hfind, rfl⟩ := Option.map_eq_some_iff.mp hr
  have hfirst : t.suppressor q.1 q.2 = some r₀.comment := Option.map_eq_some_iff.mpr ⟨r₀, hfind, rfl⟩
  have hany : (queries.any fun q => decide (t.suppressor q.1 q.2 = some r₀.comment)) = true :=
    List.any_eq_true.mpr ⟨q, hq, decide_eq_true hfirst⟩
  show (r₀.used || _) = true
  rw [hany, Bool.or_true]

/-- A range that came into use is the first one for some query. -/
theorem exists_query_of_mem_inUse (h : (t.ranges.map Suppressed.comment).Nodup)
    (hnew : ∀ r ∈ t.ranges, r.used = false) {r : Suppressed} (hr : r ∈ (t.after queries).inUse.ranges) :
    ∃ q ∈ queries, t.suppressor q.1 q.2 = some r.comment := by
  obtain ⟨hmem, hused⟩ := List.mem_filter.mp hr
  rw [after_eq_remark h] at hmem
  obtain ⟨r₀, hr₀, rfl⟩ := List.mem_map.mp hmem
  have hany : (queries.any fun q => decide (t.suppressor q.1 q.2 = some r₀.comment)) = true := by
    have hmark : (r₀.used || queries.any fun q => decide (t.suppressor q.1 q.2 = some r₀.comment)) = true := hused
    rwa [hnew r₀ hr₀, Bool.false_or] at hmark
  obtain ⟨q, hq, hfirst⟩ := List.any_eq_true.mp hany
  exact ⟨q, hq, of_decide_eq_true hfirst⟩

/-- **The ranges in use suffice**: they answer what was asked as all ranges did, and asked again they are all
used, whatever marks they start with. -/
theorem inUse_suffices (h : (t.ranges.map Suppressed.comment).Nodup) (hnew : ∀ r ∈ t.ranges, r.used = false)
    (marks : Suppressed → Bool) :
    (∀ earlier, ∀ q ∈ queries, ((((t.after queries).inUse.remark marks).after earlier).query q.1 q.2).1 =
      (t.query q.1 q.2).1) ∧
    (((t.after queries).inUse.remark marks).after queries).unused = [] := by
  have hsuppressor : ∀ q ∈ queries, ((t.after queries).inUse.remark marks).suppressor q.1 q.2 =
      t.suppressor q.1 q.2 := by
    intro q hq
    rw [suppressor_remark, suppressor_inUse_after h hq]
  refine ⟨fun earlier q hq => ?_, ?_⟩
  · rw [query_fst, query_fst, covers_after, ← isSome_suppressor, ← isSome_suppressor, hsuppressor q hq]
  · have hnodup : (((t.after queries).inUse.remark marks).ranges.map Suppressed.comment).Nodup := by
      rw [comments_remark, after_eq_remark h]
      refine List.Nodup.sublist (List.filter_sublist.map _) ?_
      rw [comments_remark]
      exact h
    rw [unused, after_eq_remark hnodup, List.filter_eq_nil_iff]
    intro r hr
    obtain ⟨r₁, hr₁, rfl⟩ := List.mem_map.mp hr
    obtain ⟨r₀, hr₀, rfl⟩ := List.mem_map.mp hr₁
    obtain ⟨q, hq, hfirst⟩ := exists_query_of_mem_inUse h hnew hr₀
    have hany : (queries.any fun q => decide (((t.after queries).inUse.remark marks).suppressor q.1 q.2 =
        some r₀.comment)) = true :=
      List.any_eq_true.mpr ⟨q, hq, decide_eq_true ((hsuppressor q hq).trans hfirst)⟩
    simp [hany]

end Marks

/-! ## 4. Queries to a text -/

/-- No range of a text is marked at first. -/
theorem used_of_mem_parse {content : String} {r : Suppressed} (hr : r ∈ (parse content).ranges) :
    r.used = false := by
  rcases (mem_parse_iff content r).mp hr with hrec | ⟨t, first, -, rfl⟩
  · cases hrec <;> rfl
  · rfl

section Parse

variable (content : String) (queries : List (String × Option Int))

/-- The marks of a text say which directives were the first one for some query. -/
theorem after_parse : (parse content).after queries =
    (parse content).remark fun r => decide (∃ q ∈ queries, (parse content).suppressor q.1 q.2 = some r.comment) := by
  rw [after_eq_remark (nodup_comments_parse content), remark, remark, Tracker.mk.injEq]
  refine List.map_congr_left fun r hr => ?_
  have hused : (r.used || queries.any fun q => decide ((parse content).suppressor q.1 q.2 = some r.comment)) =
      decide (∃ q ∈ queries, (parse content).suppressor q.1 q.2 = some r.comment) := by
    rw [used_of_mem_parse hr, Bool.false_or, Bool.eq_iff_iff, List.any_eq_true, decide_eq_true_iff]
    simp only [decide_eq_true_iff]
  rw [hused]

/-- The unused ranges are as they were read. -/
theorem unused_after_parse : ((parse content).after queries).unused = (parse content).ranges.filter fun r =>
    decide (∀ q ∈ queries, (parse content).suppressor q.1 q.2 ≠ some r.comment) := by
  rw [unused, after_parse, remark, List.filter_map]
  refine ((List.map_congr_left fun r hr => ?_).trans (List.map_id _)).trans (List.filter_congr fun r hr => ?_)
  · obtain ⟨hmem, hunused⟩ := List.mem_filter.mp hr
    have hmark : decide (∃ q ∈ queries, (parse content).suppressor q.1 q.2 = some r.comment) = r.used := by
      rw [used_of_mem_parse hmem]
      exact Bool.not_eq_true' _ |>.mp hunused
    rw [hmark]
    rfl
  · show (!decide (∃ q ∈ queries, (parse content).suppressor q.1 q.2 = some r.comment)) = _
    rw [← decide_not]
    simp only [not_exists, not_and, ne_eq]

/-- **Who is used.**  A query is answered by the ranges alone, whatever was asked before.  After some queries
those directives are marked that are the first one, in the order of the tracker, to cover one of them; so the
marks depend on what was asked and not on how often or in which order, and the unused ranges are there in
their order.  The marked ranges alone, with their marks or without, answer the same and are all used by it. -/
theorem marks_of_queries :
    let t : Tracker := parse content
    (t.ranges.map Suppressed.comment).Nodup ∧
    (∀ earlier rule line, ((t.after earlier).query rule line).1 = t.covers rule line) ∧
    (t.after queries = t.remark fun r => decide (∃ q ∈ queries, t.suppressor q.1 q.2 = some r.comment)) ∧
    (∀ queries', (∀ q, q ∈ queries' ↔ q ∈ queries) → t.after queries' = t.after queries) ∧
    (t.after queries).unused =
      (t.ranges.filter fun r => decide (∀ q ∈ queries, t.suppressor q.1 q.2 ≠ some r.comment)) ∧
    ∀ used ∈ [(t.after queries).inUse, (t.after queries).inUse.remark fun _ => false],
      (∀ earlier, ∀ q ∈ queries, ((used.after earlier).query q.1 q.2).1 = (t.query q.1 q.2).1) ∧
        (used.after queries).unused = [] := by
  intro t
  have hnodup := nodup_comments_parse content
  have hnew : ∀ r ∈ t.ranges, r.used = false := fun r => used_of_mem_parse
  refine ⟨hnodup, fun earlier rule line => ?_, after_parse content queries, fun queries' hsame => ?_,
    unused_after_parse content queries, fun used hused => ?_⟩
  · rw [query_fst, covers_after]
  · rw [after_parse, after_parse]
    simp only [hsame]
  · obtain ⟨marks, rfl⟩ : ∃ marks, used = (t.after queries).inUse.remark marks := by
      rcases List.mem_cons.mp hused with rfl | hused
      · refine ⟨Suppressed.used, ?_⟩
        rw [remark]
        exact congrArg Tracker.mk (List.map_id _).symm
      · exact ⟨_, List.mem_singleton.mp hused⟩
    exact inUse_suffices hnodup hnew marks

/-- A line inside a block: the directive on it is in the tracker before the block, and it alone is used, asked
once or twice. -/
theorem marks_of_overlapping_queries :
    let content := "<!-- lintloom-disable r -->\nBAD <!-- lintloom-disable-line r -->\n<!-- lintloom-enable r -->"
    (parse content).after [("r", some 2), ("r", some 2)] = (parse content).after [("r", some 2)] ∧
      ((parse content).after [("r", some 2)]).unused = [⟨"r", .block, 1, some (1, 3), false⟩] := by
  refine ⟨(marks_of_queries _ [("r", some 2)]).2.2.2.1 _ fun q => ?_, ?_⟩
  · simp
  · rw [parse, String.toList_ofList]
    decide +kernel

end Parse

end Tracker

end AgentLint
