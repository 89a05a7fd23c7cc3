import AgentLint.Proofs.Assoc
import AgentLint.Suppression.Tracker
import Mathlib.Data.List.Induction
import Mathlib.Data.List.Nodup

/-!
# What directives mean

`Tracker.parse` goes through a text once and keeps a table of the blocks that are open.  This module says
what comes of it without a table: which lines of the text carry which directive decides what is suppressed
(`query_parse_iff`), and a block runs from its opening to the first end after it, or to the last line.

The invariant speaks of the lines that were read so far, and the induction adds one line at the end.  At
every point the open blocks are the openings that nothing has followed (`Opened`), and the closed ranges
are those of the directives read (`Recorded`).
-/

namespace AgentLint

/-! ## 1. Directives by line -/

/-- The directive on a line of a text, lines counted from one. -/
def directiveOn (lines : List (List Char)) (n : Int) : Option Directive :=
  if n < 1 then none else lines[n.toNat - 1]?.bind Directive.onLine

/-- The last line of the block that starts at a line: that of the first end after it, or the last one. -/
def blockEnd (lines : List (List Char)) (target : String) (start : Nat) : Nat :=
  ((List.range' (start + 1) (lines.length - start)).find? fun i : Nat =>
    directiveOn lines i = some ⟨.enable, target⟩).getD lines.length

/-- A block: it is opened, and not opened again before it ends. -/
structure IsBlock (lines : List (List Char)) (target : String) (first last : Nat) : Prop where
  opens : directiveOn lines first = some ⟨.block, target⟩
  ends : last = blockEnd lines target first
  once : ∀ i : Nat, first < i → i ≤ last → directiveOn lines i ≠ some ⟨.block, target⟩

/-- Whether the directives of a text suppress a target at a line. -/
def SuppressedAt (lines : List (List Char)) (target : String) (line : Option Int) : Prop :=
  (∃ i, directiveOn lines i = some ⟨.file, target⟩) ∨
    ∃ n, line = some n ∧
      (directiveOn lines n = some ⟨.line, target⟩ ∨
        (n ≤ lines.length ∧ directiveOn lines (n - 1) = some ⟨.nextLine, target⟩) ∨
        ∃ first last : Nat, (first : Int) ≤ n ∧ IsBlock lines target first last ∧ n ≤ last)

section Lines

variable {lines : List (List Char)} {text : List Char} {d : Directive} {target : String}

theorem directiveOn_bounds {n : Int} (h : directiveOn lines n = some d) : 1 ≤ n ∧ n ≤ lines.length := by
  unfold directiveOn at h
  split at h
  · cases h
  · obtain ⟨line, hline, -⟩ := Option.bind_eq_some_iff.mp h
    obtain ⟨hlt, -⟩ := List.getElem?_eq_some_iff.mp hline
    omega

/-- One more line leaves the others as they are. -/
theorem directiveOn_append (lines : List (List Char)) (text : List Char) (n : Int) :
    directiveOn (lines ++ [text]) n =
      if n = lines.length + 1 then Directive.onLine text else directiveOn lines n := by
  unfold directiveOn
  by_cases hn : n < 1
  · rw [if_pos hn, if_pos hn, if_neg (by omega)]
  rw [if_neg hn, if_neg hn, List.getElem?_append]
  by_cases hlast : n = lines.length + 1
  · have hzero : n.toNat - 1 - lines.length = 0 := by omega
    rw [if_pos hlast, if_neg (by omega), hzero]
    rfl
  · rw [if_neg hlast]
    by_cases hlt : n.toNat - 1 < lines.length
    · rw [if_pos hlt]
    · rw [if_neg hlt, List.getElem?_eq_none (by simp; omega), List.getElem?_eq_none (by omega)]

theorem directiveOn_append_of_le {n : Int} (h : n ≤ lines.length) :
    directiveOn (lines ++ [text]) n = directiveOn lines n := by
  rw [directiveOn_append, if_neg (by omega)]

theorem directiveOn_append_last :
    directiveOn (lines ++ [text]) ((lines.length + 1 : Nat) : Int) = Directive.onLine text := by
  rw [directiveOn_append, if_pos (by omega)]

/-- A directive is on a line that was there, or on the last one. -/
theorem directiveOn_append_eq_some_iff {n : Nat} :
    directiveOn (lines ++ [text]) n = some d ↔
      directiveOn lines n = some d ∨ (n = lines.length + 1 ∧ Directive.onLine text = some d) := by
  by_cases hn : n = lines.length + 1
  · subst hn
    rw [directiveOn_append_last]
    refine ⟨fun h => .inr ⟨rfl, h⟩, fun h => ?_⟩
    rcases h with h | h
    · have := (directiveOn_bounds h).2
      omega
    · exact h.2
  · rw [directiveOn_append, if_neg (by omega)]
    exact ⟨.inl, fun h => h.resolve_right fun hlast => hn hlast.1⟩

/-! ## 2. Open and closed blocks -/

/-- A block is open: since its opening there was neither another one nor an end. -/
structure Opened (lines : List (List Char)) (target : String) (first : Nat) : Prop where
  opens : directiveOn lines first = some ⟨.block, target⟩
  since : ∀ i : Nat, first < i → directiveOn lines i ≠ some ⟨.block, target⟩ ∧
    directiveOn lines i ≠ some ⟨.enable, target⟩

/-- A block is closed: it was open when its end came. -/
structure Closed (lines : List (List Char)) (target : String) (first last : Nat) : Prop where
  opens : directiveOn lines first = some ⟨.block, target⟩
  ends : directiveOn lines last = some ⟨.enable, target⟩
  lt : first < last
  between : ∀ i : Nat, first < i → i < last → directiveOn lines i ≠ some ⟨.block, target⟩ ∧
    directiveOn lines i ≠ some ⟨.enable, target⟩

/-- A block that stays open when a line is added, or one that this line opens. -/
theorem opened_append_iff {first : Nat} :
    Opened (lines ++ [text]) target first ↔
      (Opened lines target first ∧ Directive.onLine text ≠ some ⟨.block, target⟩ ∧
        Directive.onLine text ≠ some ⟨.enable, target⟩) ∨
      (first = lines.length + 1 ∧ Directive.onLine text = some ⟨.block, target⟩) := by
  constructor
  · intro h
    rcases directiveOn_append_eq_some_iff.mp h.opens with hopens | hlast
    · have hlt := (directiveOn_bounds hopens).2
      have hend := h.since (lines.length + 1) (by omega)
      rw [directiveOn_append_last] at hend
      refine .inl ⟨⟨hopens, fun i hi => ?_⟩, hend⟩
      refine ⟨fun hb => (h.since i hi).1 ?_, fun he => (h.since i hi).2 ?_⟩
      · exact directiveOn_append_eq_some_iff.mpr (.inl hb)
      · exact directiveOn_append_eq_some_iff.mpr (.inl he)
    · exact .inr hlast
  · rintro (⟨h, hblock, henable⟩ | ⟨rfl, hblock⟩)
    · refine ⟨directiveOn_append_eq_some_iff.mpr (.inl h.opens), fun i hi => ⟨fun hb => ?_, fun he => ?_⟩⟩
      · rcases directiveOn_append_eq_some_iff.mp hb with hb | hb
        · exact (h.since i hi).1 hb
        · exact hblock hb.2
      · rcases directiveOn_append_eq_some_iff.mp he with he | he
        · exact (h.since i hi).2 he
        · exact henable he.2
    · refine ⟨directiveOn_append_eq_some_iff.mpr (.inr ⟨rfl, hblock⟩), fun i hi => ⟨fun hb => ?_, fun he => ?_⟩⟩
      · have := (directiveOn_bounds hb).2
        simp at this
        omega
      · have := (directiveOn_bounds he).2
        simp at this
        omega

/-- A block that was closed before a line is added, or an open one that this line closes. -/
theorem closed_append_iff {first last : Nat} :
    Closed (lines ++ [text]) target first last ↔
      Closed lines target first last ∨
      (last = lines.length + 1 ∧ Opened lines target first ∧
        Directive.onLine text = some ⟨.enable, target⟩) := by
  constructor
  · intro h
    have hbetween : ∀ i : Nat, first < i → i < last → directiveOn lines i ≠ some ⟨.block, target⟩ ∧
        directiveOn lines i ≠ some ⟨.enable, target⟩ := fun i hi hi' =>
      ⟨fun hb => (h.between i hi hi').1 (directiveOn_append_eq_some_iff.mpr (.inl hb)),
        fun he => (h.between i hi hi').2 (directiveOn_append_eq_some_iff.mpr (.inl he))⟩
    have hopens : directiveOn lines first = some ⟨.block, target⟩ := by
      refine (directiveOn_append_eq_some_iff.mp h.opens).resolve_right fun hlast => ?_
      have hle := (directiveOn_bounds h.ends).2
      have hlt := h.lt
      simp at hle
      omega
    rcases directiveOn_append_eq_some_iff.mp h.ends with hends | ⟨rfl, hends⟩
    · exact .inl ⟨hopens, hends, h.lt, hbetween⟩
    · refine .inr ⟨rfl, ⟨hopens, fun i hi => ?_⟩, hends⟩
      by_cases hlt : i < lines.length + 1
      · exact hbetween i hi hlt
      · refine ⟨fun hb => hlt ?_, fun he => hlt ?_⟩
        · have := (directiveOn_bounds hb).2
          omega
        · have := (directiveOn_bounds he).2
          omega
  · rintro (h | ⟨rfl, h, hends⟩)
    · have hle := (directiveOn_bounds h.ends).2
      refine ⟨directiveOn_append_eq_some_iff.mpr (.inl h.opens),
        directiveOn_append_eq_some_iff.mpr (.inl h.ends), h.lt, fun i hi hi' => ?_⟩
      rw [directiveOn_append_of_le (by omega)]
      exact h.between i hi hi'
    · have hle := (directiveOn_bounds h.opens).2
      refine ⟨directiveOn_append_eq_some_iff.mpr (.inl h.opens),
        directiveOn_append_eq_some_iff.mpr (.inr ⟨rfl, hends⟩), by omega, fun i hi hi' => ?_⟩
      rw [directiveOn_append_of_le (by omega)]
      exact h.since i hi

/-- Where a block ends: at the first end after its opening, or at the last line. -/
theorem blockEnd_eq_iff {first last : Nat} (hfirst : first ≤ lines.length) :
    last = blockEnd lines target first ↔
      (first < last ∧ directiveOn lines last = some ⟨.enable, target⟩ ∧
        ∀ i : Nat, first < i → i < last → directiveOn lines i ≠ some ⟨.enable, target⟩) ∨
      (last = lines.length ∧ ∀ i : Nat, first < i → directiveOn lines i ≠ some ⟨.enable, target⟩) := by
  unfold blockEnd
  cases hfind : (List.range' (first + 1) (lines.length - first)).find? fun i : Nat =>
      directiveOn lines i = some ⟨.enable, target⟩ with
  | none =>
    have hnone : ∀ i : Nat, first < i → directiveOn lines i ≠ some ⟨.enable, target⟩ := by
      intro i hi he
      have hle := (directiveOn_bounds he).2
      have hno := List.find?_range'_eq_none.mp hfind i hi (by omega)
      simp [he] at hno
    rw [Option.getD_none]
    exact ⟨fun h => .inr ⟨h, hnone⟩, fun h => h.elim (fun h => absurd h.2.1 (hnone last h.1)) And.left⟩
  | some e =>
    obtain ⟨he, hmem, hbefore⟩ := List.find?_range'_eq_some.mp hfind
    have hends : directiveOn lines e = some ⟨.enable, target⟩ := of_decide_eq_true he
    have hlt : first < e := (List.mem_range'_1.mp hmem).1
    have hfirstEnd : ∀ i : Nat, first < i → i < e → directiveOn lines i ≠ some ⟨.enable, target⟩ := by
      intro i hi hi' henable
      have hno := hbefore i hi hi'
      simp [henable] at hno
    rw [Option.getD_some]
    constructor
    · rintro rfl
      exact .inl ⟨hlt, hends, hfirstEnd⟩
    · rintro (⟨hlt', hends', hbetween⟩ | ⟨-, hnone⟩)
      · rcases Nat.lt_trichotomy last e with h | h | h
        · exact absurd hends' (hfirstEnd last hlt' h)
        · exact h
        · exact absurd hends (hbetween e hlt h)
      · exact absurd hends (hnone e hlt)

/-- **The blocks of a text** are those that were closed, and those still open at the end. -/
theorem isBlock_iff {first last : Nat} :
    IsBlock lines target first last ↔
      Closed lines target first last ∨ (Opened lines target first ∧ last = lines.length) := by
  constructor
  · rintro ⟨hopens, hends, honce⟩
    have hfirst := (directiveOn_bounds hopens).2
    rcases (blockEnd_eq_iff (by omega)).mp hends with ⟨hlt, hend, hbetween⟩ | ⟨hlast, hnone⟩
    · exact .inl ⟨hopens, hend, hlt, fun i hi hi' => ⟨honce i hi (by omega), hbetween i hi hi'⟩⟩
    · refine .inr ⟨⟨hopens, fun i hi => ⟨fun hb => ?_, hnone i hi⟩⟩, hlast⟩
      have hle := (directiveOn_bounds hb).2
      exact honce i hi (by omega) hb
  · rintro (h | ⟨h, rfl⟩)
    · have hfirst := (directiveOn_bounds h.opens).2
      refine ⟨h.opens, (blockEnd_eq_iff (by omega)).mpr (.inl ⟨h.lt, h.ends, fun i hi hi' =>
        (h.between i hi hi').2⟩), fun i hi hi' hb => ?_⟩
      rcases Nat.lt_or_eq_of_le hi' with hlt | rfl
      · exact (h.between i hi hlt).1 hb
      · rw [h.ends] at hb
        cases hb
    · have hfirst := (directiveOn_bounds h.opens).2
      exact ⟨h.opens, (blockEnd_eq_iff (by omega)).mpr (.inr ⟨rfl, fun i hi => (h.since i hi).2⟩),
        fun i hi _ => (h.since i hi).1⟩

end Lines

namespace Tracker

/-! ## 3. The scan -/

section Scan

variable {total : Nat} {lines : List (List Char)} {text : List Char} {target : String}

/-- The range of a directive that was read, in a text of `total` lines. -/
inductive Recorded (total : Nat) (lines : List (List Char)) : Suppressed → Prop where
  /-- The whole file. -/
  | file {target : String} {i : Nat} (on : directiveOn lines i = some ⟨.file, target⟩) :
    Recorded total lines ⟨target, .file, i, none, false⟩
  /-- The line after the directive, if there is one. -/
  | nextLine {target : String} {i : Nat} (on : directiveOn lines i = some ⟨.nextLine, target⟩)
    (lt : i < total) : Recorded total lines ⟨target, .nextLine, i, some (i + 1, i + 1), false⟩
  /-- The line of the directive. -/
  | line {target : String} {i : Nat} (on : directiveOn lines i = some ⟨.line, target⟩) :
    Recorded total lines ⟨target, .line, i, some (i, i), false⟩
  /-- A closed block. -/
  | block {target : String} {first last : Nat} (closed : Closed lines target first last) :
    Recorded total lines ⟨target, .block, first, some (first, last), false⟩

/-- The lines of a block that a range comes from. -/
def blockOf (r : Suppressed) : Option (String × Nat × Nat) :=
  if r.scope = .block then r.span.map fun s => (r.target, s.1, s.2) else none

/-- What a scan knows after some lines. -/
structure Scanned (total : Nat) (lines : List (List Char)) (s : Scan) : Prop where
  opened : ∀ target first, Assoc.get? target s.opened = some first ↔ Opened lines target first
  keys : (Assoc.keys s.opened).Nodup
  closed : ∀ r, r ∈ s.closed ↔ Recorded total lines r
  blocks : (s.closed.filterMap blockOf).Nodup

/-- What one more line adds to the ranges. -/
theorem recorded_append_iff {r : Suppressed} :
    Recorded total (lines ++ [text]) r ↔ Recorded total lines r ∨
      (∃ t, Directive.onLine text = some ⟨.file, t⟩ ∧ r = ⟨t, .file, lines.length + 1, none, false⟩) ∨
      (∃ t, Directive.onLine text = some ⟨.nextLine, t⟩ ∧ lines.length + 1 < total ∧
        r = ⟨t, .nextLine, lines.length + 1, some (lines.length + 2, lines.length + 2), false⟩) ∨
      (∃ t, Directive.onLine text = some ⟨.line, t⟩ ∧
        r = ⟨t, .line, lines.length + 1, some (lines.length + 1, lines.length + 1), false⟩) ∨
      (∃ t first, Directive.onLine text = some ⟨.enable, t⟩ ∧ Opened lines t first ∧
        r = ⟨t, .block, first, some (first, lines.length + 1), false⟩) := by
  constructor
  · intro h
    cases h with
    | file on =>
      rcases directiveOn_append_eq_some_iff.mp on with hon | ⟨rfl, hon⟩
      · exact .inl (.file hon)
      · exact .inr (.inl ⟨_, hon, rfl⟩)
    | nextLine on lt =>
      rcases directiveOn_append_eq_some_iff.mp on with hon | ⟨rfl, hon⟩
      · exact .inl (.nextLine hon lt)
      · exact .inr (.inr (.inl ⟨_, hon, lt, rfl⟩))
    | line on =>
      rcases directiveOn_append_eq_some_iff.mp on with hon | ⟨rfl, hon⟩
      · exact .inl (.line hon)
      · exact .inr (.inr (.inr (.inl ⟨_, hon, rfl⟩)))
    | block closed =>
      rcases closed_append_iff.mp closed with closed | ⟨rfl, hopen, on⟩
      · exact .inl (.block closed)
      · exact .inr (.inr (.inr (.inr ⟨_, _, on, hopen, rfl⟩)))
  · rintro (h | ⟨t, on, rfl⟩ | ⟨t, on, lt, rfl⟩ | ⟨t, on, rfl⟩ | ⟨t, first, on, hopen, rfl⟩)
    · cases h with
      | file on => exact .file (directiveOn_append_eq_some_iff.mpr (.inl on))
      | nextLine on lt => exact .nextLine (directiveOn_append_eq_some_iff.mpr (.inl on)) lt
      | line on => exact .line (directiveOn_append_eq_some_iff.mpr (.inl on))
      | block closed => exact .block (closed_append_iff.mpr (.inl closed))
    · exact .file (directiveOn_append_eq_some_iff.mpr (.inr ⟨rfl, on⟩))
    · exact .nextLine (directiveOn_append_eq_some_iff.mpr (.inr ⟨rfl, on⟩)) lt
    · exact .line (directiveOn_append_eq_some_iff.mpr (.inr ⟨rfl, on⟩))
    · exact .block (closed_append_iff.mpr (.inr ⟨rfl, hopen, on⟩))

/-- The recorded blocks lie in the lines that were read. -/
theorem closed_of_mem_blocks {s : Scan} (h : Scanned total lines s) {first last : Nat}
    (hmem : (target, first, last) ∈ s.closed.filterMap blockOf) : Closed lines target first last := by
  obtain ⟨r, hr, hblock⟩ := List.mem_filterMap.mp hmem
  cases (h.closed r).mp hr with
  | block closed =>
    cases hblock
    exact closed
  | file on => cases hblock
  | nextLine on lt => cases hblock
  | line on => cases hblock

/-- A range that is no block changes no block. -/
theorem filterMap_append_of_ne_block (rs : List Suppressed) {r : Suppressed} (h : r.scope ≠ .block) :
    (rs ++ [r]).filterMap blockOf = rs.filterMap blockOf := by
  have hnone : blockOf r = none := if_neg h
  simp [List.filterMap_append, hnone]

/-- The effect of one line, if it carries a directive. -/
def stepLine (total : Nat) (s : Scan) (n : Nat) (text : List Char) : Scan :=
  match Directive.onLine text with
  | none => s
  | some d => step total s n d

/-- A line that neither opens a block nor closes one leaves the open ones. -/
theorem opened_append_of_ne {first : Nat} (hb : ∀ t, Directive.onLine text ≠ some ⟨.block, t⟩)
    (he : ∀ t, Directive.onLine text ≠ some ⟨.enable, t⟩) :
    Opened (lines ++ [text]) target first ↔ Opened lines target first := by
  rw [opened_append_iff]
  simp [hb, he]

namespace Scanned

variable {s : Scan}

/-- A line that adds no range and leaves the open blocks changes nothing. -/
theorem same (h : Scanned total lines s)
    (hopened : ∀ t first, Opened (lines ++ [text]) t first ↔ Opened lines t first)
    (hclosed : ∀ r, Recorded total (lines ++ [text]) r ↔ Recorded total lines r) :
    Scanned total (lines ++ [text]) s :=
  ⟨fun t first => (h.opened t first).trans (hopened t first).symm, h.keys,
    fun r => (h.closed r).trans (hclosed r).symm, h.blocks⟩

/-- A range that is no block comes to those recorded. -/
theorem add (h : Scanned total lines s) {new : Suppressed} (hscope : new.scope ≠ .block)
    (hopened : ∀ t first, Opened (lines ++ [text]) t first ↔ Opened lines t first)
    (hclosed : ∀ r, Recorded total (lines ++ [text]) r ↔ Recorded total lines r ∨ r = new) :
    Scanned total (lines ++ [text]) { s with closed := s.closed ++ [new] } := by
  refine ⟨fun t first => (h.opened t first).trans (hopened t first).symm, h.keys, fun r => ?_, ?_⟩
  · rw [hclosed, ← h.closed, List.mem_append, List.mem_singleton]
  · rw [filterMap_append_of_ne_block _ hscope]
    exact h.blocks

/-- A block is opened, or opened again. -/
theorem openBlock (h : Scanned total lines s) (hd : Directive.onLine text = some ⟨.block, target⟩) :
    Scanned total (lines ++ [text])
      { s with opened := Assoc.put target (lines.length + 1) s.opened } := by
  refine ⟨fun t first => ?_, Assoc.nodup_keys_put h.keys target _, fun r => ?_, h.blocks⟩
  · rw [Assoc.get?_put, opened_append_iff, hd, ← h.opened]
    by_cases ht : target = t
    · subst ht
      simp [eq_comm]
    · simp [ht]
  · rw [recorded_append_iff, hd, ← h.closed]
    simp

/-- The end of a block that nothing opened changes nothing. -/
theorem closeNothing (h : Scanned total lines s)
    (hd : Directive.onLine text = some ⟨.enable, target⟩)
    (hget : Assoc.get? target s.opened = none) : Scanned total (lines ++ [text]) s := by
  have hnone : ∀ first, ¬ Opened lines target first := by
    intro first ho
    rw [← h.opened, hget] at ho
    cases ho
  refine h.same (fun t first => ?_) fun r => ?_
  · rw [opened_append_iff, hd]
    by_cases ht : target = t
    · subst ht
      simp [hnone]
    · simp [ht]
  · rw [recorded_append_iff, hd]
    simp [hnone]

/-- The block that ends on a line was not recorded before. -/
theorem nodup_blocks_append (h : Scanned total lines s) {new : Suppressed} {first : Nat}
    (hnew : blockOf new = some (target, first, lines.length + 1)) :
    ((s.closed ++ [new]).filterMap blockOf).Nodup := by
  rw [List.filterMap_append, List.filterMap_cons_some hnew, List.filterMap_nil, List.nodup_append]
  refine ⟨h.blocks, List.nodup_singleton _, ?_⟩
  rintro b hb b' hb' rfl
  rw [List.mem_singleton.mp hb'] at hb
  have hle := (directiveOn_bounds (closed_of_mem_blocks h hb).ends).2
  omega

/-- The end of an open block records it. -/
theorem closeBlock (h : Scanned total lines s) (hd : Directive.onLine text = some ⟨.enable, target⟩)
    {first : Nat} (hget : Assoc.get? target s.opened = some first) :
    Scanned total (lines ++ [text])
      ⟨s.closed ++ [⟨target, .block, first, some (first, lines.length + 1), false⟩],
        Assoc.erase target s.opened⟩ := by
  have hopen : ∀ first', Opened lines target first' ↔ first' = first := by
    intro first'
    rw [← h.opened, hget, Option.some.injEq, eq_comm]
  refine ⟨fun t first' => ?_, (List.filter_sublist.map _).nodup h.keys, fun r => ?_,
    h.nodup_blocks_append rfl⟩
  · rw [opened_append_iff, hd, Assoc.get?_erase]
    by_cases ht : target = t
    · subst ht
      simp
    · simp [ht, h.opened]
  · rw [recorded_append_iff, hd, List.mem_append, ← h.closed]
    simp [hopen]

/-- **One more line** keeps what the scan knows. -/
theorem append (h : Scanned total lines s) (text : List Char) :
    Scanned total (lines ++ [text]) (stepLine total s (lines.length + 1) text) := by
  unfold stepLine
  cases hd : Directive.onLine text with
  | none =>
    refine h.same (fun t first => opened_append_of_ne (by simp [hd]) (by simp [hd])) fun r => ?_
    simp [recorded_append_iff, hd]
  | some d =>
    obtain ⟨verb, t⟩ := d
    cases verb with
    | file =>
      refine h.add nofun (fun t' first => opened_append_of_ne (by simp [hd]) (by simp [hd])) fun r => ?_
      simp [recorded_append_iff, hd]
    | line =>
      refine h.add nofun (fun t' first => opened_append_of_ne (by simp [hd]) (by simp [hd])) fun r => ?_
      simp [recorded_append_iff, hd]
    | nextLine =>
      have hopened : ∀ t' first, Opened (lines ++ [text]) t' first ↔ Opened lines t' first :=
        fun t' first => opened_append_of_ne (by simp [hd]) (by simp [hd])
      by_cases hlt : lines.length + 1 < total
      · simp only [step, if_pos hlt]
        refine h.add nofun hopened fun r => ?_
        simp [recorded_append_iff, hd, hlt]
      · simp only [step, if_neg hlt]
        refine h.same hopened fun r => ?_
        simp [recorded_append_iff, hd, hlt]
    | block => exact h.openBlock hd
    | enable =>
      cases hget : Assoc.get? t s.opened with
      | none =>
        simp only [step, hget]
        exact h.closeNothing hd hget
      | some first =>
        simp only [step, hget]
        exact h.closeBlock hd hget

end Scanned

/-- The last line is scanned last. -/
theorem scan_append (total : Nat) (lines : List (List Char)) (text : List Char) :
    scan total (Text.numberFrom 1 (lines ++ [text])) =
      stepLine total (scan total (Text.numberFrom 1 lines)) (lines.length + 1) text := by
  simp only [scan, Text.numberFrom, List.zipIdx_append, List.map_append, List.foldl_append]
  simp only [List.zipIdx_singleton, List.map_cons, List.map_nil, List.foldl_cons, List.foldl_nil]
  rw [Nat.add_comm lines.length 1]
  rfl

/-- **Every text** is scanned like this, by induction over its lines from the top. -/
theorem scanned_scan (total : Nat) (lines : List (List Char)) :
    Scanned total lines (scan total (Text.numberFrom 1 lines)) := by
  induction lines using List.reverseRecOn with
  | nil =>
    refine ⟨fun t first => ?_, List.nodup_nil, fun r => ?_, List.nodup_nil⟩
    · refine ⟨fun h => (by cases h), fun h => ?_⟩
      have := directiveOn_bounds h.opens
      simp at this
      omega
    · refine ⟨fun h => (by cases h), fun h => ?_⟩
      have hnone : ∀ (n : Int) d, directiveOn [] n ≠ some d := by
        intro n d hd
        have := directiveOn_bounds hd
        simp at this
        omega
      cases h with
      | file on => exact absurd on (hnone _ _)
      | nextLine on lt => exact absurd on (hnone _ _)
      | line on => exact absurd on (hnone _ _)
      | block closed => exact absurd closed.opens (hnone _ _)
  | append_singleton lines text ih =>
    rw [scan_append]
    exact ih.append text

end Scan

/-! ## 4. The ranges of a text -/

section Parse

variable (content : String)

/-- A range of a parsed text is that of a directive read, or of a block that nothing ended. -/
theorem mem_parse_iff (r : Suppressed) :
    r ∈ (parse content).ranges ↔
      Recorded (Text.splitLines content.toList).length (Text.splitLines content.toList) r ∨
      ∃ target first, Opened (Text.splitLines content.toList) target first ∧
        r = ⟨target, .block, first, some (first, (Text.splitLines content.toList).length), false⟩ := by
  have h := scanned_scan (Text.splitLines content.toList).length (Text.splitLines content.toList)
  unfold parse
  rw [List.mem_append, h.closed, List.mem_map]
  refine or_congr_right ⟨?_, ?_⟩
  · rintro ⟨⟨target, first⟩, hmem, rfl⟩
    exact ⟨target, first, (h.opened target first).mp (Assoc.get?_of_mem h.keys hmem), rfl⟩
  · rintro ⟨target, first, hopen, rfl⟩
    exact ⟨(target, first), Assoc.mem_of_get? ((h.opened target first).mpr hopen), rfl⟩

/-- The blocks of a text are the ranges that come from one. -/
theorem mem_blocks_parse_iff (target : String) (first last : Nat) :
    (target, first, last) ∈ (parse content).ranges.filterMap blockOf ↔
      IsBlock (Text.splitLines content.toList) target first last := by
  rw [isBlock_iff, List.mem_filterMap]
  constructor
  · rintro ⟨r, hr, hblock⟩
    rcases (mem_parse_iff content r).mp hr with hrec | ⟨t, start, hopen, rfl⟩
    · cases hrec with
      | block closed =>
        cases hblock
        exact .inl closed
      | file on => cases hblock
      | nextLine on lt => cases hblock
      | line on => cases hblock
    · cases hblock
      exact .inr ⟨hopen, rfl⟩
  · rintro (hclosed | ⟨hopen, rfl⟩)
    · exact ⟨_, (mem_parse_iff content _).mpr (.inl (.block hclosed)), rfl⟩
    · exact ⟨_, (mem_parse_iff content _).mpr (.inr ⟨target, first, hopen, rfl⟩), rfl⟩

/-- No block is recorded twice: one that is still open at the end was not closed. -/
theorem nodup_blocks_parse : ((parse content).ranges.filterMap blockOf).Nodup := by
  have h := scanned_scan (Text.splitLines content.toList).length (Text.splitLines content.toList)
  unfold parse
  rw [List.filterMap_append, List.nodup_append, List.filterMap_map]
  refine ⟨h.blocks, ?_, ?_⟩
  · refine List.Nodup.filterMap ?_ (List.Nodup.of_map _ h.keys)
    rintro ⟨t, first⟩ ⟨t', first'⟩ b hb hb'
    cases hb
    cases hb'
    rfl
  · rintro ⟨t, first, last⟩ hclosed _ hopen rfl
    obtain ⟨⟨t', first'⟩, hmem, hblock⟩ := List.mem_filterMap.mp hopen
    cases hblock
    have hclosed := closed_of_mem_blocks h hclosed
    have hopen := (h.opened _ _).mp (Assoc.get?_of_mem h.keys hmem)
    exact (hopen.since _ hclosed.lt).2 hclosed.ends

/-- Ranges of lines lie in the text and run downwards. -/
theorem span_of_mem_parse {r : Suppressed} (hr : r ∈ (parse content).ranges) (hscope : r.scope ≠ .file) :
    ∃ first last, r.span = some (first, last) ∧ 1 ≤ first ∧ first ≤ last ∧
      last ≤ (Text.splitLines content.toList).length := by
  rcases (mem_parse_iff content r).mp hr with hrec | ⟨t, first, hopen, rfl⟩
  · cases hrec with
    | file on => exact absurd rfl hscope
    | nextLine on lt => exact ⟨_, _, rfl, by omega, Nat.le_refl _, lt⟩
    | line on =>
      have := directiveOn_bounds on
      exact ⟨_, _, rfl, by omega, Nat.le_refl _, by omega⟩
    | block closed =>
      have hopens := directiveOn_bounds closed.opens
      have hends := directiveOn_bounds closed.ends
      have := closed.lt
      exact ⟨_, _, rfl, by omega, by omega, by omega⟩
  · have := directiveOn_bounds hopen.opens
    exact ⟨_, _, rfl, by omega, by omega, Nat.le_refl _⟩

/-- A range covers a rule if it is about the rule or about all of them, and the line is in it. -/
theorem covers_iff (r : Suppressed) (rule : String) (line : Option Int) :
    r.covers rule line = true ↔ r.target ∈ [rule, Directive.allRules] ∧
      ∀ first last, r.span = some (first, last) → ∃ n, line = some n ∧ (first : Int) ≤ n ∧ n ≤ last := by
  unfold Suppressed.covers
  rcases hspan : r.span with _ | ⟨first, last⟩
  · simp
  · cases line <;> simp

/-- A range holds the lines on which the directives suppress its target, and each of these has one. -/
theorem exists_range_iff (target : String) (line : Option Int) :
    (∃ r ∈ (parse content).ranges, r.target = target ∧ ∀ first last, r.span = some (first, last) →
      ∃ n, line = some n ∧ (first : Int) ≤ n ∧ n ≤ last) ↔
      SuppressedAt (Text.splitLines content.toList) target line := by
  constructor
  · rintro ⟨r, hr, rfl, hline⟩
    rcases (mem_parse_iff content r).mp hr with hrec | ⟨t, first, hopen, rfl⟩
    · cases hrec with
      | file on => exact .inl ⟨_, on⟩
      | nextLine on lt =>
        obtain ⟨n, rfl, hfirst, hlast⟩ := hline _ _ rfl
        obtain rfl : n = ((_ : Nat) : Int) + 1 := Int.le_antisymm hlast hfirst
        exact .inr ⟨_, rfl, .inr (.inl ⟨by omega, by simpa using on⟩)⟩
      | line on =>
        obtain ⟨n, rfl, hfirst, hlast⟩ := hline _ _ rfl
        obtain rfl : n = _ := Int.le_antisymm hlast hfirst
        exact .inr ⟨_, rfl, .inl on⟩
      | block closed =>
        obtain ⟨n, rfl, hfirst, hlast⟩ := hline _ _ rfl
        exact .inr ⟨n, rfl, .inr (.inr ⟨_, _, hfirst, isBlock_iff.mpr (.inl closed), hlast⟩)⟩
    · obtain ⟨n, rfl, hfirst, hlast⟩ := hline _ _ rfl
      exact .inr ⟨n, rfl, .inr (.inr ⟨_, _, hfirst, isBlock_iff.mpr (.inr ⟨hopen, rfl⟩), hlast⟩)⟩
  · rintro (⟨i, on⟩ | ⟨n, rfl, on | ⟨hle, on⟩ | ⟨first, last, hfirst, hblock, hlast⟩⟩)
    · have hi := directiveOn_bounds on
      obtain ⟨i, rfl⟩ := Int.eq_ofNat_of_zero_le (show 0 ≤ i by omega)
      exact ⟨_, (mem_parse_iff content _).mpr (.inl (.file on)), rfl, nofun⟩
    · have hi := directiveOn_bounds on
      obtain ⟨i, rfl⟩ := Int.eq_ofNat_of_zero_le (show 0 ≤ n by omega)
      refine ⟨_, (mem_parse_iff content _).mpr (.inl (.line on)), rfl, ?_⟩
      rintro _ _ ⟨⟩
      exact ⟨_, rfl, Int.le_refl _, Int.le_refl _⟩
    · have hi := directiveOn_bounds on
      obtain ⟨i, hi'⟩ := Int.eq_ofNat_of_zero_le (show 0 ≤ n - 1 by omega)
      rw [hi'] at on
      refine ⟨_, (mem_parse_iff content _).mpr (.inl (.nextLine on (by omega))), rfl, ?_⟩
      rintro _ _ ⟨⟩
      exact ⟨n, rfl, by omega, by omega⟩
    · obtain ⟨r, hr, hblock⟩ := List.mem_filterMap.mp ((mem_blocks_parse_iff content _ _ _).mpr hblock)
      refine ⟨r, hr, ?_⟩
      unfold blockOf at hblock
      split at hblock
      · obtain ⟨⟨s, e⟩, hspan, heq⟩ := Option.map_eq_some_iff.mp hblock
        cases heq
        refine ⟨rfl, fun s' e' h => ?_⟩
        rw [hspan] at h
        cases h
        exact ⟨n, rfl, hfirst, hlast⟩
      · cases hblock

/-- What the ranges of a text cover is what its directives suppress. -/
theorem covers_parse_iff (rule : String) (line : Option Int) :
    (parse content).covers rule line = true ↔
      ∃ t ∈ [rule, Directive.allRules], SuppressedAt (Text.splitLines content.toList) t line := by
  unfold covers
  rw [List.any_eq_true]
  constructor
  · rintro ⟨r, hr, hcovers⟩
    obtain ⟨htarget, hline⟩ := (covers_iff r rule line).mp hcovers
    exact ⟨r.target, htarget, (exists_range_iff content r.target line).mp ⟨r, hr, rfl, hline⟩⟩
  · rintro ⟨t, ht, hsup⟩
    obtain ⟨r, hr, rfl, hline⟩ := (exists_range_iff content t line).mpr hsup
    exact ⟨r, hr, (covers_iff r rule line).mpr ⟨ht, hline⟩⟩

/-- The tracker after some queries. -/
def after (t : Tracker) (queries : List (String × Option Int)) : Tracker :=
  queries.foldl (fun t q => (t.query q.1 q.2).2) t

/-- No query changes what is covered. -/
theorem covers_after (t : Tracker) (queries : List (String × Option Int)) :
    (t.after queries).covers = t.covers := by
  induction queries generalizing t with
  | nil => rfl
  | cons q queries ih =>
    show (after (t.query q.1 q.2).2 queries).covers = t.covers
    rw [ih, covers_query]

/-- **The reading of directives.**  After any queries, the next one finds a line suppressed exactly if
some directive says so.  The ranges of lines lie in the text, and the blocks among them are the blocks of
the text, each recorded once. -/
theorem query_parse_iff :
    (∀ queries rule line, (((parse content).after queries).query rule line).1 = true ↔
      ∃ t ∈ [rule, Directive.allRules], SuppressedAt (Text.splitLines content.toList) t line) ∧
    (∀ r ∈ (parse content).ranges, r.scope ≠ .file → ∃ first last, r.span = some (first, last) ∧
      1 ≤ first ∧ first ≤ last ∧ last ≤ (Text.splitLines content.toList).length) ∧
    ((parse content).ranges.filterMap blockOf).Nodup ∧
    ∀ target first last, (target, first, last) ∈ (parse content).ranges.filterMap blockOf ↔
      IsBlock (Text.splitLines content.toList) target first last := by
  refine ⟨fun queries rule line => ?_, fun r hr hscope => span_of_mem_parse content hr hscope,
    nodup_blocks_parse content, mem_blocks_parse_iff content⟩
  rw [query_fst, covers_after, covers_parse_iff]

example : (parse "<!-- lintloom-disable a -->\n<!-- lintloom-disable a -->\n").ranges =
    [⟨"a", .block, 2, some (2, 3), false⟩] := by
  rw [parse, String.toList_ofList]
  decide +kernel

end Parse

end Tracker

end AgentLint
