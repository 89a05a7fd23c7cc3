import AgentLint.Markdown.Frontmatter
import AgentLint.Proofs.Text.Lines
import Mathlib.Data.List.TakeWhile

/-!
# Where a header ends

`Headed` says which lines are the header of a text: the first line is a rule, and the closing line is the first rule
after it, or rather the first one after the first so many lines of the header.  A rule is three hyphens with spaces
and tabs after them; the carriage return before a line feed is no part of it.

With nothing skipped this is what a header is meant to be.  The search takes the second line for a line of the header
without a look at it (`block?_eq_some_iff`), so a header that is empty, with the two rules one below the other, is
not found, or is closed by a later rule (`read_cases`).  All other texts are cut where they are meant to be.
-/

namespace AgentLint.Frontmatter

open Text

/-! ## 1. Rules -/

/-- Three hyphens, and spaces and tabs after them. -/
def IsRule (line : List Char) : Prop :=
  ∃ margin, (∀ c ∈ margin, c = ' ' ∨ c = '\t') ∧ line = "---".toList ++ margin

/-- A rule with what may stand between it and the line feed. -/
def IsEndedRule (line : List Char) : Prop := ∃ rule, IsRule rule ∧ (line = rule ∨ line = rule ++ ['\r'])

variable {line : List Char}

theorem isMargin_iff {c : Char} : isMargin c = true ↔ c = ' ' ∨ c = '\t' := by
  simp [isMargin]

/-- After three hyphens and margins stands what no margin begins. -/
theorem afterHyphens?_eq_some_iff {after : List Char} (hafter : ∀ c, after.head? = some c → isMargin c = false) :
    afterHyphens? line = some after ↔ ∃ rule, IsRule rule ∧ line = rule ++ after := by
  constructor
  · intro h
    unfold afterHyphens? at h
    split at h
    · rename_i rest
      cases h
      refine ⟨"---".toList ++ rest.takeWhile isMargin, ⟨_, fun c hc => ?_, rfl⟩, ?_⟩
      · exact isMargin_iff.mp (List.mem_takeWhile_imp hc)
      · rw [List.append_assoc, List.takeWhile_append_dropWhile]
        rfl
    · cases h
  · rintro ⟨rule, ⟨margin, hmargin, rfl⟩, rfl⟩
    have hmargins : ∀ c ∈ margin, isMargin c = true := fun c hc => isMargin_iff.mpr (hmargin c hc)
    have hdrop : after.dropWhile isMargin = after := by
      cases after with
      | nil => rfl
      | cons c after => rw [List.dropWhile_cons_of_neg (by simp [hafter c rfl])]
    show some ((margin ++ after).dropWhile isMargin) = some after
    rw [List.dropWhile_append_of_pos hmargins, hdrop]

theorem isLastFence_iff : isLastFence line = true ↔ IsRule line := by
  rw [isLastFence, decide_eq_true_iff, afterHyphens?_eq_some_iff (by simp)]
  simp

theorem isFence_iff : isFence line = true ↔ IsEndedRule line := by
  have hcases : isFence line = true ↔ afterHyphens? line = some [] ∨ afterHyphens? line = some ['\r'] := by
    unfold isFence
    split <;> simp_all
  rw [hcases, afterHyphens?_eq_some_iff (by simp), afterHyphens?_eq_some_iff (by simp [isMargin])]
  simp only [IsEndedRule, List.append_nil, and_or_left, exists_or]

/-! ## 2. The header of a text -/

/-- A text cut into lines around its header. -/
structure Parts where
  /-- The first line. -/
  opening : List Char
  /-- The lines of the header. -/
  inside : List (List Char)
  /-- The line that closes it. -/
  closing : List Char
  /-- The lines after it. -/
  rest : List (List Char)

/-- A line closes a header before the rest of the text.  Only a line that is not the last one has an end. -/
def Closes (closing : List Char) : List (List Char) → Prop
  | [] => IsRule closing
  | _ :: _ => IsEndedRule closing

/-- The parts are those of a text, and its closing line is the first one after `skipped` lines of the header. -/
structure Headed (skipped : Nat) (content : List Char) (p : Parts) : Prop where
  /-- The parts are all lines of the text. -/
  lines : splitLines content = p.opening :: (p.inside ++ p.closing :: p.rest)
  /-- The first line is a rule. -/
  opens : IsEndedRule p.opening
  /-- So is the closing line. -/
  closes : Closes p.closing p.rest
  /-- The lines that are skipped are there. -/
  skips : skipped ≤ p.inside.length
  /-- The others are no rules. -/
  first : ∀ l ∈ p.inside.drop skipped, ¬ IsEndedRule l

namespace Parts

/-- The text between the first and the closing line. -/
def between (p : Parts) : List Char := p.inside.flatMap (· ++ ['\n'])

/-- The text after the closing line. -/
def body (p : Parts) : List Char := joinLines p.rest

/-- The header and the rest, where there is something after the closing line. -/
def block (p : Parts) : Block := ⟨p.inside, if p.rest = [] then none else some p.rest⟩

end Parts

/-! ## 3. The search -/

section Search

variable {seen inside rest ls : List (List Char)} {closing : List Char} {b : Block} {content : List Char}

/-- The search stops at the first line that closes a header. -/
theorem close?_of_closes (hinside : ∀ l ∈ inside, ¬ IsEndedRule l) (hcloses : Closes closing rest) :
    close? seen (inside ++ closing :: rest) =
      some ⟨seen.reverse ++ inside, if rest = [] then none else some rest⟩ := by
  induction inside generalizing seen with
  | nil =>
    cases rest with
    | nil =>
      have hlast : isLastFence closing = true := isLastFence_iff.mpr hcloses
      simp [close?, hlast]
    | cons next rest =>
      have hfence : isFence closing = true := isFence_iff.mpr hcloses
      simp [close?, hfence]
  | cons line inside ih =>
    obtain ⟨hline, hinside⟩ := List.forall_mem_cons.mp hinside
    have hfence : isFence line = false := Bool.eq_false_iff.mpr (mt isFence_iff.mp hline)
    have hstep : close? seen (line :: (inside ++ closing :: rest)) =
        close? (line :: seen) (inside ++ closing :: rest) := by
      rw [close?, if_neg (by simp [hfence])]
      simp
    rw [List.cons_append, hstep, ih hinside, List.reverse_cons, List.append_assoc]
    rfl

/-- It stops nowhere else. -/
theorem closes_of_close? (h : close? seen ls = some b) :
    ∃ inside closing rest, ls = inside ++ closing :: rest ∧ (∀ l ∈ inside, ¬ IsEndedRule l) ∧ Closes closing rest ∧
      b = ⟨seen.reverse ++ inside, if rest = [] then none else some rest⟩ := by
  induction ls generalizing seen with
  | nil => cases h
  | cons line ls ih =>
    cases ls with
    | nil =>
      rw [close?, Option.ite_none_right_eq_some] at h
      obtain ⟨hlast, hb⟩ := h
      refine ⟨[], line, [], rfl, List.forall_mem_nil _, isLastFence_iff.mp hlast, ?_⟩
      simpa using (Option.some.inj hb).symm
    | cons next ls =>
      rw [close?] at h
      split at h
      · rename_i hfence
        refine ⟨[], line, next :: ls, rfl, List.forall_mem_nil _, isFence_iff.mp hfence, ?_⟩
        simpa using (Option.some.inj h).symm
      · rename_i hfence
        obtain ⟨inside, closing, rest, hls, hinside, hcloses, hb⟩ := ih h
        refine ⟨line :: inside, closing, rest, congrArg (line :: ·) hls, ?_, hcloses, ?_⟩
        · exact List.forall_mem_cons.mpr ⟨mt isFence_iff.mpr hfence, hinside⟩
        · rw [hb, List.reverse_cons, List.append_assoc]
          rfl
      · simp

/-- **The search finds the header of a text, and does not look at its first line.** -/
theorem block?_eq_some_iff : block? content = some b ↔ ∃ p, Headed 1 content p ∧ b = p.block := by
  constructor
  · intro h
    unfold block? at h
    split at h
    · rename_i opening line ls hlines
      rw [Option.ite_none_right_eq_some, isFence_iff] at h
      obtain ⟨inside, closing, rest, rfl, hinside, hcloses, hb⟩ := closes_of_close? h.2
      exact ⟨⟨opening, line :: inside, closing, rest⟩, ⟨hlines, h.1, hcloses, by simp, hinside⟩, hb⟩
    · cases h
  · rintro ⟨⟨opening, inside, closing, rest⟩, hheaded, rfl⟩
    obtain ⟨line, inside, rfl⟩ := List.exists_cons_of_length_pos hheaded.skips
    have hfence : isFence opening = true := isFence_iff.mpr hheaded.opens
    have hlines : splitLines content = opening :: line :: (inside ++ closing :: rest) := hheaded.lines
    have hfirst : ∀ l ∈ inside, ¬ IsEndedRule l := hheaded.first
    rw [block?, hlines]
    simp only [hfence, if_true, close?_of_closes hfirst hheaded.closes]
    rfl

theorem block?_eq_none_iff : block? content = none ↔ ¬ ∃ p, Headed 1 content p := by
  rw [Option.eq_none_iff_forall_ne_some]
  constructor
  · rintro h ⟨p, hp⟩
    exact h p.block (block?_eq_some_iff.mpr ⟨p, hp, rfl⟩)
  · rintro h b hb
    obtain ⟨p, hp, -⟩ := block?_eq_some_iff.mp hb
    exact h ⟨p, hp⟩

end Search

/-! ## 4. The text of a header -/

/-- A line end after a text.  A carriage return before the line feed is part of it. -/
def IsLineEnd (before feed : List Char) : Prop :=
  feed = ['\r', '\n'] ∨ feed = ['\n'] ∧ before.getLast? ≠ some '\r'

/-- The last line end is cut off with its carriage return. -/
theorem exists_lineEnd_dropReturn (cs : List Char) :
    ∃ feed, IsLineEnd (dropReturn cs) feed ∧ cs ++ ['\n'] = dropReturn cs ++ feed := by
  by_cases hlast : cs.getLast? = some '\r'
  · refine ⟨['\r', '\n'], .inl rfl, ?_⟩
    rw [dropReturn, if_pos hlast]
    nth_rewrite 1 [← List.dropLast_append_getLast? '\r' hlast]
    simp
  · refine ⟨['\n'], .inr ⟨rfl, ?_⟩, ?_⟩
    · rwa [dropReturn, if_neg hlast]
    · rw [dropReturn, if_neg hlast]

section Content

variable {n : Nat} {p : Parts}

/-- A text is its first line, the lines of the header, the closing line, and what follows that. -/
theorem Headed.content_eq {content : List Char} (h : Headed n content p) :
    ∃ tail, content = p.opening ++ '\n' :: (p.between ++ (p.closing ++ tail)) ∧
      (tail = [] ∧ p.body = [] ∨ tail = '\n' :: p.body) := by
  have hcontent : content = p.opening ++ '\n' :: (p.between ++ joinLines (p.closing :: p.rest)) := by
    rw [← joinLines_splitLines content, h.lines, joinLines_cons _ (by simp), joinLines_append _ (List.cons_ne_nil _ _)]
    rfl
  by_cases hrest : p.rest = []
  · refine ⟨[], ?_, .inl ⟨rfl, by rw [Parts.body, hrest]; rfl⟩⟩
    rw [hcontent, hrest]
    simp [joinLines, joinWith]
  · refine ⟨'\n' :: p.body, ?_, .inr rfl⟩
    rw [hcontent, joinLines_cons _ hrest]
    rfl

theorem Parts.body_block (p : Parts) : p.block.body = p.body := by
  rw [Block.body, Parts.block, Parts.body]
  split
  · rename_i hrest
    rw [hrest]
    rfl
  · rfl

/-- The header without its last line end. -/
theorem Headed.between_eq {content : List Char} (h : Headed (n + 1) content p) :
    ∃ feed, IsLineEnd p.block.raw feed ∧ p.between = p.block.raw ++ feed := by
  have hne : p.inside ≠ [] := List.ne_nil_of_length_pos (Nat.lt_of_lt_of_le n.succ_pos h.skips)
  obtain ⟨feed, hfeed, hraw⟩ := exists_lineEnd_dropReturn (joinLines p.inside)
  exact ⟨feed, hfeed, by rw [Parts.between, flatMap_feed hne, hraw]; rfl⟩

/-- A header that starts with no rule is closed by its first one, whether the second line is skipped or not. -/
theorem headed_zero_iff {content : List Char} (h : ∀ p, Headed 0 content p → p.inside ≠ []) :
    Headed 0 content p ↔ Headed 1 content p := by
  constructor
  · intro hp
    refine ⟨hp.lines, hp.opens, hp.closes, List.length_pos_of_ne_nil (h p hp), fun l hl => ?_⟩
    exact hp.first l (List.mem_of_mem_drop hl)
  · obtain ⟨opening, inside, closing, rest⟩ := p
    intro hp
    obtain ⟨line, inside, rfl⟩ := List.exists_cons_of_length_pos hp.skips
    -- A rule in the second line would make a header without lines.
    have hline : ¬ IsEndedRule line := fun hrule => by
      obtain ⟨next, after, hafter⟩ := List.exists_cons_of_ne_nil (List.append_ne_nil_of_right_ne_nil inside
        (List.cons_ne_nil closing rest))
      refine h ⟨opening, [], line, next :: after⟩ ⟨?_, hp.opens, hrule, Nat.zero_le _, List.forall_mem_nil _⟩ rfl
      rw [hp.lines, ← hafter]
      rfl
    exact ⟨hp.lines, hp.opens, hp.closes, Nat.zero_le _, List.forall_mem_cons.mpr ⟨hline, hp.first⟩⟩

end Content

/-- **Reading a header.**  A text is read as one with a header if its first line is a rule and there is another one
below the second line.  The first of these closes the header.  What is between the two lines is the header, without
its last line end, and what is after the closing line is the body; the only texts with a header that are not read are
those with a YAML scalar that does not convert.  Unless the second line is a rule itself, that is the same as if the
closing line was looked for from the second line on. -/
theorem read_cases (content : String) :
    ((∃ p raw feed tail, Headed 1 content.toList p ∧ p.between = raw ++ feed ∧ IsLineEnd raw feed ∧
        content.toList = p.opening ++ '\n' :: (raw ++ feed ++ (p.closing ++ tail)) ∧
        (tail = [] ∧ p.body = [] ∨ tail = '\n' :: p.body) ∧
        ((∃ s, Yaml.read (String.ofList raw) = .error (.scalar s) ∧ read content = .error s) ∨
          ∃ f, read content = .ok f ∧ f.present = true ∧ f.raw = String.ofList raw ∧
            f.body = String.ofList p.body)) ∨
      (¬ ∃ p, Headed 1 content.toList p) ∧ read content = .ok ⟨.absent, content, 0, ""⟩) ∧
    ((∃ p, Headed 0 content.toList p ∧ p.inside = []) ∨
      ∀ p, Headed 0 content.toList p ↔ Headed 1 content.toList p) := by
  constructor
  · cases hblock : block? content.toList with
    | none => exact .inr ⟨block?_eq_none_iff.mp hblock, by rw [read, hblock]⟩
    | some b =>
      obtain ⟨p, hp, rfl⟩ := block?_eq_some_iff.mp hblock
      obtain ⟨feed, hfeed, hbetween⟩ := hp.between_eq
      obtain ⟨tail, hcontent, htail⟩ := hp.content_eq
      refine .inl ⟨p, p.block.raw, feed, tail, hp, hbetween, hfeed, hbetween ▸ hcontent, htail, ?_⟩
      simp only [read, hblock, p.body_block]
      cases Yaml.read (String.ofList p.block.raw) with
      | ok v =>
        refine .inr ⟨_, rfl, ?_, rfl, rfl⟩
        cases v <;> rfl
      | error fault =>
        cases fault with
        | malformed => exact .inr ⟨_, rfl, rfl, rfl, rfl⟩
        | scalar s => exact .inl ⟨s, rfl, rfl⟩
  · by_cases h : ∃ p, Headed 0 content.toList p ∧ p.inside = []
    · exact .inl h
    · exact .inr fun p => headed_zero_iff fun q hq hnil => h ⟨q, hq, hnil⟩

/-- An empty header is not found. -/
theorem read_empty_header : (∃ p, Headed 0 "---\n---\n".toList p) ∧
    ∃ f, read "---\n---\n" = .ok f ∧ f.present = false := by
  have hrule : IsRule "---".toList := ⟨[], List.forall_mem_nil _, rfl⟩
  have hended : IsEndedRule "---".toList := ⟨_, hrule, .inl rfl⟩
  refine ⟨⟨⟨"---".toList, [], "---".toList, [[]]⟩, by decide, hended, hended, le_rfl, List.forall_mem_nil _⟩, ?_⟩
  have hblock : block? "---\n---\n".toList = none := by decide
  exact ⟨_, by rw [read, hblock], rfl⟩

end AgentLint.Frontmatter
