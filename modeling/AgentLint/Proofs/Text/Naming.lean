import AgentLint.Proofs.Path
import AgentLint.Text.Naming

/-!
# The grammars of names

Two forms of names are checked, and each has a grammar: `IsConstant` for names in capitals, `IsKebab` for groups of
small letters and digits with single hyphens between them.  A check goes through the characters once; a grammar says
which texts there are.

No name of either form holds a line feed.  The checks leave out one line feed at the end before they look, so what they
let through is a name, or a name and a line feed after it (`isConstantName_iff`, `isHyphenated_iff`).
-/

namespace AgentLint.Text

/-! ## 1. The grammars -/

/-- A character of a range. -/
def Between (low high c : Char) : Prop := low ≤ c ∧ c ≤ high

/-- A name in capitals, digits and underscores that does not start with a digit. -/
structure IsConstant (cs : List Char) : Prop where
  /-- It has characters. -/
  filled : cs ≠ []
  /-- They are capitals, digits and underscores. -/
  chars : ∀ c ∈ cs, Between 'A' 'Z' c ∨ Between '0' '9' c ∨ c = '_'
  /-- The first one is no digit. -/
  start : ∀ c, cs.head? = some c → ¬ Between '0' '9' c

/-- A group of small letters and digits. -/
def IsGroup (cs : List Char) : Prop := cs ≠ [] ∧ ∀ c ∈ cs, Between 'a' 'z' c ∨ Between '0' '9' c

/-- One or more groups with single hyphens between them. -/
def IsKebab (cs : List Char) : Prop :=
  ∃ groups : List (List Char), groups ≠ [] ∧ (∀ g ∈ groups, IsGroup g) ∧ cs = ['-'].intercalate groups

/-- A text of a form, or one and a line feed after it. -/
def UpToLineFeed (form : List Char → Prop) (cs : List Char) : Prop := form cs ∨ ∃ name, form name ∧ cs = name ++ ['\n']

/-! ## 2. Characters -/

theorem isUpper_iff {c : Char} : c.isUpper = true ↔ Between 'A' 'Z' c := decide_eq_true_iff

theorem isLower_iff {c : Char} : c.isLower = true ↔ Between 'a' 'z' c :=
  Bool.and_eq_true_iff.trans (and_congr decide_eq_true_iff decide_eq_true_iff)

theorem isDigit_iff {c : Char} : c.isDigit = true ↔ Between '0' '9' c :=
  Bool.and_eq_true_iff.trans (and_congr decide_eq_true_iff decide_eq_true_iff)

theorem isSmallAlnum_iff {c : Char} : isSmallAlnum c = true ↔ Between 'a' 'z' c ∨ Between '0' '9' c := by
  rw [isSmallAlnum, Bool.or_eq_true, isLower_iff, isDigit_iff]

theorem isConstantStart_iff {c : Char} : isConstantStart c = true ↔ Between 'A' 'Z' c ∨ c = '_' := by
  rw [isConstantStart, Bool.or_eq_true, isUpper_iff, decide_eq_true_eq]

theorem isConstantChar_iff {c : Char} :
    isConstantChar c = true ↔ Between 'A' 'Z' c ∨ Between '0' '9' c ∨ c = '_' := by
  rw [isConstantChar, Bool.or_eq_true, isConstantStart_iff, isDigit_iff, or_assoc, or_comm (a := c = '_')]

/-- What a constant may start with is what it may hold and is no digit. -/
theorem isConstantStart_iff_char {c : Char} :
    isConstantStart c = true ↔ isConstantChar c = true ∧ ¬ Between '0' '9' c := by
  have hupper : Between 'A' 'Z' c → ¬ Between '0' '9' c := fun h h' =>
    absurd (Char.le_trans h.1 h'.2) (by decide)
  have hunderscore : c = '_' → ¬ Between '0' '9' c := by
    rintro rfl h
    exact absurd h.2 (by decide)
  rw [isConstantStart_iff, isConstantChar_iff]
  tauto

/-! ## 3. The line feed at the end -/

theorem dropLineFeed_of_ne {cs : List Char} (h : cs.getLast? ≠ some '\n') : dropLineFeed cs = cs := if_neg h

@[simp]
theorem dropLineFeed_concat (cs : List Char) : dropLineFeed (cs ++ ['\n']) = cs := by
  rw [dropLineFeed, if_pos List.getLast?_concat, List.dropLast_concat]

/-- **A check that leaves out the line feed at the end** lets a text with a line feed more pass, for a form without
line feeds. -/
theorem form_dropLineFeed_iff {form : List Char → Prop} (hform : ∀ {cs}, form cs → '\n' ∉ cs) {cs : List Char} :
    form (dropLineFeed cs) ↔ UpToLineFeed form cs := by
  by_cases hlast : cs.getLast? = some '\n'
  · obtain ⟨name, rfl⟩ := List.getLast?_eq_some_iff.mp hlast
    rw [dropLineFeed_concat]
    constructor
    · exact fun h => .inr ⟨name, h, rfl⟩
    · rintro (h | ⟨name', h, heq⟩)
      · exact absurd (List.mem_append_right name (List.mem_singleton_self _)) (hform h)
      · exact List.append_cancel_right heq ▸ h
  · rw [dropLineFeed_of_ne hlast]
    refine ⟨.inl, ?_⟩
    rintro (h | ⟨name, -, rfl⟩)
    · exact h
    · exact absurd List.getLast?_concat hlast

/-! ## 4. The checks -/

theorem IsConstant.no_feed {cs : List Char} (h : IsConstant cs) : '\n' ∉ cs := by
  intro hmem
  exact absurd (isConstantChar_iff.mpr (h.chars _ hmem)) (by decide)

/-- A text made of pieces holds their characters and those between them. -/
theorem mem_of_mem_intercalate {stop c : Char} : ∀ {pieces : List (List Char)}, c ∈ [stop].intercalate pieces →
    c = stop ∨ ∃ p ∈ pieces, c ∈ p
  | [], h => nomatch h
  | [p], h => .inr ⟨p, List.mem_singleton_self p, by simpa using h⟩
  | p :: q :: rest, h => by
    rw [List.intercalate_cons_cons] at h
    rcases List.mem_append.mp h with h | h
    · rcases List.mem_append.mp h with h | h
      · exact .inr ⟨p, List.mem_cons_self, h⟩
      · exact .inl (List.mem_singleton.mp h)
    · exact (mem_of_mem_intercalate h).imp_right fun ⟨r, hr, h⟩ => ⟨r, List.mem_cons_of_mem p hr, h⟩

theorem IsGroup.not_mem {cs : List Char} (h : IsGroup cs) {c : Char} (hc : isSmallAlnum c = false) : c ∉ cs :=
  fun hmem => Bool.eq_false_iff.mp hc (isSmallAlnum_iff.mpr (h.2 c hmem))

theorem IsKebab.no_feed {cs : List Char} (h : IsKebab cs) : '\n' ∉ cs := by
  obtain ⟨groups, -, hgroups, rfl⟩ := h
  intro hmem
  rcases mem_of_mem_intercalate hmem with h | ⟨g, hg, h⟩
  · exact absurd h (by decide)
  · exact (hgroups g hg).not_mem (by decide) h

/-- A constant is a character to start with and characters after it. -/
theorem isConstant_iff {cs : List Char} :
    IsConstant cs ↔ ∃ c rest, cs = c :: rest ∧ isConstantStart c = true ∧ rest.all isConstantChar = true := by
  constructor
  · rintro ⟨hfilled, hchars, hstart⟩
    obtain ⟨c, rest, rfl⟩ := List.exists_cons_of_ne_nil hfilled
    obtain ⟨hc, hrest⟩ := List.forall_mem_cons.mp hchars
    refine ⟨c, rest, rfl, isConstantStart_iff_char.mpr ⟨isConstantChar_iff.mpr hc, hstart c rfl⟩, ?_⟩
    exact List.all_eq_true.mpr fun d hd => isConstantChar_iff.mpr (hrest d hd)
  · rintro ⟨c, rest, rfl, hc, hrest⟩
    obtain ⟨hchar, hdigit⟩ := isConstantStart_iff_char.mp hc
    refine ⟨List.cons_ne_nil c rest, List.forall_mem_cons.mpr ⟨isConstantChar_iff.mp hchar, fun d hd => ?_⟩, ?_⟩
    · exact isConstantChar_iff.mp (List.all_eq_true.mp hrest d hd)
    · rintro d ⟨⟩
      exact hdigit

/-- **Names of constants**: the check accepts them, and them with a line feed at the end. -/
theorem isConstantName_iff {cs : List Char} : isConstantName cs = true ↔ UpToLineFeed IsConstant cs := by
  rw [← form_dropLineFeed_iff IsConstant.no_feed, isConstant_iff, isConstantName]
  cases dropLineFeed cs with
  | nil => simp
  | cons c rest => simp

theorem isGroup_iff {cs : List Char} : IsGroup cs ↔ (!cs.isEmpty && cs.all isSmallAlnum) = true := by
  simp [IsGroup, isSmallAlnum_iff]

/-- Groups come back from a split at hyphens, since they hold none. -/
theorem isKebab_iff {cs : List Char} :
    IsKebab cs ↔ ((splitOn '-' cs).all fun g => !g.isEmpty && g.all isSmallAlnum) = true := by
  simp only [List.all_eq_true, ← isGroup_iff]
  constructor
  · rintro ⟨groups, hne, hgroups, rfl⟩
    rwa [splitOn_intercalate (fun g hg => (hgroups g hg).not_mem (by decide)) hne]
  · intro h
    refine ⟨splitOn '-' cs, splitOn_ne_nil _ _, h, ?_⟩
    rw [splitOn_eq]
    exact (List.intercalate_splitOn '-').symm

/-- **Names of groups**: the check accepts them, and them with a line feed at the end. -/
theorem isHyphenated_iff {cs : List Char} : isHyphenated cs = true ↔ UpToLineFeed IsKebab cs := by
  rw [← form_dropLineFeed_iff IsKebab.no_feed, isKebab_iff, isHyphenated]

end AgentLint.Text
