import AgentLint.Proofs.Suppression.Reading
import Mathlib.Data.List.TakeWhile

/-!
# What a directive looks like

`Directive.startingAt` reads a directive from the left: blanks, the verb, and a name that is taken as far as
it goes and given back by two hyphens if the end of the comment needs them.  This module gives the grammar
without any order of reading.  A directive is a text with six parts (`Spells`), and a line shows the one that
starts leftmost on it (`Shows`).  `parse_of_shown` proves that a text is scanned by what its lines show.

The two readings agree because the grammar leaves no choice.  What follows a verb starts with a blank or with
the end of the comment, so no verb is read in place of a longer one (`word_cancel`); and behind a name stands
either a blank or the end of the comment, so a name is neither cut short nor run into the end
(`name?_eq_some_iff`).
-/

namespace AgentLint

namespace Directive

/-! ## 1. The grammar -/

/-- A character of a rule name: a small letter, a digit or a hyphen. -/
def InName (c : Char) : Prop := ('a' ≤ c ∧ c ≤ 'z') ∨ ('0' ≤ c ∧ c ≤ '9') ∨ c = '-'

/-- The name of a rule; it does not start with a hyphen. -/
structure IsRuleName (name : List Char) : Prop where
  chars : ∀ c ∈ name, InName c
  head : ∃ c, name.head? = some c ∧ c ≠ '-'

/-- A run of blanks. -/
def Blanks (cs : List Char) : Prop := ∀ c ∈ cs, Text.isBlank c = true

/-- How a directive says which rule it concerns: by nothing, or by blanks and a name. -/
inductive Addresses : List Char → String → Prop where
  /-- All rules. -/
  | all : Addresses [] allRules
  /-- One rule. -/
  | rule {gap name : List Char} (blanks : Blanks gap) (apart : gap ≠ []) (isName : IsRuleName name) :
    Addresses (gap ++ name) (String.ofList name)

/-- The texts of a directive. -/
def Spells (d : Directive) (text : List Char) : Prop :=
  ∃ lead address trail, Blanks lead ∧ Addresses address d.target ∧ Blanks trail ∧
    text = "<!--".toList ++ lead ++ "lintloom-".toList ++ d.verb.word.toList ++ address ++ trail ++
      "-->".toList

/-- A line shows a directive that stands on it, if none starts further left. -/
def Shows (line : List Char) (d : Directive) : Prop :=
  ∃ before text after, line = before ++ text ++ after ∧ Spells d text ∧
    ∀ before' text' after' d', line = before' ++ text' ++ after' → Spells d' text' →
      before.length ≤ before'.length

/-! ## 2. Runs of characters -/

theorem inName_iff {c : Char} : InName c ↔ isNameChar c = true := by
  have htest : isNameChar c = ((decide ('a' ≤ c) && decide (c ≤ 'z')) || (decide ('0' ≤ c) && decide (c ≤ '9')) ||
    decide (c = '-')) := rfl
  rw [htest]
  simp [InName, or_assoc]

/-- No character of a name is a blank. -/
theorem not_blank_of_isNameChar {c : Char} (h : isNameChar c = true) : Text.isBlank c = false := by
  have hle : ∀ {a b : Char}, a ≤ b → a.toNat ≤ b.toNat := fun hab => UInt32.le_iff_toNat_le.mp hab
  have hrange : 33 ≤ c.toNat ∧ c.toNat < 0x85 := by
    rcases inName_iff.mpr h with ⟨hlo, hhi⟩ | ⟨hlo, hhi⟩ | rfl
    · exact ⟨Nat.le_trans (by decide) (hle hlo), Nat.lt_of_le_of_lt (hle hhi) (by decide)⟩
    · exact ⟨Nat.le_trans (by decide) (hle hlo), Nat.lt_of_le_of_lt (hle hhi) (by decide)⟩
    · decide
  have hlow : ¬ c.toNat ≤ 32 := by omega
  simp only [Text.isBlank, if_neg hlow, if_pos hrange.2]

/-- A run and what stops it. -/
theorem span_append {p : Char → Bool} {run : List Char} (h : ∀ c ∈ run, p c = true) {c : Char}
    (hc : p c = false) (rest : List Char) :
    (run ++ c :: rest).takeWhile p = run ∧ (run ++ c :: rest).dropWhile p = c :: rest := by
  rw [List.takeWhile_append_of_pos h, List.dropWhile_append_of_pos h]
  simp [hc]

theorem after?_eq_some_iff {start cs rest : List Char} :
    after? start cs = some rest ↔ cs = start ++ rest := by
  unfold after?
  constructor
  · intro h
    split at h
    · rename_i hprefix
      obtain ⟨rest', rfl⟩ := List.isPrefixOf_iff_prefix.mp hprefix
      rw [List.drop_left, Option.some.injEq] at h
      rw [h]
    · cases h
  · rintro rfl
    rw [if_pos (List.isPrefixOf_iff_prefix.mpr (List.prefix_append start rest)), List.drop_left]

/-- **The end of a comment** may follow blanks. -/
theorem closes_iff {cs : List Char} :
    closes cs = true ↔ ∃ trail rest, Blanks trail ∧ cs = trail ++ ("-->".toList ++ rest) := by
  have hclosing : closing = "-->".toList := rfl
  rw [closes, hclosing, List.isPrefixOf_iff_prefix]
  constructor
  · rintro ⟨rest, hrest⟩
    refine ⟨cs.takeWhile Text.isBlank, rest, fun c hc => List.mem_takeWhile_imp hc, ?_⟩
    rw [hrest, List.takeWhile_append_dropWhile]
  · rintro ⟨trail, rest, htrail, rfl⟩
    rw [show "-->".toList ++ rest = '-' :: ('-' :: '>' :: rest) from rfl,
      (span_append htrail (by decide) _).2]
    exact ⟨rest, rfl⟩

/-! ## 3. Names -/

theorem IsRuleName.isNameChar {name : List Char} (h : IsRuleName name) :
    ∀ c ∈ name, isNameChar c = true := fun c hc => inName_iff.mp (h.chars c hc)

theorem IsRuleName.eq_cons {name : List Char} (h : IsRuleName name) :
    ∃ c rest, name = c :: rest ∧ Directive.isNameChar c = true ∧ c ≠ '-' := by
  obtain ⟨c, hhead, hne⟩ := h.head
  cases name with
  | nil => cases hhead
  | cons c' rest =>
    cases hhead
    exact ⟨c, rest, rfl, h.isNameChar c List.mem_cons_self, hne⟩

/-- What a name begins with is a name. -/
theorem IsRuleName.of_prefix {word name : List Char} (h : IsRuleName word) (hp : name <+: word)
    (hne : name ≠ []) : IsRuleName name := by
  obtain ⟨c, hhead, hc⟩ := h.head
  obtain ⟨rest, rfl⟩ := hp
  refine ⟨fun x hx => h.chars x (List.mem_append_left _ hx), c, ?_, hc⟩
  rwa [List.head?_append_of_ne_nil _ hne] at hhead

/-- What is read as a name is one, and the comment closes behind it. -/
theorem isRuleName_of_name? {cs name : List Char} (h : name? cs = some name) :
    IsRuleName name ∧ ∃ rest, cs = name ++ rest ∧ closes rest = true := by
  have hsplit : cs.takeWhile isNameChar ++ cs.dropWhile isNameChar = cs :=
    List.takeWhile_append_dropWhile
  have hchars : ∀ c ∈ cs.takeWhile isNameChar, InName c := fun c hc =>
    inName_iff.mpr (List.mem_takeWhile_imp hc)
  simp only [name?] at h
  generalize cs.takeWhile isNameChar = word at *
  generalize cs.dropWhile isNameChar = rest at *
  split at h
  · cases h
  · cases h
  · rename_i hnil hhyphen
    have hword : IsRuleName word := by
      obtain ⟨c, word, rfl⟩ := List.exists_cons_of_ne_nil (fun e => hnil e)
      exact ⟨hchars, c, rfl, fun e => hhyphen word (by rw [e])⟩
    split at h
    · rename_i hcloses
      cases h
      exact ⟨hword, rest, hsplit.symm, hcloses⟩
    · split at h
      · rename_i hback
        simp only [Bool.and_eq_true, decide_eq_true_eq, List.isSuffixOf_iff_suffix] at hback
        obtain ⟨⟨hhead, hsuffix⟩, hlong⟩ := hback
        cases h
        -- The name is the run without the two hyphens of the end.
        have hrun : word.take (word.length - 2) ++ ['-', '-'] = word :=
          List.suffix_iff_eq_append.mp hsuffix
        have hne : word.take (word.length - 2) ≠ [] := by
          apply List.ne_nil_of_length_pos
          rw [List.length_take]
          omega
        obtain ⟨rest', rfl⟩ := List.head?_eq_some_iff.mp hhead
        refine ⟨hword.of_prefix (List.take_prefix _ _) hne, ['-', '-', '>'] ++ rest', ?_, ?_⟩
        · rw [← hsplit]
          conv_lhs => rw [← hrun]
          simp
        · exact closes_iff.mpr ⟨[], rest', nofun, rfl⟩
      · cases h

/-- A name is read up to the end of the comment that touches it: the two hyphens of the end are
characters of a name as well. -/
theorem name?_append_end {name : List Char} (h : IsRuleName name) (rest : List Char) :
    name? (name ++ ("-->".toList ++ rest)) = some name := by
  obtain ⟨c, name, rfl, -, hc⟩ := h.eq_cons
  have hrun : ∀ x ∈ c :: name ++ ['-', '-'], isNameChar x = true := by
    intro x hx
    rcases List.mem_append.mp hx with hx | hx
    · exact h.isNameChar x hx
    · rw [List.mem_pair, or_self] at hx
      rw [hx]
      rfl
  have hspan := span_append hrun (c := '>') (by decide) rest
  have htext : c :: name ++ ("-->".toList ++ rest) = c :: name ++ ['-', '-'] ++ '>' :: rest := by
    simp
  have hopen : closes ('>' :: rest) = false := rfl
  rw [htext]
  unfold name?
  rw [hspan.1, hspan.2]
  simp [hopen, hc]

/-- A name is read up to a character that no name has, if the comment closes from there. -/
theorem name?_append_cons {name : List Char} (h : IsRuleName name) {b : Char} {after : List Char}
    (hb : isNameChar b = false) (hcloses : closes (b :: after) = true) :
    name? (name ++ b :: after) = some name := by
  obtain ⟨c, name, rfl, -, hc⟩ := h.eq_cons
  have hspan := span_append h.isNameChar hb after
  unfold name?
  rw [hspan.1, hspan.2]
  simp [hcloses, hc]

/-- **A name** is read exactly if the comment closes behind it. -/
theorem name?_eq_some_iff {cs name : List Char} :
    name? cs = some name ↔ IsRuleName name ∧ ∃ rest, cs = name ++ rest ∧ closes rest = true := by
  refine ⟨isRuleName_of_name?, ?_⟩
  rintro ⟨hname, rest, rfl, hcloses⟩
  obtain ⟨trail, rest, htrail, rfl⟩ := closes_iff.mp hcloses
  cases trail with
  | nil => exact name?_append_end hname rest
  | cons b trail =>
    have hb : isNameChar b = false := by
      rw [Bool.eq_false_iff]
      intro hb
      exact absurd (htrail b List.mem_cons_self) (by simp [not_blank_of_isNameChar hb])
    exact name?_append_cons hname hb hcloses

/-! ## 4. Targets and verbs -/

/-- **The target** of a directive is what stands between its verb and its end. -/
theorem target?_eq_some_iff {cs : List Char} {target : String} :
    target? cs = some target ↔
      ∃ address rest, Addresses address target ∧ cs = address ++ rest ∧ closes rest = true := by
  have hsplit : cs.takeWhile Text.isBlank ++ cs.dropWhile Text.isBlank = cs :=
    List.takeWhile_append_dropWhile
  unfold target?
  constructor
  · intro h
    simp only at h
    split at h
    · rename_i name hnamed
      split at hnamed
      · rename_i hshorter
        obtain ⟨hname, rest, hrest, hcloses⟩ := name?_eq_some_iff.mp hnamed
        cases h
        refine ⟨cs.takeWhile Text.isBlank ++ name, rest,
          .rule (fun c hc => List.mem_takeWhile_imp hc) ?_ hname, ?_, hcloses⟩
        · intro hnil
          rw [hnil, List.nil_append] at hsplit
          rw [hsplit] at hshorter
          exact Nat.lt_irrefl _ hshorter
        · rw [List.append_assoc, ← hrest, hsplit]
      · cases hnamed
    · split at h
      · rename_i hcloses
        cases h
        exact ⟨[], cs, .all, rfl, hcloses⟩
      · cases h
  · rintro ⟨address, rest, haddress, rfl, hcloses⟩
    cases haddress with
    | all =>
      -- Behind the blanks stands a hyphen, so no name does.
      have hnone : name? (rest.dropWhile Text.isBlank) = none := by
        rw [Option.eq_none_iff_forall_ne_some]
        intro name hname
        obtain ⟨hname, rest', hrest', -⟩ := name?_eq_some_iff.mp hname
        obtain ⟨c, name, rfl, -, hc⟩ := hname.eq_cons
        obtain ⟨after, hafter⟩ := List.isPrefixOf_iff_prefix.mp hcloses
        rw [hrest'] at hafter
        exact hc (List.cons.inj hafter).1.symm
      simp only [List.nil_append, hnone, ite_self]
      rw [if_pos hcloses]
    | @rule gap name hblanks hgap hname =>
      obtain ⟨c, name, rfl, hc, -⟩ := hname.eq_cons
      have hspan := (span_append hblanks (not_blank_of_isNameChar hc) (name ++ rest)).2
      have hread : name? (c :: (name ++ rest)) = some (c :: name) :=
        name?_eq_some_iff.mpr ⟨hname, rest, rfl, hcloses⟩
      have hlength := List.length_pos_of_ne_nil hgap
      have hshorter : (c :: (name ++ rest)).length < (gap ++ c :: name ++ rest).length := by
        simp only [List.length_append, List.length_cons]
        omega
      rw [List.append_assoc, List.cons_append] at *
      simp only [hspan, if_pos hshorter, hread]

/-- A hyphen behind a verb belongs to the end of the comment. -/
theorem target?_hyphen {c : Char} (hc : c ≠ '-') (rest : List Char) : target? ('-' :: c :: rest) = none := by
  rw [Option.eq_none_iff_forall_ne_some]
  intro target h
  obtain ⟨address, rest', haddress, htext, hcloses⟩ := target?_eq_some_iff.mp h
  have hhyphen : Text.isBlank '-' = false := by decide
  cases haddress with
  | all =>
    obtain ⟨trail, after, htrail, rfl⟩ := closes_iff.mp hcloses
    cases trail with
    | nil => exact hc (List.cons.inj (List.cons.inj htext).2).1
    | cons b trail =>
      obtain ⟨rfl, -⟩ := List.cons.inj htext
      exact absurd (htrail _ List.mem_cons_self) (by simp [hhyphen])
  | @rule gap name hblanks hgap hname =>
    obtain ⟨b, gap, rfl⟩ := List.exists_cons_of_ne_nil hgap
    obtain ⟨rfl, -⟩ := List.cons.inj htext
    exact absurd (hblanks _ List.mem_cons_self) (by simp [hhyphen])

/-- **No verb is read in place of another one.**  One that another one starts with would leave a hyphen and a
letter. -/
theorem word_cancel {v v' : Verb} {a b : List Char} {t t' : String} (ha : target? a = some t)
    (hb : target? b = some t') (h : v.word.toList ++ a = v'.word.toList ++ b) : v = v' := by
  have hfile : Verb.file.word.toList = "disable-file".toList := rfl
  have hnext : Verb.nextLine.word.toList = "disable-next-line".toList := rfl
  have hline : Verb.line.word.toList = "disable-line".toList := rfl
  have hblock : Verb.block.word.toList = "disable".toList := rfl
  have henable : Verb.enable.word.toList = "enable".toList := rfl
  cases v <;> cases v' <;> simp [hfile, hnext, hline, hblock, henable] at h ⊢
  -- What is left pairs the verb of a block with one that it starts.
  all_goals
    subst h
    simp [target?_hyphen] at ha hb

/-! ## 5. Lines -/

/-- A verb and its target are read exactly if they stand there. -/
theorem readVerb_eq_some_iff {cs : List Char} {v : Verb} {d : Directive} :
    (do
      let rest ← after? v.word.toList cs
      let t ← target? rest
      some (⟨v, t⟩ : Directive)) = some d ↔
      v = d.verb ∧ ∃ rest, cs = d.verb.word.toList ++ rest ∧ target? rest = some d.target := by
  simp only [bind, Option.bind_eq_some_iff, after?_eq_some_iff, Option.some.injEq]
  constructor
  · rintro ⟨rest, hcs, t, ht, rfl⟩
    exact ⟨rfl, rest, hcs, ht⟩
  · rintro ⟨rfl, rest, hcs, ht⟩
    exact ⟨rest, hcs, d.target, ht, rfl⟩

/-- The order in which the verbs are tried does not matter. -/
theorem readVerbs_eq_some_iff {cs : List Char} {d : Directive} :
    (Verb.all.findSome? fun v => do
      let rest ← after? v.word.toList cs
      let t ← target? rest
      some (⟨v, t⟩ : Directive)) = some d ↔
      ∃ rest, cs = d.verb.word.toList ++ rest ∧ target? rest = some d.target := by
  constructor
  · intro h
    obtain ⟨v, -, hv⟩ := List.exists_of_findSome?_eq_some h
    exact (readVerb_eq_some_iff.mp hv).2
  · rintro ⟨rest, hcs, ht⟩
    have hmem : d.verb ∈ Verb.all := by cases d.verb <;> decide
    have hread := readVerb_eq_some_iff.mpr ⟨rfl, rest, hcs, ht⟩
    cases hfind : Verb.all.findSome? _ with
    | none =>
      rw [List.findSome?_eq_none_iff.mp hfind d.verb hmem] at hread
      cases hread
    | some d' =>
      obtain ⟨v, -, hv⟩ := List.exists_of_findSome?_eq_some hfind
      obtain ⟨-, rest', hcs', ht'⟩ := readVerb_eq_some_iff.mp hv
      have hverb : d'.verb = d.verb := word_cancel ht' ht (hcs'.symm.trans hcs)
      rw [hcs, hverb, List.append_cancel_left_eq] at hcs'
      rw [hcs', ht', Option.some.injEq] at ht
      cases d
      cases d'
      simp_all

/-- **A directive at the start of a text** is read exactly if it is spelled there. -/
theorem startingAt_eq_some_iff {cs : List Char} {d : Directive} :
    startingAt cs = some d ↔ ∃ text rest, Spells d text ∧ cs = text ++ rest := by
  unfold startingAt
  simp only [bind, Option.bind_eq_some_iff, after?_eq_some_iff]
  constructor
  · rintro ⟨behind, rfl, inner, hinner, hverbs⟩
    obtain ⟨rest, rfl, ht⟩ := readVerbs_eq_some_iff.mp hverbs
    obtain ⟨address, rest, haddress, rfl, hcloses⟩ := target?_eq_some_iff.mp ht
    obtain ⟨trail, rest, htrail, rfl⟩ := closes_iff.mp hcloses
    refine ⟨_, rest, ⟨behind.takeWhile Text.isBlank, address, trail,
      fun c hc => List.mem_takeWhile_imp hc, haddress, htrail, rfl⟩, ?_⟩
    conv_lhs => rw [← List.takeWhile_append_dropWhile (p := Text.isBlank) (l := behind), hinner]
    simp only [List.append_assoc]
  · rintro ⟨text, rest, ⟨lead, address, trail, hlead, haddress, htrail, rfl⟩, rfl⟩
    have hword : "lintloom-".toList = 'l' :: "intloom-".toList := rfl
    have hcloses : closes (trail ++ ("-->".toList ++ rest)) = true := closes_iff.mpr ⟨trail, rest, htrail, rfl⟩
    refine ⟨lead ++ ("lintloom-".toList ++ (d.verb.word.toList ++ (address ++ (trail ++ ("-->".toList ++ rest))))),
      by simp only [List.append_assoc], d.verb.word.toList ++ (address ++ (trail ++ ("-->".toList ++ rest))), ?_, ?_⟩
    · rw [hword, List.cons_append]
      exact (span_append hlead (by decide) _).2
    · exact readVerbs_eq_some_iff.mpr ⟨_, rfl, target?_eq_some_iff.mpr ⟨address, _, haddress, rfl, hcloses⟩⟩

/-- A line gives what is read at the first place where something can be read. -/
theorem onLine_eq_some_iff {line : List Char} {d : Directive} :
    onLine line = some d ↔ ∃ before after, line = before ++ after ∧ startingAt after = some d ∧
      ∀ before' after', line = before' ++ after' → before'.length < before.length →
        startingAt after' = none := by
  induction line with
  | nil =>
    constructor
    · intro h
      cases h
    · rintro ⟨before, after, hline, h, -⟩
      obtain ⟨rfl, rfl⟩ := List.append_eq_nil_iff.mp hline.symm
      cases h
  | cons c line ih =>
    rw [onLine]
    cases hhere : startingAt (c :: line) with
    | some d' =>
      constructor
      · intro h
        exact ⟨[], c :: line, rfl, hhere.trans h, fun _ _ _ hlt => absurd hlt (Nat.not_lt_zero _)⟩
      · rintro ⟨before, after, hline, h, hfirst⟩
        cases before with
        | nil =>
          rw [List.nil_append] at hline
          rw [← hline, hhere] at h
          exact h
        | cons b before =>
          rw [hfirst [] (c :: line) rfl (Nat.succ_pos _)] at hhere
          cases hhere
    | none =>
      rw [ih]
      constructor
      · rintro ⟨before, after, rfl, h, hfirst⟩
        refine ⟨c :: before, after, rfl, h, fun before' after' hline hlt => ?_⟩
        cases before' with
        | nil => rw [← List.nil_append after', ← hline, hhere]
        | cons b before' =>
          exact hfirst before' after' (List.cons.inj hline).2 (Nat.lt_of_succ_lt_succ hlt)
      · rintro ⟨before, after, hline, h, hfirst⟩
        cases before with
        | nil =>
          rw [← List.nil_append after, ← hline, hhere] at h
          cases h
        | cons b before =>
          obtain ⟨rfl, rfl⟩ := List.cons.inj hline
          exact ⟨before, after, rfl, h, fun before' after' hline hlt =>
            hfirst (c :: before') after' (by rw [hline]; rfl) (Nat.succ_lt_succ hlt)⟩

/-- **Lines are read as they are written**: what a line gives is the directive that it shows. -/
theorem onLine_eq_some_iff_shows {line : List Char} {d : Directive} :
    onLine line = some d ↔ Shows line d := by
  rw [onLine_eq_some_iff]
  constructor
  · rintro ⟨before, _, rfl, hread, hfirst⟩
    obtain ⟨text, after, htext, rfl⟩ := startingAt_eq_some_iff.mp hread
    refine ⟨before, text, after, (List.append_assoc _ _ _).symm, htext, fun before' text' after' d' hline htext' => ?_⟩
    by_contra hlt
    have hnone := hfirst before' (text' ++ after') (by rw [hline, List.append_assoc]) (by omega)
    rw [startingAt_eq_some_iff.mpr ⟨text', after', htext', rfl⟩] at hnone
    cases hnone
  · rintro ⟨before, text, after, rfl, htext, hfirst⟩
    refine ⟨before, text ++ after, List.append_assoc _ _ _, startingAt_eq_some_iff.mpr ⟨text, after, htext, rfl⟩,
      fun before' behind hline hlt => ?_⟩
    rw [Option.eq_none_iff_forall_ne_some]
    intro d' hread
    obtain ⟨text', after', htext', rfl⟩ := startingAt_eq_some_iff.mp hread
    have := hfirst before' text' after' d' (by rw [hline, List.append_assoc]) htext'
    omega

/-- At one place at most one directive is spelled. -/
theorem eq_of_spells {d d' : Directive} {text text' rest rest' : List Char} (h : Spells d text)
    (h' : Spells d' text') (hsame : text ++ rest = text' ++ rest') : d = d' := by
  have hread := startingAt_eq_some_iff.mpr ⟨text, rest, h, rfl⟩
  rw [hsame, startingAt_eq_some_iff.mpr ⟨text', rest', h', rfl⟩] at hread
  exact (Option.some.inj hread).symm

end Directive

namespace Tracker

/-! ## 6. Texts -/

/-- The ranges that directives make in a text of `total` lines, each directive with its line. -/
def ofDirectives (total : Nat) (shown : List (Nat × Directive)) : Tracker :=
  let s := shown.foldl (fun s x => step total s x.1 x.2) ⟨[], []⟩
  ⟨s.closed ++ s.opened.map fun (t, first) => ⟨t, .block, first, some (first, total), false⟩⟩

/-- The directives that are read on lines, each with its line. -/
def readOn (lines : List (List Char)) : List (Nat × Directive) :=
  (Text.numberFrom 1 lines).filterMap fun l => (Directive.onLine l.2).map fun d => (l.1, d)

theorem parse_eq_ofDirectives (content : String) :
    parse content = ofDirectives (Text.splitLines content.toList).length
      (readOn (Text.splitLines content.toList)) := by
  have hscan : ∀ total lines, scan total (Text.numberFrom 1 lines) =
      (readOn lines).foldl (fun s x => step total s x.1 x.2) ⟨[], []⟩ := by
    intro total lines
    rw [readOn, List.foldl_filterMap, scan]
    congr 1
    funext s l
    cases Directive.onLine l.2 <;> rfl
  rw [parse, ofDirectives, hscan]

theorem mem_readOn_iff {lines : List (List Char)} {n : Nat} {d : Directive} :
    (n, d) ∈ readOn lines ↔ ∃ i line, n = i + 1 ∧ lines[i]? = some line ∧ Directive.onLine line = some d := by
  simp only [readOn, Text.numberFrom, List.mem_filterMap, List.mem_map, Option.map_eq_some_iff, Prod.mk.injEq,
    Prod.exists, List.mk_mem_zipIdx_iff_le_and_getElem?_sub]
  constructor
  · rintro ⟨k, line, ⟨line', k', ⟨hk, hline⟩, rfl, rfl⟩, d', hd, rfl, rfl⟩
    exact ⟨k' - 1, line', by omega, hline, hd⟩
  · rintro ⟨i, line, rfl, hline, hd⟩
    exact ⟨i + 1, line, ⟨line, i + 1, ⟨by omega, by simpa using hline⟩, rfl, rfl⟩, d, hd, rfl, rfl⟩

/-- One directive a line, from the top. -/
theorem pairwise_readOn (lines : List (List Char)) : (readOn lines).Pairwise fun x y => x.1 < y.1 := by
  have hnumbers : (Text.numberFrom 1 lines).Pairwise fun x y => x.1 < y.1 := by
    rw [Text.numberFrom, List.pairwise_map, List.pairwise_iff_getElem]
    intro i j _ _ hlt
    simpa using hlt
  refine List.pairwise_filterMap.mpr (hnumbers.imp fun {l l'} hlt x hx y hy => ?_)
  obtain ⟨d, -, rfl⟩ := Option.map_eq_some_iff.mp hx
  obtain ⟨d', -, rfl⟩ := Option.map_eq_some_iff.mp hy
  exact hlt

/-- **What is recognised.**  A text is scanned by the directives that its lines show, one at most on each and
from the top; and no two directives can be spelled at one place of a line, wherever they end. -/
theorem parse_of_shown :
    (∀ content : String, ∃ shown : List (Nat × Directive),
      parse content = ofDirectives (Text.splitLines content.toList).length shown ∧
      (shown.Pairwise fun x y => x.1 < y.1) ∧
      ∀ n d, (n, d) ∈ shown ↔ ∃ i line, n = i + 1 ∧ (Text.splitLines content.toList)[i]? = some line ∧
        Directive.Shows line d) ∧
    ∀ d d' text text' rest rest', Directive.Spells d text → Directive.Spells d' text' →
      text ++ rest = text' ++ rest' → d = d' := by
  refine ⟨fun content => ⟨readOn (Text.splitLines content.toList), parse_eq_ofDirectives content,
    pairwise_readOn _, fun n d => ?_⟩, fun d d' text text' rest rest' h h' => Directive.eq_of_spells h h'⟩
  simp only [mem_readOn_iff, Directive.onLine_eq_some_iff_shows]

/-- A name gives back the two hyphens that end the comment, and keeps the one before. -/
example : Directive.onLine "x <!--lintloom-disable-line a--->".toList = some ⟨.line, "a-"⟩ := by decide +kernel

end Tracker

end AgentLint
