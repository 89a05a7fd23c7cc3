import AgentLint.Proofs.Markdown.Reading
import Mathlib.Data.List.Forall2
import Mathlib.Data.Nat.Find

/-!
# The numbers of lines

A text with a header is known to its readers in two pieces, the header and the body, and both are numbered anew.
Two numbers lead back to the text: the offset of the body, and the line of a field.  Both are true
(`lines_of_read`): a line of the body is the line of the text with the offset added, and a field stands on the first
line of the header that starts with it.

The header is cut out of the text without its last line end, a carriage return included, and then split into lines
again.  So its lines are those of the text but for a carriage return at the end of the last one
(`lines_of_header`), which no field can begin with, since there is a colon behind the name of a field.
-/

namespace AgentLint.Frontmatter

open Text

/-! ## 1. The lines of a header -/

section Lines

variable {content : List Char} {p : Parts} {ls : List (List Char)}

/-- A line of a header and how it is split off: a carriage return at its end may be missing. -/
def Trimmed (line split : List Char) : Prop := line = split ∨ line = split ++ ['\r']

theorem forall₂_trimmed_refl (ls : List (List Char)) : List.Forall₂ Trimmed ls ls :=
  List.forall₂_same.mpr fun _ _ => .inl rfl

theorem Headed.no_feed {n : Nat} (h : Headed n content p) :
    ∀ l ∈ p.opening :: (p.inside ++ p.closing :: p.rest), '\n' ∉ l := by
  intro l hl
  rw [← h.lines] at hl
  exact not_mem_of_mem_splitOn hl

/-- The last line has no end. -/
theorem joinLines_concat (ls : List (List Char)) (l : List Char) :
    joinLines (ls ++ [l]) = ls.flatMap (· ++ ['\n']) ++ l := by
  rw [joinLines_append ls (List.cons_ne_nil l [])]
  simp [joinLines, joinWith]

theorem getLast?_flatMap_feed (ls : List (List Char)) : (ls.flatMap (· ++ ['\n'])).getLast? ≠ some '\r' := by
  by_cases hne : ls = []
  · simp [hne]
  · simp [flatMap_feed hne]

/-- **The lines of the cut out header** are those of the text, but for a carriage return at the end of the last. -/
theorem lines_of_header {n : Nat} (h : Headed (n + 1) content p) :
    List.Forall₂ Trimmed p.inside (splitLines p.block.raw) := by
  have hne : p.inside ≠ [] := List.ne_nil_of_length_pos (Nat.lt_of_lt_of_le n.succ_pos h.skips)
  have hfeed : ∀ l ∈ p.inside, '\n' ∉ l := fun l hl =>
    h.no_feed l (List.mem_cons_of_mem _ (List.mem_append_left _ hl))
  show List.Forall₂ Trimmed p.inside (splitLines (dropReturn (joinLines p.inside)))
  by_cases hlast : (joinLines p.inside).getLast? = some '\r'
  · obtain ⟨ls, l, hinside⟩ := (List.eq_nil_or_concat' p.inside).resolve_left hne
    rw [hinside] at hfeed hlast ⊢
    -- An empty last line would leave a line feed at the end, so the return is in that line.
    rcases List.eq_nil_or_concat' l with rfl | ⟨l, c, rfl⟩
    · rw [joinLines_concat, List.append_nil] at hlast
      exact absurd hlast (getLast?_flatMap_feed ls)
    · obtain rfl : c = '\r' := by simpa [joinLines_concat] using hlast
      have hcut : dropReturn (joinLines (ls ++ [l ++ ['\r']])) = joinLines (ls ++ [l]) := by
        rw [dropReturn, if_pos hlast, joinLines_concat, joinLines_concat, ← List.append_assoc, List.dropLast_concat]
      have hfeed' : ∀ l' ∈ ls ++ [l], '\n' ∉ l' := by
        simp only [List.forall_mem_append, List.forall_mem_singleton] at hfeed ⊢
        exact ⟨hfeed.1, fun hmem => hfeed.2 (List.mem_append_left _ hmem)⟩
      rw [hcut, splitLines_joinLines hfeed' (by simp)]
      exact List.rel_append (forall₂_trimmed_refl ls) (.cons (.inr rfl) .nil)
  · rw [dropReturn, if_neg hlast, splitLines_joinLines hfeed hne]
    exact forall₂_trimmed_refl p.inside

end Lines

/-! ## 2. Fields -/

/-- A line that starts with a name, blanks, and a colon. -/
def StartsField (key line : List Char) : Prop :=
  ∃ blanks rest, (∀ c ∈ blanks, isBlank c = true) ∧ line = key ++ blanks ++ ':' :: rest

section Fields

variable {content : String} {key line split : List Char}

theorem startsField_iff : startsField key line = true ↔ StartsField key line := by
  rw [startsField, Bool.and_eq_true, List.isPrefixOf_iff_prefix, decide_eq_true_iff]
  constructor
  · rintro ⟨⟨after, rfl⟩, hcolon⟩
    rw [List.drop_left] at hcolon
    obtain ⟨rest, hrest⟩ := List.head?_eq_some_iff.mp hcolon
    refine ⟨after.takeWhile isBlank, rest, fun c hc => List.mem_takeWhile_imp hc, ?_⟩
    rw [List.append_assoc, ← hrest, List.takeWhile_append_dropWhile]
  · rintro ⟨blanks, rest, hblanks, rfl⟩
    refine ⟨⟨blanks ++ ':' :: rest, (List.append_assoc _ _ _).symm⟩, ?_⟩
    rw [List.append_assoc, List.drop_left, List.dropWhile_append_of_pos hblanks]
    rfl

/-- Whether a line starts with a field does not hang on a carriage return at its end. -/
theorem startsField_trimmed (h : Trimmed line split) : startsField key line = startsField key split := by
  rcases h with rfl | rfl
  · rfl
  rw [Bool.eq_iff_iff, startsField_iff, startsField_iff]
  constructor
  · rintro ⟨blanks, rest, hblanks, heq⟩
    rcases List.eq_nil_or_concat' rest with rfl | ⟨rest, c, rfl⟩
    · have hreturn : '\r' = ':' := (List.append_inj_right' heq rfl |> List.cons.inj).1
      exact absurd hreturn (by decide)
    · refine ⟨blanks, rest, hblanks, ?_⟩
      have heq' : split ++ ['\r'] = (key ++ blanks ++ ':' :: rest) ++ [c] := by simpa using heq
      exact List.append_inj_left' heq' rfl
  · rintro ⟨blanks, rest, hblanks, rfl⟩
    exact ⟨blanks, rest ++ ['\r'], hblanks, by simp⟩

/-- A line of the text below the first line and above the closing one, by its number, that starts with a field. -/
def FieldAt (content key : List Char) (n : Nat) : Prop :=
  ∃ p, Headed 1 content p ∧ 1 < n ∧ n < p.inside.length + 2 ∧
    ∃ line, (n, line) ∈ numberFrom 1 (splitLines content) ∧ StartsField key line

/-- The fields are looked for in the lines that are split off; those of the text have the same. -/
theorem findIdx?_trimmed {ls ls' : List (List Char)} (h : List.Forall₂ Trimmed ls ls') :
    ls'.findIdx? (startsField key) = ls.findIdx? (startsField key) := by
  induction h with
  | nil => rfl
  | cons hline _ ih => rw [List.findIdx?_cons, List.findIdx?_cons, startsField_trimmed hline, ih]

theorem find?_numberFrom {α : Type} (p : α → Bool) (n : Nat) (xs : List α) :
    ((numberFrom n xs).find? fun x => p x.2).map Prod.fst = (xs.findIdx? p).map (· + n) := by
  induction xs generalizing n with
  | nil => rfl
  | cons x xs ih =>
    rw [numberFrom_cons, List.find?_cons, List.findIdx?_cons]
    cases p x with
    | true => simp
    | false =>
      show ((numberFrom (n + 1) xs).find? fun x => p x.2).map Prod.fst =
        ((xs.findIdx? p).map (· + 1)).map (· + n)
      rw [ih, Option.map_map]
      congr 1
      funext i
      simp only [Function.comp_apply]
      omega

variable {p : Parts} {n : Nat}

/-- Where a field is found, by the lines of the header. -/
theorem fieldLine?_of_headed {field : String} (hp : Headed 1 content.toList p) :
    fieldLine? content field = (p.inside.findIdx? (startsField field.toList)).map (· + 2) := by
  have hblock : block? content.toList = some p.block := block?_eq_some_iff.mpr ⟨p, hp, rfl⟩
  rw [fieldLine?, hblock]
  show ((numberFrom 2 (splitLines p.block.raw)).find? fun l => startsField field.toList l.2).map Prod.fst = _
  rw [find?_numberFrom, findIdx?_trimmed (lines_of_header hp)]

theorem fieldAt_iff (hp : Headed 1 content.toList p) :
    FieldAt content.toList key n ↔ ∃ i line, n = i + 2 ∧ p.inside[i]? = some line ∧ startsField key line = true := by
  have hget : ∀ {i}, i < p.inside.length → (splitLines content.toList)[i + 1]? = p.inside[i]? := by
    intro i hi
    rw [hp.lines, List.getElem?_cons_succ, List.getElem?_append_left hi]
  constructor
  · rintro ⟨q, hq, hone, hclosing, line, hline, hstarts⟩
    obtain ⟨j, rfl, hj⟩ := mem_numberFrom_one_iff.mp hline
    obtain ⟨i, rfl⟩ := Nat.exists_eq_succ_of_ne_zero (by omega : j ≠ 0)
    have hinside : q.inside = p.inside := congrArg Block.header (hq.block_unique hp)
    rw [hinside] at hclosing
    exact ⟨i, line, rfl, (hget (by omega)).symm.trans hj, startsField_iff.mpr hstarts⟩
  · rintro ⟨i, line, rfl, hline, hstarts⟩
    have hi : i < p.inside.length := (List.getElem?_eq_some_iff.mp hline).1
    refine ⟨p, hp, by omega, by omega, line, ?_, startsField_iff.mp hstarts⟩
    exact mem_numberFrom_one_iff.mpr ⟨i + 1, rfl, (hget hi).trans hline⟩

/-- **A field is found on the first of its lines**, and not found if it has none. -/
theorem fieldLine?_eq_some_iff {field : String} : fieldLine? content field = some n ↔
    FieldAt content.toList field.toList n ∧ ∀ m < n, ¬ FieldAt content.toList field.toList m := by
  by_cases hp : ∃ p, Headed 1 content.toList p
  · obtain ⟨p, hp⟩ := hp
    rw [fieldLine?_of_headed hp, Option.map_eq_some_iff]
    simp only [fieldAt_iff hp, List.findIdx?_eq_some_iff_getElem]
    constructor
    · rintro ⟨i, ⟨hi, hstarts, hbefore⟩, rfl⟩
      refine ⟨⟨i, _, rfl, List.getElem?_eq_getElem hi, hstarts⟩, ?_⟩
      rintro _ hm ⟨j, line, rfl, hline, hstarts'⟩
      obtain ⟨hj, rfl⟩ := List.getElem?_eq_some_iff.mp hline
      exact hbefore j (by omega) hstarts'
    · rintro ⟨⟨i, line, rfl, hline, hstarts⟩, hbefore⟩
      obtain ⟨hi, rfl⟩ := List.getElem?_eq_some_iff.mp hline
      refine ⟨i, ⟨hi, hstarts, fun j hj hstarts' => ?_⟩, rfl⟩
      exact hbefore (j + 2) (by omega) ⟨j, _, rfl, List.getElem?_eq_getElem (by omega), hstarts'⟩
  · have hnone : fieldLine? content field = none := by
      rw [fieldLine?, block?_eq_none_iff.mpr hp]
      rfl
    rw [hnone]
    refine ⟨nofun, ?_⟩
    rintro ⟨⟨p, hp', -⟩, -⟩
    exact absurd ⟨p, hp'⟩ hp

theorem fieldLine?_eq_none_iff {field : String} : fieldLine? content field = none ↔
    ¬ ∃ n, FieldAt content.toList field.toList n := by
  rw [Option.eq_none_iff_forall_ne_some]
  constructor
  · rintro h ⟨n, hn⟩
    -- Where there is a line there is a first one.
    classical
    have hex : ∃ n, FieldAt content.toList field.toList n := ⟨n, hn⟩
    exact h (Nat.find hex) (fieldLine?_eq_some_iff.mpr ⟨Nat.find_spec hex, fun m hm => Nat.find_min hex hm⟩)
  · intro h n hn
    exact h ⟨n, (fieldLine?_eq_some_iff.mp hn).1⟩

end Fields

/-! ## 3. The body -/

section Body

variable {content : String} {p : Parts}

/-- The body is the end of the text. -/
theorem Headed.body_suffix (hp : Headed 1 content.toList p) : p.body <:+ content.toList := by
  obtain ⟨tail, hcontent, ⟨rfl, hbody⟩ | rfl⟩ := hp.content_eq
  · rw [hbody]
    exact List.nil_suffix
  · refine ⟨p.opening ++ '\n' :: (p.between ++ (p.closing ++ ['\n'])), ?_⟩
    rw [hcontent]
    simp

/-- The lines after the closing line are those of the body, with the offset added. -/
theorem Headed.line_of_body (hp : Headed 1 content.toList p) (hne : p.body ≠ []) (k : Nat) :
    (splitLines p.body)[k]? = (splitLines content.toList)[p.block.offset + k]? := by
  have hrest : p.rest ≠ [] := by
    rintro hnil
    rw [Parts.body, hnil] at hne
    exact hne rfl
  have hfeed : ∀ l ∈ p.rest, '\n' ∉ l := fun l hl =>
    hp.no_feed l (List.mem_cons_of_mem _ (List.mem_append_right _ (List.mem_cons_of_mem _ hl)))
  have hlines : splitLines content.toList = (p.opening :: (p.inside ++ [p.closing])) ++ p.rest := by
    rw [hp.lines]
    simp
  have hoffset : p.block.offset = (p.opening :: (p.inside ++ [p.closing])).length := by
    simp [Block.offset, Parts.block, hrest]
  rw [Parts.body, splitLines_joinLines hfeed hrest, hlines, hoffset,
    List.getElem?_append_right (Nat.le_add_right _ _), Nat.add_sub_cancel_left]

end Body

/-! ## 4. Both numbers -/

/-- **The numbers of a text that is read are true.**  The body is an end of the text, and unless it is empty, the
`k`-th of its lines is the line of the text that is `k` behind the offset, and there are no others.  A field is on
line `n` if there is a header and `n` is the first of its lines that starts with the field, and nowhere if there is
no such line. -/
theorem lines_of_read {content : String} {f : Frontmatter} (h : read content = .ok f) :
    f.body.toList <:+ content.toList ∧
    (f.body ≠ "" → ∀ k, (splitLines f.body.toList)[k]? = (splitLines content.toList)[f.offset + k]?) ∧
    ∀ field,
      (∀ n, fieldLine? content field = some n ↔
        f.present = true ∧ FieldAt content.toList field.toList n ∧ ∀ m < n, ¬ FieldAt content.toList field.toList m) ∧
      (fieldLine? content field = none ↔ ¬ ∃ n, FieldAt content.toList field.toList n) := by
  have hbody : f.body.toList <:+ content.toList ∧
      (f.body ≠ "" → ∀ k, (splitLines f.body.toList)[k]? = (splitLines content.toList)[f.offset + k]?) := by
    rcases made_of_read h with ⟨-, rfl⟩ | ⟨p, hp, hmade⟩
    · refine ⟨List.suffix_rfl, fun _ k => ?_⟩
      rw [Nat.zero_add]
    · obtain ⟨hd, rfl⟩ : ∃ hd, f = p.made hd := by
        rcases hmade with ⟨v, -, hf⟩ | ⟨m, -, hf⟩
        · exact ⟨_, hf⟩
        · exact ⟨_, hf⟩
      have htext : (p.made hd).body.toList = p.body := String.toList_ofList
      rw [htext]
      refine ⟨hp.body_suffix, fun hne k => hp.line_of_body ?_ k⟩
      rintro hnil
      exact hne (congrArg String.ofList hnil)
  refine ⟨hbody.1, hbody.2, fun field => ⟨fun n => ?_, fieldLine?_eq_none_iff⟩⟩
  rw [fieldLine?_eq_some_iff]
  refine ⟨fun hline => ⟨?_, hline⟩, And.right⟩
  obtain ⟨p, hp, -⟩ := hline.1
  exact (present_iff h).mpr ⟨p, hp⟩

/-- With carriage returns before the line feeds, the second field of a header stands on line three, and the body
starts behind line four. -/
theorem lines_of_read_returns : ∃ f, read "---\r\na: 1\r\nb : 2\r\n---\r\nc\r\nd" = .ok f ∧ f.offset = 4 ∧
    (∀ k, (splitLines f.body.toList)[k]? =
      (splitLines "---\r\na: 1\r\nb : 2\r\n---\r\nc\r\nd".toList)[4 + k]?) ∧
    FieldAt "---\r\na: 1\r\nb : 2\r\n---\r\nc\r\nd".toList "b".toList 3 := by
  have hread : ((read "---\r\na: 1\r\nb : 2\r\n---\r\nc\r\nd").toOption.map fun f => (f.body, f.offset)) =
      some ("c\r\nd", 4) := by decide +kernel
  obtain ⟨f, hf, hpair⟩ := Option.map_eq_some_iff.mp hread
  obtain ⟨hbody, hoffset⟩ := Prod.mk.inj hpair
  obtain ⟨-, hlines, hfields⟩ := lines_of_read (eq_ok_of_toOption hf)
  have hfield : fieldLine? "---\r\na: 1\r\nb : 2\r\n---\r\nc\r\nd" "b" = some 3 := by decide +kernel
  refine ⟨f, eq_ok_of_toOption hf, hoffset, fun k => ?_, (((hfields "b").1 3).mp hfield).2.1⟩
  rw [← hoffset]
  exact hlines (by rw [hbody]; decide) k

end AgentLint.Frontmatter
