import AgentLint.Markdown.Import
import AgentLint.Proofs.Text.Lines
import Mathlib.Data.List.TakeWhile

/-!
# Fenced blocks

`Layout` says what the lines of a text are, as a whole.  A line outside of the blocks has no marker.  A block starts
with a line that has one, and ends with the next line that has the same one, or with the text; in between the other
marker means nothing.  Reading the lines from the left, with the block that is open as the state, lays them out, and
there is no other way to (`layout_iff`).

The loop that empties the code and the loop that finds it keep a state of their own each.  Both follow that reading
(`emptyCode_eq`, `insideBlocks_eq`), so the text without its code, the code and the imports cannot disagree about a
line (`prose_and_code`).
-/

namespace AgentLint.Markdown

open Text

/-! ## 1. Markers -/

/-- The marker of a fence. -/
def Fence.marker : Fence → List Char
  | .backticks => "```".toList
  | .tildes => "~~~".toList

/-- A line has a marker: it starts with it, after blanks. -/
def Marks (f : Fence) (line : List Char) : Prop :=
  ∃ lead rest, (∀ c ∈ lead, isBlank c = true) ∧ line = lead ++ f.marker ++ rest

variable {f : Fence} {line : List Char}

theorem fence?_eq_some_iff : fence? line = some f ↔ Marks f line := by
  unfold fence?
  constructor
  · intro h
    have hsplit : line = line.takeWhile isBlank ++ line.dropWhile isBlank := List.takeWhile_append_dropWhile.symm
    refine ⟨line.takeWhile isBlank, (line.dropWhile isBlank).drop 3, fun c hc => List.mem_takeWhile_imp hc, ?_⟩
    generalize line.takeWhile isBlank = lead at hsplit ⊢
    generalize line.dropWhile isBlank = rest at h hsplit ⊢
    rw [hsplit]
    split at h
    · cases h
      simp [Fence.marker]
    · cases h
      simp [Fence.marker]
    · cases h
  · rintro ⟨lead, rest, hlead, rfl⟩
    rw [List.append_assoc, List.dropWhile_append_of_pos hlead]
    cases f <;> rfl

theorem fence?_eq_none_iff : fence? line = none ↔ ∀ f, ¬ Marks f line := by
  simp only [← fence?_eq_some_iff, Option.eq_none_iff_forall_ne_some, ne_eq]

/-! ## 2. The layout of a text -/

/-- What a line is to its text. -/
inductive Role where
  /-- Outside every block. -/
  | prose
  /-- Opens or closes a block. -/
  | fence
  /-- Inside a block. -/
  | code
  deriving DecidableEq, Repr

/-- Lines inside a block. -/
def asCode (inside : List (List Char)) : List (Role × List Char) := inside.map (Prod.mk .code)

/-- Lines with their roles, as they are laid out in blocks. -/
inductive Layout : List (Role × List Char) → Prop where
  /-- No lines. -/
  | nil : Layout []
  /-- A line outside of every block. -/
  | prose {line : List Char} {rest : List (Role × List Char)} (unmarked : ∀ f, ¬ Marks f line)
    (after : Layout rest) : Layout ((.prose, line) :: rest)
  /-- A block that is closed. -/
  | block {f : Fence} {opening closing : List Char} {inside : List (List Char)} {rest : List (Role × List Char)}
    (opens : Marks f opening) (unclosed : ∀ l ∈ inside, ¬ Marks f l) (closes : Marks f closing)
    (after : Layout rest) : Layout ((.fence, opening) :: (asCode inside ++ (.fence, closing) :: rest))
  /-- A block that is not. -/
  | toEnd {f : Fence} {opening : List Char} {inside : List (List Char)} (opens : Marks f opening)
    (unclosed : ∀ l ∈ inside, ¬ Marks f l) : Layout ((.fence, opening) :: asCode inside)

/-- The role of a line, given the block that is open before it, and the block open after it. -/
def roleStep (opened : Option Fence) (line : List Char) : Role × Option Fence :=
  match opened, fence? line with
  | none, none => (.prose, none)
  | none, some f => (.fence, some f)
  | some g, some f => if f = g then (.fence, none) else (.code, some g)
  | some g, none => (.code, some g)

/-- The roles of lines, given the block that is open before them. -/
def rolesFrom : Option Fence → List (List Char) → List (Role × List Char)
  | _, [] => []
  | opened, line :: rest =>
    let (role, opened) := roleStep opened line
    (role, line) :: rolesFrom opened rest

/-- The lines of a text with their roles. -/
def roles (content : List Char) : List (Role × List Char) := rolesFrom none (splitLines content)

/-- What may follow the opening of a block: lines inside it, and then its end or the end of the text. -/
def Continues (f : Fence) (rs : List (Role × List Char)) : Prop :=
  ∃ inside, (∀ l ∈ inside, ¬ Marks f l) ∧ (rs = asCode inside ∨
    ∃ closing rest, Marks f closing ∧ Layout rest ∧ rs = asCode inside ++ (.fence, closing) :: rest)

theorem Continues.layout {opening : List Char} {rs : List (Role × List Char)} (h : Continues f rs)
    (hopens : Marks f opening) : Layout ((.fence, opening) :: rs) := by
  obtain ⟨inside, hunclosed, rfl | ⟨closing, rest, hcloses, hrest, rfl⟩⟩ := h
  · exact .toEnd hopens hunclosed
  · exact .block hopens hunclosed hcloses hrest

theorem Continues.cons {rs : List (Role × List Char)} (h : Continues f rs) (hline : ¬ Marks f line) :
    Continues f ((.code, line) :: rs) := by
  obtain ⟨inside, hunclosed, h⟩ := h
  refine ⟨line :: inside, List.forall_mem_cons.mpr ⟨hline, hunclosed⟩, h.imp (fun h => ?_) ?_⟩
  · rw [h, asCode, asCode, List.map_cons]
  · rintro ⟨closing, rest, hcloses, hrest, rfl⟩
    exact ⟨closing, rest, hcloses, hrest, rfl⟩

/-- **Reading lines lays them out**, and goes on with a block that is open. -/
theorem layout_rolesFrom : ∀ ls : List (List Char),
    Layout (rolesFrom none ls) ∧ ∀ f, Continues f (rolesFrom (some f) ls)
  | [] => ⟨.nil, fun f => ⟨[], List.forall_mem_nil _, .inl rfl⟩⟩
  | line :: ls => by
    obtain ⟨hlayout, hcontinues⟩ := layout_rolesFrom ls
    cases hline : fence? line with
    | none =>
      have hunmarked := fence?_eq_none_iff.mp hline
      constructor
      · simp only [rolesFrom, roleStep, hline]
        exact .prose hunmarked hlayout
      · intro f
        simp only [rolesFrom, roleStep, hline]
        exact (hcontinues f).cons (hunmarked f)
    | some g =>
      have hmarks := fence?_eq_some_iff.mp hline
      constructor
      · simp only [rolesFrom, roleStep, hline]
        exact (hcontinues g).layout hmarks
      · intro f
        simp only [rolesFrom, roleStep, hline]
        by_cases hgf : g = f
        · subst hgf
          simp only [if_true]
          exact ⟨[], List.forall_mem_nil _, .inr ⟨line, _, hmarks, hlayout, rfl⟩⟩
        · simp only [hgf, if_false]
          refine (hcontinues f).cons fun hf => hgf ?_
          exact Option.some.inj (hline.symm.trans (fence?_eq_some_iff.mpr hf))

/-- Lines without the marker of a block that is open stand inside it. -/
theorem rolesFrom_some_append {inside : List (List Char)} (h : ∀ l ∈ inside, ¬ Marks f l) (ls : List (List Char)) :
    rolesFrom (some f) (inside ++ ls) = asCode inside ++ rolesFrom (some f) ls := by
  induction inside with
  | nil => rfl
  | cons line inside ih =>
    obtain ⟨hline, hinside⟩ := List.forall_mem_cons.mp h
    have hstep : roleStep (some f) line = (.code, some f) := by
      rw [← fence?_eq_some_iff] at hline
      unfold roleStep
      cases hg : fence? line with
      | none => rfl
      | some g =>
        have hne : g ≠ f := by
          rintro rfl
          exact hline hg
        simp only [hne, if_false]
    simp only [List.cons_append, rolesFrom, hstep, ih hinside]
    rfl

theorem map_snd_asCode (inside : List (List Char)) : (asCode inside).map Prod.snd = inside := by
  simp [asCode, Function.comp_def]

theorem rolesFrom_none_cons (hopens : Marks f line) (ls : List (List Char)) :
    rolesFrom none (line :: ls) = (.fence, line) :: rolesFrom (some f) ls := by
  simp only [rolesFrom, roleStep, fence?_eq_some_iff.mpr hopens]

theorem rolesFrom_some_cons (hcloses : Marks f line) (ls : List (List Char)) :
    rolesFrom (some f) (line :: ls) = (.fence, line) :: rolesFrom none ls := by
  simp only [rolesFrom, roleStep, fence?_eq_some_iff.mpr hcloses, if_true]

/-- Lines that are laid out are read that way. -/
theorem Layout.rolesFrom_eq {rs : List (Role × List Char)} (h : Layout rs) : rolesFrom none (rs.map Prod.snd) = rs := by
  induction h with
  | nil => rfl
  | @prose line rest hunmarked _ ih =>
    simp only [List.map_cons, rolesFrom, roleStep, fence?_eq_none_iff.mpr hunmarked, ih]
  | block hopens hunclosed hcloses _ ih =>
    rw [List.map_cons, rolesFrom_none_cons hopens, List.map_append, map_snd_asCode,
      rolesFrom_some_append hunclosed, List.map_cons, rolesFrom_some_cons hcloses, ih]
  | @toEnd f opening inside hopens hunclosed =>
    have hall := rolesFrom_some_append hunclosed []
    rw [List.append_nil] at hall
    rw [List.map_cons, rolesFrom_none_cons hopens, map_snd_asCode, hall, rolesFrom, List.append_nil]

theorem map_snd_rolesFrom (opened : Option Fence) (ls : List (List Char)) :
    (rolesFrom opened ls).map Prod.snd = ls := by
  induction ls generalizing opened with
  | nil => rfl
  | cons l ls ih => simp [rolesFrom, ih]

/-- **A text is laid out in one way**, which is how it is read. -/
theorem layout_iff {content : List Char} {rs : List (Role × List Char)} :
    Layout rs ∧ rs.map Prod.snd = splitLines content ↔ rs = roles content := by
  constructor
  · rintro ⟨hlayout, hlines⟩
    rw [roles, ← hlines, hlayout.rolesFrom_eq]
  · rintro rfl
    exact ⟨(layout_rolesFrom _).1, map_snd_rolesFrom none _⟩

/-! ## 3. The two loops -/

/-- Emptying the code follows the reading. -/
theorem emptyCode_eq (opened : Option Fence) (ls : List (List Char)) :
    emptyCode opened ls = (rolesFrom opened ls).map fun r => if r.1 = .prose then r.2 else [] := by
  induction ls generalizing opened with
  | nil => cases opened <;> rfl
  | cons line ls ih =>
    cases opened with
    | none =>
      cases hline : fence? line with
      | none => simp only [emptyCode, rolesFrom, roleStep, hline, ih, List.map_cons, if_true]
      | some f => simp [emptyCode, rolesFrom, roleStep, hline, ih]
    | some g =>
      cases hline : fence? line with
      | none => simp [emptyCode, rolesFrom, roleStep, hline, ih]
      | some f =>
        by_cases hfg : f = g
        · simp [emptyCode, rolesFrom, roleStep, hline, ih, hfg]
        · simp [emptyCode, rolesFrom, roleStep, hline, ih, hfg]

/-- So does finding it. -/
theorem insideBlocks_eq (opened : Option Fence) (n : Nat) (ls : List (List Char)) :
    insideBlocks opened (numberFrom n ls) = (numberFrom n (rolesFrom opened ls)).filterMap
      fun r => if r.2.1 = .code then some (r.1, r.2.2) else none := by
  induction ls generalizing opened n with
  | nil => cases opened <;> rfl
  | cons line ls ih =>
    rw [numberFrom_cons]
    cases opened with
    | none =>
      cases hline : fence? line with
      | none => simp [insideBlocks, rolesFrom, roleStep, hline, ih, numberFrom_cons]
      | some f => simp [insideBlocks, rolesFrom, roleStep, hline, ih, numberFrom_cons]
    | some g =>
      cases hline : fence? line with
      | none => simp [insideBlocks, rolesFrom, roleStep, hline, ih, numberFrom_cons]
      | some f =>
        by_cases hfg : f = g
        · simp [insideBlocks, rolesFrom, roleStep, hline, ih, hfg, numberFrom_cons]
        · simp [insideBlocks, rolesFrom, roleStep, hline, ih, hfg, numberFrom_cons]

/-- The lines of a text with fences and code emptied. -/
theorem proseLines_eq (content : List Char) :
    proseLines content = (roles content).map fun r => if r.1 = .prose then r.2 else [] := emptyCode_eq none _

/-- The lines inside blocks. -/
theorem codeLines_eq (content : String) : codeLines content = (numberFrom 1 (roles content.toList)).filterMap
    fun r => if r.2.1 = .code then some (r.1, String.ofList r.2.2) else none := by
  rw [codeLines, insideBlocks_eq, List.map_filterMap, roles]
  refine List.filterMap_congr fun r _ => ?_
  by_cases hcode : r.2.1 = .code
  · simp [hcode]
  · simp [hcode]

theorem length_proseLines (content : List Char) : (proseLines content).length = (splitLines content).length := by
  have hlines := congrArg List.length (map_snd_rolesFrom none (splitLines content))
  rw [List.length_map] at hlines
  rw [proseLines_eq, List.length_map, roles, hlines]

/-! ## 4. Texts without code -/

theorem Layout.unmarked {rs : List (Role × List Char)} (h : Layout rs) (hmem : (.prose, line) ∈ rs) :
    fence? line = none := by
  have hnot : ∀ inside, (Role.prose, line) ∉ asCode inside := fun inside hin => by simp [asCode] at hin
  induction h with
  | nil => cases hmem
  | prose hunmarked _ ih =>
    rcases List.mem_cons.mp hmem with he | hmem
    · cases he
      exact fence?_eq_none_iff.mpr hunmarked
    · exact ih hmem
  | block _ _ _ _ ih =>
    rcases List.mem_cons.mp hmem with he | hmem
    · cases he
    · rcases List.mem_append.mp hmem with hin | hmem
      · exact absurd hin (hnot _)
      · rcases List.mem_cons.mp hmem with he | hmem
        · cases he
        · exact ih hmem
  | toEnd _ _ =>
    rcases List.mem_cons.mp hmem with he | hmem
    · cases he
    · exact absurd hmem (hnot _)

/-- Lines without markers are outside of blocks. -/
theorem rolesFrom_of_unmarked {ls : List (List Char)} (h : ∀ l ∈ ls, fence? l = none) :
    rolesFrom none ls = ls.map (Prod.mk .prose) := by
  induction ls with
  | nil => rfl
  | cons l ls ih =>
    obtain ⟨hl, hls⟩ := List.forall_mem_cons.mp h
    simp only [rolesFrom, roleStep, hl, ih hls, List.map_cons]

section Prose

variable (content : String)

/-- A line of the text without code has no marker and no line feed. -/
theorem unmarked_of_mem_proseLines (content : List Char) {l : List Char} (hl : l ∈ proseLines content) :
    fence? l = none ∧ '\n' ∉ l := by
  obtain ⟨hlayout, hlines⟩ := layout_iff.mpr (rfl : roles content = roles content)
  rw [proseLines_eq] at hl
  obtain ⟨⟨role, line⟩, hmem, rfl⟩ := List.mem_map.mp hl
  have hline : line ∈ splitLines content := hlines ▸ List.mem_map_of_mem hmem
  by_cases hrole : role = .prose
  · subst hrole
    exact ⟨hlayout.unmarked hmem, not_mem_of_mem_splitOn hline⟩
  · simp only [hrole, if_false]
    exact ⟨rfl, List.not_mem_nil⟩

/-- **The lines of the text without code.** -/
theorem splitLines_withoutCode : splitLines (withoutCode content).toList = proseLines content.toList := by
  rw [withoutCode, String.toList_ofList]
  refine splitLines_joinLines (fun l hl => (unmarked_of_mem_proseLines _ hl).2) fun hnil => ?_
  have hlength := length_proseLines content.toList
  rw [hnil] at hlength
  exact splitOn_ne_nil _ _ (List.length_eq_zero_iff.mp hlength.symm)

/-- All of it is outside of blocks. -/
theorem roles_withoutCode :
    roles (withoutCode content).toList = (proseLines content.toList).map (Prod.mk .prose) := by
  rw [roles, splitLines_withoutCode]
  exact rolesFrom_of_unmarked fun l hl => (unmarked_of_mem_proseLines _ hl).1

theorem proseLines_withoutCode : proseLines (withoutCode content).toList = proseLines content.toList := by
  rw [proseLines_eq, roles_withoutCode]
  simp [Function.comp_def]

/-- A text without code stays as it is. -/
theorem withoutCode_withoutCode : withoutCode (withoutCode content) = withoutCode content := by
  rw [withoutCode, proseLines_withoutCode]
  rfl

theorem codeLines_withoutCode : codeLines (withoutCode content) = [] := by
  rw [codeLines_eq, roles_withoutCode, List.filterMap_eq_nil_iff]
  rintro ⟨n, role, line⟩ hmem
  obtain ⟨i, -, hget⟩ := mem_numberFrom_one_iff.mp hmem
  obtain ⟨l, -, he⟩ := List.mem_map.mp (List.mem_of_getElem? hget)
  cases he
  rfl

theorem imports_withoutCode : imports (withoutCode content) = imports content := by
  rw [imports, withoutCode_withoutCode]
  rfl

end Prose

/-! ## 5. Line by line -/

section Lines

variable {content : String} {n : Nat}

theorem mem_codeLines_iff {text : String} : (n, text) ∈ codeLines content ↔
    ∃ i line, n = i + 1 ∧ (roles content.toList)[i]? = some (.code, line) ∧ text = String.ofList line := by
  simp only [codeLines_eq, List.mem_filterMap, Prod.exists, mem_numberFrom_one_iff]
  constructor
  · rintro ⟨k, role, line, ⟨i, rfl, hget⟩, he⟩
    split at he
    · rename_i hrole
      cases he
      exact ⟨i, line, rfl, hrole ▸ hget, rfl⟩
    · cases he
  · rintro ⟨i, line, rfl, hget, rfl⟩
    exact ⟨i + 1, .code, line, ⟨i, rfl, hget⟩, rfl⟩

/-- There is nothing to import on an empty line. -/
theorem words_nil : words (withoutInlineCode []) = [] := rfl

/-- An import stands on a line outside of blocks. -/
theorem exists_prose_of_mem_imports {i : Import} (hi : i ∈ imports content) :
    ∃ k line, i.line = k + 1 ∧ (roles content.toList)[k]? = some (.prose, line) := by
  obtain ⟨⟨n, line⟩, hline, himport⟩ := List.mem_flatMap.mp hi
  obtain ⟨path, hpath, rfl⟩ := List.mem_map.mp himport
  obtain ⟨k, rfl, hget⟩ := mem_numberFrom_one_iff.mp hline
  rw [splitLines_withoutCode, proseLines_eq, List.getElem?_map, Option.map_eq_some_iff] at hget
  obtain ⟨⟨role, original⟩, hrole, rfl⟩ := hget
  by_cases hprose : role = .prose
  · subst hprose
    exact ⟨k, original, rfl, hrole⟩
  · simp only [hprose, if_false, words_nil] at hpath
    cases hpath

end Lines

/-- **The text without its code, the code and the imports are read off one layout.**  A text is laid out in blocks in
one way.  Leaving out the code keeps the lines outside of blocks as they are and empties all others, so the number of
lines stays; the code is the lines inside blocks, with their numbers.  A text without code is its own text without
code, has no code and the same imports; and no line has both an import and code. -/
theorem prose_and_code (content : String) :
    ∃ rs, (∀ rs', Layout rs' ∧ rs'.map Prod.snd = splitLines content.toList ↔ rs' = rs) ∧
      splitLines (withoutCode content).toList = rs.map (fun r => if r.1 = .prose then r.2 else []) ∧
      codeLines content = (numberFrom 1 rs).filterMap
        (fun r => if r.2.1 = .code then some (r.1, String.ofList r.2.2) else none) ∧
      lineCount (withoutCode content) = lineCount content ∧
      withoutCode (withoutCode content) = withoutCode content ∧
      codeLines (withoutCode content) = [] ∧
      imports (withoutCode content) = imports content ∧
      ∀ i ∈ imports content, ∀ code ∈ codeLines content, i.line ≠ code.1 := by
  refine ⟨roles content.toList, fun rs' => layout_iff, ?_, codeLines_eq content, ?_,
    withoutCode_withoutCode content, codeLines_withoutCode content, imports_withoutCode content, ?_⟩
  · rw [splitLines_withoutCode, proseLines_eq]
  · rw [lineCount, splitLines_withoutCode, length_proseLines, lineCount]
  · rintro i hi ⟨n, text⟩ hcode hsame
    obtain ⟨k, line, hk, hprose⟩ := exists_prose_of_mem_imports hi
    obtain ⟨j, line', hj, hcode, -⟩ := mem_codeLines_iff.mp hcode
    obtain rfl : k = j := by omega
    cases hprose.symm.trans hcode

-- The tildes of the second line are code.  Those of the fourth open a block that is never closed.
example : codeLines "```\n~~~\n```\n~~~\nx" = [(2, "~~~"), (5, "x")] := by decide +kernel

end AgentLint.Markdown
