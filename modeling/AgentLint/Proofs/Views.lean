import AgentLint.Proofs.Markdown.Reading
import AgentLint.Proofs.Rule.Instructions
import Mathlib.Data.List.Induction
import Mathlib.Logic.Function.Basic

/-!
# Reading views

The three views of a text are read through cells that are shared, and one of them is filled by way of another.  For
the reader this makes no difference: whatever was read before, a read gives what is worked out from the text alone, or
fails as that does (`Views.map_fst_read`).  Which cells are filled tells what was read (`computed_afterAll`).

What it costs cannot be seen from outside, so it is told of `Cells`, which hold the same values without the knowledge
that they are the right ones and keep a list of all computations that were run.  Cells and views answer alike and are
filled alike (`look_eq_read`), and what is in a cell was worked out once (`Counted.look`).
-/

namespace AgentLint

/-! ## 1. Views and what they show -/

/-- One of the views of a text. -/
inductive View where
  /-- Header and body. -/
  | frontmatter
  /-- The body. -/
  | body
  /-- The text with its code emptied. -/
  | prose
  deriving DecidableEq, Repr

namespace View

/-- What a view shows. -/
abbrev Shown : View → Type
  | frontmatter => Frontmatter
  | body | prose => String

/-- What a view shows of a text, worked out from the text alone. -/
def of (content : String) : (w : View) → Except Yaml.ScalarFault w.Shown
  | frontmatter => Frontmatter.read content
  | body => (Frontmatter.read content).map Frontmatter.body
  | prose => .ok (Markdown.withoutCode content)

/-- A read of `w` fills the cell of `u`: it is its own, or the one that the body is taken from. -/
def Fills (w u : View) : Prop := w = u ∨ w = body ∧ u = frontmatter

end View

namespace Views

variable {content : String}

/-- Reads a view. -/
def read (v : Views content) : (w : View) → Except Yaml.ScalarFault (w.Shown × Views content)
  | .frontmatter => v.readFrontmatter
  | .body => v.readBody
  | .prose => v.readProse

/-- What is kept of a view. -/
def kept? (v : Views content) : (w : View) → Option w.Shown
  | .frontmatter => v.frontmatter.value?
  | .body => v.body.value?
  | .prose => v.prose.value?

/-- The views after a read; one that fails leaves them as they are. -/
def after (v : Views content) (w : View) : Views content :=
  match v.read w with
  | .ok (_, v) => v
  | .error _ => v

/-- The views after some reads, one after the other. -/
def afterAll (v : Views content) (ws : List View) : Views content := ws.foldl after v

/-! ## 2. One read -/

theorem readFrontmatter_eq (v : Views content) :
    v.readFrontmatter = v.frontmatter.get.map fun f => (f.1, { v with frontmatter := .kept f }) := by
  unfold readFrontmatter
  cases v.frontmatter.get <;> rfl

theorem readProse_eq (v : Views content) :
    v.readProse = v.prose.get.map fun p => (p.1, { v with prose := .kept p }) := by
  unfold readProse
  cases v.prose.get <;> rfl

theorem readBody_of_kept {v : Views content} {b : String} (hb : v.body.value? = some b) : v.readBody = .ok (b, v) := by
  unfold readBody
  rw [hb]

theorem readBody_of_unkept {v : Views content} (hb : v.body.value? = none) :
    v.readBody = v.frontmatter.get.map fun f =>
      (f.1.body, { v with frontmatter := .kept f, body := .kept ⟨f.1.body, bodyOf_eq f.2⟩ }) := by
  unfold readBody
  rw [hb]
  cases v.frontmatter.get <;> rfl

theorem frontmatterOf_eq (content : String) : frontmatterOf content () = View.of content .frontmatter := by
  unfold frontmatterOf
  rfl

theorem bodyOf_eq_of (content : String) : bodyOf content () = View.of content .body := by
  unfold bodyOf
  rfl

theorem proseOf_eq (content : String) : proseOf content () = View.of content .prose := by
  unfold proseOf
  rfl

/-- **A read gives what is worked out from the text**, or fails as that does, whatever is kept. -/
theorem map_fst_read (v : Views content) (w : View) : (v.read w).map Prod.fst = w.of content := by
  have hfrontmatter : v.frontmatter.get.map Subtype.val = View.of content .frontmatter :=
    (Memo.get_map _).trans (frontmatterOf_eq content)
  cases w with
  | frontmatter =>
    show v.readFrontmatter.map Prod.fst = _
    rw [readFrontmatter_eq, ← hfrontmatter]
    cases v.frontmatter.get <;> rfl
  | body =>
    show v.readBody.map Prod.fst = _
    cases hb : v.body.value? with
    | some b =>
      rw [readBody_of_kept hb, ← bodyOf_eq_of, v.body.sound b hb]
      rfl
    | none =>
      have hbody : View.of content .body = (View.of content .frontmatter).map Frontmatter.body := rfl
      rw [readBody_of_unkept hb, hbody, ← hfrontmatter]
      cases v.frontmatter.get <;> rfl
  | prose =>
    have hprose : v.prose.get.map Subtype.val = View.of content .prose := (Memo.get_map _).trans (proseOf_eq content)
    show v.readProse.map Prod.fst = _
    rw [readProse_eq, ← hprose]
    cases v.prose.get <;> rfl

/-- What is kept is what is worked out. -/
theorem of_of_kept? (v : Views content) {w : View} {a : w.Shown} (h : v.kept? w = some a) : w.of content = .ok a := by
  cases w with
  | frontmatter => exact (frontmatterOf_eq content).symm.trans (v.frontmatter.sound a h)
  | body => exact (bodyOf_eq_of content).symm.trans (v.body.sound a h)
  | prose => exact (proseOf_eq content).symm.trans (v.prose.sound a h)

/-- A read that does not fail is one of a view that can be worked out. -/
theorem exists_read_iff {v : Views content} {w : View} : (∃ r, v.read w = .ok r) ↔ ∃ a, w.of content = .ok a := by
  rw [← map_fst_read v w]
  constructor
  · rintro ⟨r, hr⟩
    exact ⟨r.1, by rw [hr]; rfl⟩
  · rintro ⟨a, ha⟩
    obtain ⟨r, hr, -⟩ := map_eq_ok_iff.mp ha
    exact ⟨r, hr⟩

section After

variable {v : Views content}

theorem after_of_error {w : View} {e : Yaml.ScalarFault} (h : w.of content = .error e) : v.after w = v := by
  unfold after
  split
  · rename_i hread
    rw [← map_fst_read v w, hread] at h
    cases h
  · rfl

theorem after_of_kept {b : String} (hb : v.body.value? = some b) : v.after .body = v := by
  have hread : v.read .body = .ok (b, v) := readBody_of_kept hb
  rw [after, hread]

theorem kept?_after_frontmatter {f : Frontmatter} (h : View.of content .frontmatter = .ok f) :
    (v.after .frontmatter).kept? = Function.update v.kept? .frontmatter (some f) := by
  have hget := Memo.exists_get v.frontmatter ((frontmatterOf_eq content).trans h)
  have hread : v.read .frontmatter = _ := readFrontmatter_eq v
  rw [hget] at hread
  rw [after, hread]
  funext u
  cases u <;> rfl

theorem kept?_after_body {f : Frontmatter} (h : View.of content .frontmatter = .ok f) (hb : v.body.value? = none) :
    (v.after .body).kept? =
      Function.update (Function.update v.kept? .frontmatter (some f)) .body (some f.body) := by
  have hget := Memo.exists_get v.frontmatter ((frontmatterOf_eq content).trans h)
  have hread : v.read .body = _ := readBody_of_unkept hb
  rw [hget] at hread
  rw [after, hread]
  funext u
  cases u <;> rfl

theorem kept?_after_prose : (v.after .prose).kept? =
    Function.update v.kept? .prose (some (Markdown.withoutCode content)) := by
  have hget := Memo.exists_get v.prose (proseOf_eq content)
  have hread : v.read .prose = _ := readProse_eq v
  rw [hget] at hread
  rw [after, hread]
  funext u
  cases u <;> rfl

end After

/-! ## 3. Reads one after the other -/

/-- The cells that are filled are those that reads have filled which did not fail. -/
def Filled (ws : List View) (v : Views content) : Prop :=
  ∀ u, (v.kept? u).isSome = true ↔ ∃ w ∈ ws, w.Fills u ∧ ∃ a, w.of content = .ok a

theorem filled_unread : Filled [] (unread : Views content) := by
  intro u
  cases u <;> exact ⟨nofun, nofun⟩

/-- A read that fails fills nothing. -/
theorem Filled.of_error {ws : List View} {v : Views content} {w : View} {e : Yaml.ScalarFault} (h : Filled ws v)
    (hw : w.of content = .error e) : Filled (ws ++ [w]) v := by
  intro u
  rw [h u]
  constructor
  · rintro ⟨x, hx, hfills⟩
    exact ⟨x, List.mem_append_left _ hx, hfills⟩
  · rintro ⟨x, hx, hfills, a, ha⟩
    rcases List.mem_append.mp hx with hx | hx
    · exact ⟨x, hx, hfills, a, ha⟩
    · obtain rfl := List.mem_singleton.mp hx
      rw [hw] at ha
      cases ha

/-- A read that does not fail fills its cells, and leaves the others as they are. -/
theorem Filled.of_ok {ws : List View} {v v' : Views content} {w : View} {a : w.Shown} (h : Filled ws v)
    (hw : w.of content = .ok a)
    (hkept : ∀ u, (v'.kept? u).isSome = true ↔ (v.kept? u).isSome = true ∨ w.Fills u) : Filled (ws ++ [w]) v' := by
  intro u
  rw [hkept u, h u]
  constructor
  · rintro (⟨x, hx, hfills⟩ | hfills)
    · exact ⟨x, List.mem_append_left _ hx, hfills⟩
    · exact ⟨w, List.mem_append_right _ (List.mem_singleton_self w), hfills, a, hw⟩
  · rintro ⟨x, hx, hfills, hx'⟩
    rcases List.mem_append.mp hx with hx | hx
    · exact .inl ⟨x, hx, hfills, hx'⟩
    · obtain rfl := List.mem_singleton.mp hx
      exact .inr hfills

/-- Filling a cell fills that one. -/
theorem isSome_update {kept : (u : View) → Option u.Shown} {w : View} {a : w.Shown} {u : View} :
    (Function.update kept w (some a) u).isSome = true ↔ (kept u).isSome = true ∨ w = u := by
  by_cases h : u = w
  · subst h
    simp
  · rw [Function.update_of_ne h, or_iff_left (Ne.symm h)]

theorem Filled.after {ws : List View} {v : Views content} (h : Filled ws v) (w : View) :
    Filled (ws ++ [w]) (v.after w) := by
  cases hw : w.of content with
  | error e => exact after_of_error hw ▸ h.of_error hw
  | ok a =>
    refine h.of_ok hw fun u => ?_
    cases w with
    | frontmatter =>
      rw [kept?_after_frontmatter hw, isSome_update]
      simp [View.Fills]
    | body =>
      cases hb : v.body.value? with
      | some b =>
        -- The body was read before, and with it the cell was filled that it is taken from.
        have hbody : (v.kept? .body).isSome = true := by
          show v.body.value?.isSome = true
          rw [hb]
          rfl
        obtain ⟨x, hx, hfills, hx'⟩ := (h .body).mp hbody
        have hfrontmatter : (v.kept? .frontmatter).isSome = true := by
          refine (h .frontmatter).mpr ⟨x, hx, ?_, hx'⟩
          rcases hfills with rfl | ⟨rfl, -⟩ <;> exact .inr ⟨rfl, rfl⟩
        rw [after_of_kept hb]
        refine ⟨.inl, ?_⟩
        rintro (hu | rfl | ⟨-, rfl⟩)
        · exact hu
        · exact hbody
        · exact hfrontmatter
      | none =>
        obtain ⟨f, hf, -⟩ := map_eq_ok_iff.mp hw
        have hfills : View.Fills .body u ↔ View.frontmatter = u ∨ View.body = u := by
          cases u <;> simp [View.Fills]
        rw [kept?_after_body hf hb, isSome_update, isSome_update, or_assoc, hfills]
    | prose =>
      rw [kept?_after_prose, isSome_update]
      simp [View.Fills]

theorem filled_afterAll (ws : List View) : Filled ws ((unread : Views content).afterAll ws) := by
  induction ws using List.reverseRecOn with
  | nil => exact filled_unread
  | append_singleton ws w ih =>
    rw [afterAll, List.foldl_append]
    exact ih.after w

/-- A read of a view was among some reads, and did not fail. -/
def Succeeded (content : String) (ws : List View) (w : View) : Prop :=
  ∃ before later, ws = before ++ w :: later ∧ ∃ r, ((unread : Views content).afterAll before).read w = .ok r

theorem succeeded_iff {ws : List View} {w : View} :
    Succeeded content ws w ↔ w ∈ ws ∧ ∃ a, w.of content = .ok a := by
  unfold Succeeded
  simp only [exists_read_iff, List.mem_iff_append, exists_and_right]

/-- **Which cells are filled** after some reads: that of the frontmatter if the frontmatter or the body was read, and
each of the others if it was read itself.  Reads that failed do not count. -/
theorem computed_afterAll (ws : List View) :
    let v := (unread : Views content).afterAll ws
    (v.frontmatter.computed = true ↔ Succeeded content ws .frontmatter ∨ Succeeded content ws .body) ∧
    (v.body.computed = true ↔ Succeeded content ws .body) ∧
    (v.prose.computed = true ↔ .prose ∈ ws) := by
  intro v
  have hfilled : Filled ws v := filled_afterAll ws
  have hkept : ∀ u, (v.kept? u).isSome = true ↔ ∃ w, w.Fills u ∧ Succeeded content ws w := by
    intro u
    simp only [hfilled u, succeeded_iff]
    exact exists_congr fun w => and_left_comm
  refine ⟨(hkept .frontmatter).trans ?_, (hkept .body).trans ?_, (hkept .prose).trans ?_⟩
  · simp [View.Fills, or_and_right, exists_or]
  · simp [View.Fills]
  · simp [View.Fills, succeeded_iff, View.of]

end Views

/-! ## 4. What it costs -/

/-- The cells of the views, and the computations that were run so far, in order, with whether they succeeded. -/
structure Cells where
  /-- What is kept. -/
  kept : (w : View) → Option w.Shown
  /-- What was run. -/
  runs : List (View × Bool)

namespace Cells

/-- Nothing was read yet. -/
def empty : Cells := ⟨fun _ => none, []⟩

/-- What may fail and may fill cells. -/
abbrev Looking := ExceptT Yaml.ScalarFault (StateM Cells)

/-- Runs a computation, and notes that it was run and whether it succeeded. -/
def noting {w : View} (compute : Looking w.Shown) : Looking w.Shown := ExceptT.mk do
  let x ← compute.run
  modify fun s => { s with runs := s.runs ++ [(w, x.isOk)] }
  pure x

/-- The value of a cell; computed now unless it is there. -/
def cell {w : View} (compute : Looking w.Shown) : Looking w.Shown := do
  match (← get).kept w with
  | some a => pure a
  | none =>
    let a ← noting compute
    modify fun s => { s with kept := Function.update s.kept w (some a) }
    pure a

/-- An outcome that is there. -/
def given {α : Type} (x : Except Yaml.ScalarFault α) : Looking α := ExceptT.mk (pure x)

/-- Looks at the frontmatter. -/
def lookFrontmatter (content : String) : Looking Frontmatter :=
  cell (w := .frontmatter) (given (View.of content .frontmatter))

/-- Looks at a view.  The body is taken from the frontmatter, by way of its cell. -/
def look (content : String) : (w : View) → Looking w.Shown
  | .frontmatter => lookFrontmatter content
  | .body => cell (w := .body) do return (← lookFrontmatter content).body
  | .prose => cell (w := .prose) (given (View.of content .prose))

/-- The cells after some looks, one after the other. -/
def afterAll (content : String) (s : Cells) (ws : List View) : Cells :=
  ws.foldl (fun s w => (exec (look content w) s).2) s

/-! ### One cell -/

section Cell

variable {content : String} {w : View} {compute : Looking w.Shown} {s : Cells}

theorem exec_noting (compute : Looking w.Shown) (s : Cells) : exec (noting compute) s =
    ((exec compute s).1, ⟨(exec compute s).2.kept, (exec compute s).2.runs ++ [(w, (exec compute s).1.isOk)]⟩) := rfl

theorem exec_cell_of_kept {a : w.Shown} (h : s.kept w = some a) : exec (cell compute) s = (.ok a, s) := by
  unfold cell
  rw [exec_bind, exec_get]
  simp only [h]
  rfl

theorem exec_cell_of_unkept (h : s.kept w = none) : exec (cell compute) s = match exec compute s with
    | (.ok a, s') => (.ok a, ⟨Function.update s'.kept w (some a), s'.runs ++ [(w, true)]⟩)
    | (.error e, s') => (.error e, ⟨s'.kept, s'.runs ++ [(w, false)]⟩) := by
  unfold cell
  rw [exec_bind, exec_get]
  simp only [h]
  rw [exec_bind, exec_noting]
  cases exec compute s with
  | mk x s' => cases x <;> rfl

end Cell

/-! ### What is worked out is worked out once -/

/-- Each filled cell was worked out once, and none of the others was. -/
def Counted (s : Cells) : Prop := ∀ w, s.runs.count (w, true) = if (s.kept w).isSome then 1 else 0

section Counting

variable {content : String} {w : View} {compute : Looking w.Shown} {s : Cells}

theorem counted_empty : Counted empty := fun _ => rfl

theorem count_concat (runs : List (View × Bool)) (w u : View) (b : Bool) :
    (runs ++ [(w, b)]).count (u, true) = runs.count (u, true) + if w = u ∧ b = true then 1 else 0 := by
  rw [List.count_append, List.count_singleton]
  congr 1
  simp only [beq_iff_eq, Prod.mk.injEq]

/-- A computation that counts, and leaves the cell alone that it is for, is counted by the cell. -/
theorem Counted.cell (hs : Counted s) (hcompute : Counted (exec compute s).2)
    (halone : (exec compute s).2.kept w = s.kept w) : Counted (exec (cell compute) s).2 := by
  cases hkept : s.kept w with
  | some a => rwa [exec_cell_of_kept hkept]
  | none =>
    rw [exec_cell_of_unkept hkept]
    rw [hkept] at halone
    cases hrun : exec compute s with
    | mk x s' =>
      rw [hrun] at hcompute halone
      intro u
      have hcount := hcompute u
      cases x with
      | error e => simpa [count_concat] using hcount
      | ok a =>
        dsimp only at hcount halone ⊢
        rw [count_concat, hcount]
        by_cases hu : u = w
        · subst hu
          simp [halone]
        · simp only [Function.update_of_ne hu, Ne.symm hu, false_and, if_false, Nat.add_zero]

/-- The frontmatter is looked at without a look at the body. -/
theorem kept_lookFrontmatter_body (content : String) (s : Cells) :
    (exec (lookFrontmatter content) s).2.kept .body = s.kept .body := by
  unfold lookFrontmatter
  cases hkept : s.kept .frontmatter with
  | some f => rw [exec_cell_of_kept hkept]
  | none =>
    rw [exec_cell_of_unkept hkept]
    cases hf : View.of content .frontmatter <;> rfl

theorem Counted.lookFrontmatter (hs : Counted s) (content : String) :
    Counted (exec (lookFrontmatter content) s).2 := hs.cell (w := .frontmatter) hs rfl

/-- **No look works anything out that is there.** -/
theorem Counted.look (hs : Counted s) (content : String) (w : View) : Counted (exec (look content w) s).2 := by
  cases w with
  | frontmatter => exact hs.lookFrontmatter content
  | body =>
    have hsame : (exec (do return (← Cells.lookFrontmatter content).body : Looking String) s).2 =
        (exec (Cells.lookFrontmatter content) s).2 := by
      rw [exec_bind]
      cases exec (Cells.lookFrontmatter content) s with
      | mk x s' => cases x <;> rfl
    refine Counted.cell (w := .body) hs ?_ ?_
    · rw [hsame]
      exact hs.lookFrontmatter content
    · rw [hsame]
      exact kept_lookFrontmatter_body content s
  | prose => exact hs.cell (w := .prose) hs rfl

theorem Counted.afterAll (content : String) (ws : List View) :
    ∀ {s : Cells}, Counted s → Counted (s.afterAll content ws) := by
  induction ws with
  | nil => exact id
  | cons w ws ih => exact fun hs => ih (hs.look content w)

end Counting

/-! ### Cells and views -/

section Mirrors

variable {content : String} {s : Cells} {v : Views content}

/-- A cell that is filled from the text at once. -/
theorem exec_cell_given {w : View} (hsound : ∀ a, s.kept w = some a → w.of content = .ok a) :
    (exec (cell (given (w.of content))) s).1 = w.of content ∧
      (exec (cell (given (w.of content))) s).2.kept = match w.of content with
        | .ok a => Function.update s.kept w (some a)
        | .error _ => s.kept := by
  cases hkept : s.kept w with
  | some a =>
    rw [exec_cell_of_kept hkept, hsound a hkept]
    dsimp only
    rw [← hkept, Function.update_eq_self]
    exact ⟨rfl, rfl⟩
  | none =>
    have hgiven : exec (given (w.of content)) s = (w.of content, s) := rfl
    rw [exec_cell_of_unkept hkept, hgiven]
    cases w.of content <;> exact ⟨rfl, rfl⟩

/-- **Cells and views answer alike and are filled alike.** -/
theorem look_eq_read (h : s.kept = v.kept?) (w : View) :
    (exec (look content w) s).1 = (v.read w).map Prod.fst ∧ (exec (look content w) s).2.kept = (v.after w).kept? := by
  have hsound : ∀ w a, s.kept w = some a → w.of content = .ok a := fun w a ha =>
    v.of_of_kept? (h ▸ ha)
  rw [Views.map_fst_read]
  cases w with
  | frontmatter =>
    obtain ⟨hend, hkept⟩ := exec_cell_given (hsound .frontmatter)
    refine ⟨hend, hkept.trans ?_⟩
    cases hf : View.of content .frontmatter with
    | error e => rw [Views.after_of_error hf, ← h]
    | ok f => rw [Views.kept?_after_frontmatter hf, ← h]
  | body =>
    show (exec (cell _) s).1 = _ ∧ (exec (cell _) s).2.kept = _
    cases hb : v.body.value? with
    | some b =>
      have hkept : s.kept .body = some b := by rw [h]; exact hb
      rw [exec_cell_of_kept hkept, Views.after_of_kept hb, hsound .body b hkept]
      exact ⟨rfl, h⟩
    | none =>
      have hkept : s.kept .body = none := by rw [h]; exact hb
      obtain ⟨hend, hfilled⟩ := exec_cell_given (hsound .frontmatter)
      have hbody : View.of content .body = (View.of content .frontmatter).map Frontmatter.body := rfl
      rw [exec_cell_of_unkept hkept, exec_bind, hbody]
      cases hlook : exec (lookFrontmatter content) s with
      | mk x s' =>
        obtain rfl : x = View.of content .frontmatter := (congrArg Prod.fst hlook).symm.trans hend
        have hs' : s'.kept = _ := (congrArg (fun r => r.2.kept) hlook).symm.trans hfilled
        cases hf : View.of content .frontmatter with
        | error e =>
          rw [Views.after_of_error (hbody.trans (congrArg _ hf)), ← h, hs', hf]
          exact ⟨rfl, rfl⟩
        | ok f =>
          rw [Views.kept?_after_body hf hb, ← h]
          rw [hf] at hs'
          refine ⟨rfl, ?_⟩
          show Function.update s'.kept View.body _ = _
          rw [hs']
  | prose =>
    obtain ⟨hend, hkept⟩ := exec_cell_given (hsound .prose)
    refine ⟨hend, hkept.trans ?_⟩
    rw [Views.kept?_after_prose, ← h]
    rfl

/-- **After any reads** the cells hold what the views do, and each of them was worked out once. -/
theorem kept_afterAll (content : String) (ws : List View) :
    (empty.afterAll content ws).kept = ((Views.unread : Views content).afterAll ws).kept? := by
  induction ws using List.reverseRecOn with
  | nil =>
    funext u
    cases u <;> rfl
  | append_singleton ws w ih =>
    unfold Cells.afterAll Views.afterAll
    rw [List.foldl_append, List.foldl_append]
    exact (look_eq_read ih w).2

end Mirrors

end Cells

end AgentLint
