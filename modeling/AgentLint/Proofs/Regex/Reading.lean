import AgentLint.Regex.Reader
import Mathlib.Data.List.Basic
import Mathlib.Tactic.Common

/-!
# Reading tokens and sets

The reader goes from token to token.  `Cursor.before` is the cursor with some tokens in front of it, and the lemmas
`take_run` and `accept_run` say what taking one does to it.  From there on no proof looks at characters again.

A set is read member by member (`setItems_run_single`, `setItems_run_dash`, `setItems_run_range`), so what is read of
a set are the members that its characters say (`members`, `readSet_run_eq_ok`).
-/

namespace AgentLint.Regex

/-! ## 1. Steps -/

section Steps

variable {α β : Type} {m : Reading α} {f : α → Reading β} {c c' : Cursor}

theorem run_bind_ok {a : α} (h : m.run c = .ok (a, c')) : (m >>= f).run c = (f a).run c' := by
  rw [StateT.run_bind, h]
  rfl

theorem run_bind_eq_ok {b : β} {c'' : Cursor} (h : (m >>= f).run c = .ok (b, c'')) :
    ∃ a c', m.run c = .ok (a, c') ∧ (f a).run c' = .ok (b, c'') := by
  rw [StateT.run_bind] at h
  cases hm : m.run c with
  | error r =>
    rw [hm] at h
    cases h
  | ok e =>
    rw [hm] at h
    exact ⟨e.1, e.2, rfl, h⟩

end Steps

/-! ## 2. Tokens -/

/-- A token: a character other than a backslash, or a backslash and a character. -/
inductive IsToken : List Char → Prop where
  /-- A character. -/
  | plain {a : Char} (h : a ≠ '\\') : IsToken [a]
  /-- A backslash and a character. -/
  | escaped (a : Char) : IsToken ['\\', a]

/-- The cursor before some tokens. -/
def Cursor.before (c : Cursor) (offset : Nat) (ts : List (List Char)) : Cursor :=
  { c with next := ts.head?, rest := ts.tail.flatten, offset := offset }

variable {c c' : Cursor} {n : Nat} {t : List Char} {ts : List (List Char)}

@[simp]
theorem Cursor.before_flags : (c.before n ts).flags = c.flags := rfl

@[simp]
theorem Cursor.before_next : (c.before n ts).next = ts.head? := rfl

@[simp]
theorem Cursor.before_before {k : Nat} {us : List (List Char)} : (c.before n ts).before k us = c.before k us := rfl

theorem load_run (hts : ∀ t ∈ ts, IsToken t) : (load n ts.flatten).run c = .ok ((), c.before n ts) := by
  cases ts with
  | nil => rfl
  | cons t ts =>
    cases hts t List.mem_cons_self with
    | escaped a => rfl
    | @plain a ha =>
      rw [List.flatten_cons, List.singleton_append, load]
      · rfl
      · intro he
        exact absurd he ha
      · intro _ _ he
        exact absurd he ha

theorem take_run (hts : ∀ t ∈ ts, IsToken t) :
    take.run (c.before n (t :: ts)) = .ok (some t, c.before (n + t.length) ts) := by
  have hload : (load (n + t.length) ts.flatten).run (c.before n (t :: ts)) = .ok ((), c.before (n + t.length) ts) :=
    load_run hts
  rw [take, run_bind_ok (m := get) rfl]
  exact run_bind_ok hload

theorem accept_run {a : Char} (hts : ∀ t ∈ ts, IsToken t) :
    (accept a).run (c.before n ([a] :: ts)) = .ok (true, c.before (n + 1) ts) := by
  have htake := take_run (n := n) (c := c) (t := [a]) hts
  have hhead : (c.before n ([a] :: ts)).next = some [a] := rfl
  rw [accept, run_bind_ok (m := get) rfl, if_pos hhead, run_bind_ok htake]
  rfl

theorem accept_run_of_ne {a : Char} (h : ts.head? ≠ some [a]) :
    (accept a).run (c.before n ts) = .ok (false, c.before n ts) := by
  have hhead : (c.before n ts).next ≠ some [a] := h
  rw [accept, run_bind_ok (m := get) rfl, if_neg hhead]
  rfl

/-! ## 3. Sets -/

/-- How a character is written in a set. -/
def memberToken (x : Char) : List Char := if x = '\\' then ['\\', '\\'] else [x]

theorem isToken_memberToken (x : Char) : IsToken (memberToken x) := by
  unfold memberToken
  split
  · exact .escaped _
  · exact .plain ‹_›

theorem memberToken_eq_iff {x y : Char} (hy : y ≠ '\\') : memberToken x = [y] ↔ x = y := by
  unfold memberToken
  split
  · rename_i h
    subst h
    simp [hy.symm]
  · simp

theorem setMember_memberToken (x : Char) : setMember (memberToken x) = pure (.code (Text.codeOf x)) := by
  unfold memberToken
  split
  · rename_i h
    subst h
    rfl
  · rename_i h
    rw [setMember]
    intro d hd _
    exact h hd

/-- The members that the characters of a set say: a hyphen between two characters makes a range of them. -/
def members : List Char → List SetItem
  | [] => []
  | [lo, '-'] => [.code (Text.codeOf lo), .code (Text.codeOf '-')]
  | lo :: '-' :: hi :: rest => .range (Text.codeOf lo) (Text.codeOf hi) :: members rest
  | lo :: rest => .code (Text.codeOf lo) :: members rest

variable {start fuel : Nat} {acc items : List SetItem} {x y : Char}

theorem setItems_run_end (hts : ∀ t ∈ ts, IsToken t) (hacc : acc ≠ []) :
    (setItems start (fuel + 1) acc).run (c.before n ([']'] :: ts)) = .ok (acc, c.before (n + 1) ts) := by
  have hsome : acc.isEmpty = false := List.isEmpty_eq_false_iff.mpr hacc
  rw [setItems, run_bind_ok (take_run hts)]
  simp only [hsome]
  rfl

theorem not_closes (hx : x ≠ ']' ∨ acc = []) : (decide (memberToken x = [']']) && !acc.isEmpty) = false := by
  rcases hx with hx | rfl
  · simp [memberToken_eq_iff, hx]
  · simp

theorem setItems_run_single (hts : ∀ t ∈ ts, IsToken t) (hx : x ≠ ']' ∨ acc = []) (hdash : ts.head? ≠ some ['-']) :
    (setItems start (fuel + 1) acc).run (c.before n (memberToken x :: ts)) =
      (setItems start fuel (acc ++ [.code (Text.codeOf x)])).run (c.before (n + (memberToken x).length) ts) := by
  rw [setItems, run_bind_ok (take_run hts)]
  simp only [not_closes hx, setMember_memberToken, pure_bind]
  exact run_bind_ok (accept_run_of_ne hdash)

theorem isToken_dash : IsToken ['-'] := .plain (by decide)

theorem isToken_bracket : IsToken [']'] := .plain (by decide)

theorem setItems_run_dash (hts : ∀ t ∈ ts, IsToken t) (hx : x ≠ ']' ∨ acc = []) :
    (setItems start (fuel + 1) acc).run (c.before n (memberToken x :: ['-'] :: [']'] :: ts)) =
      .ok (acc ++ [.code (Text.codeOf x), .code (Text.codeOf '-')],
        c.before (n + (memberToken x).length + 1 + 1) ts) := by
  have hend : ∀ t ∈ [']'] :: ts, IsToken t := List.forall_mem_cons.mpr ⟨isToken_bracket, hts⟩
  rw [setItems, run_bind_ok (take_run (List.forall_mem_cons.mpr ⟨isToken_dash, hend⟩))]
  simp only [not_closes hx, setMember_memberToken, pure_bind]
  exact (run_bind_ok (accept_run hend)).trans (run_bind_ok (take_run hts))

/-- A range is read, if it is not refused. -/
theorem setItems_run_range {r : List SetItem × Cursor} (hts : ∀ t ∈ ts, IsToken t) (hx : x ≠ ']' ∨ acc = [])
    (hy : y ≠ ']')
    (h : (setItems start (fuel + 1) acc).run (c.before n (memberToken x :: ['-'] :: memberToken y :: ts)) = .ok r) :
    (setItems start fuel (acc ++ [.range (Text.codeOf x) (Text.codeOf y)])).run
      (c.before (n + (memberToken x).length + 1 + (memberToken y).length) ts) = .ok r := by
  have hrest : ∀ t ∈ memberToken y :: ts, IsToken t := List.forall_mem_cons.mpr ⟨isToken_memberToken y, hts⟩
  have hopen : ¬ memberToken y = [']'] := mt (memberToken_eq_iff (by decide)).mp hy
  rw [setItems, run_bind_ok (take_run (List.forall_mem_cons.mpr ⟨isToken_dash, hrest⟩))] at h
  simp only [not_closes hx, setMember_memberToken, pure_bind] at h
  have h := (run_bind_ok (accept_run hrest)).symm.trans h
  have h := (run_bind_ok (take_run hts)).symm.trans h
  simp only [hopen, if_false, setMember_memberToken, pure_bind] at h
  by_cases hord : Text.codeOf y < Text.codeOf x
  · rw [if_pos hord] at h
    obtain ⟨_, _, h, -⟩ := run_bind_eq_ok h
    cases h
  · rw [if_neg hord] at h
    exact h

theorem isToken_of_mem_members (cs : List Char) (hts : ∀ t ∈ ts, IsToken t) :
    ∀ t ∈ cs.map memberToken ++ [']'] :: ts, IsToken t := by
  intro t ht
  rcases List.mem_append.mp ht with ht | ht
  · obtain ⟨x, -, rfl⟩ := List.mem_map.mp ht
    exact isToken_memberToken x
  · exact (List.forall_mem_cons.mpr ⟨isToken_bracket, hts⟩) t ht

/-- **What is read of a set are its members.** -/
theorem setItems_run_eq_ok {cs : List Char} (hts : ∀ t ∈ ts, IsToken t) (hsome : cs ≠ [] ∨ acc ≠ [])
    (hhead : cs.head? ≠ some ']' ∨ acc = []) (htail : ']' ∉ cs.tail)
    (h : (setItems start fuel acc).run (c.before n (cs.map memberToken ++ [']'] :: ts)) = .ok (items, c')) :
    items = acc ++ members cs ∧ ∃ k, c' = c.before k ts := by
  fun_induction members cs generalizing acc n fuel with
  | case1 =>
    cases fuel with
    | zero => cases h
    | succ fuel =>
      have hacc : acc ≠ [] := hsome.resolve_left fun hne => hne rfl
      have h := (setItems_run_end hts hacc).symm.trans h
      cases h
      exact ⟨(List.append_nil _).symm, _, rfl⟩
  | case2 lo =>
    cases fuel with
    | zero => cases h
    | succ fuel =>
      have hlo : lo ≠ ']' ∨ acc = [] := hhead.imp_left fun hne he => hne (he ▸ rfl)
      have h := (setItems_run_dash hts hlo).symm.trans h
      cases h
      exact ⟨rfl, _, rfl⟩
  | case3 lo hi rest ih =>
    cases fuel with
    | zero => cases h
    | succ fuel =>
      have hlo : lo ≠ ']' ∨ acc = [] := hhead.imp_left fun hne he => hne (he ▸ rfl)
      simp only [List.tail_cons, List.mem_cons, not_or] at htail
      have h := setItems_run_range (isToken_of_mem_members rest hts) hlo (fun he => htail.2.1 he.symm) h
      have hrest : rest.head? ≠ some ']' := fun he => htail.2.2 (List.mem_of_mem_head? he)
      obtain ⟨hitems, hc⟩ := ih (.inr (by simp)) (.inl hrest) (fun hin => htail.2.2 (List.mem_of_mem_tail hin)) h
      exact ⟨by rw [hitems, List.append_assoc]; rfl, hc⟩
  | case4 lo rest hlast hrange ih =>
    cases fuel with
    | zero => cases h
    | succ fuel =>
      have hlo : lo ≠ ']' ∨ acc = [] := hhead.imp_left fun hne he => hne (he ▸ rfl)
      rw [List.tail_cons] at htail
      have hdash : (rest.map memberToken ++ [']'] :: ts).head? ≠ some ['-'] := by
        cases rest with
        | nil => simp
        | cons d rest =>
          rw [List.map_cons, List.cons_append, List.head?_cons, Ne, Option.some.injEq,
            memberToken_eq_iff (by decide)]
          rintro rfl
          cases rest with
          | nil => exact hlast rfl
          | cons hi rest => exact hrange hi rest rfl
      have h := (setItems_run_single (isToken_of_mem_members rest hts) hlo hdash).symm.trans h
      have hrest : rest.head? ≠ some ']' := fun he => htail (List.mem_of_mem_head? he)
      obtain ⟨hitems, hc⟩ := ih (.inr (by simp)) (.inl hrest) (fun hin => htail (List.mem_of_mem_tail hin)) h
      exact ⟨by rw [hitems, List.append_assoc]; rfl, hc⟩

/-- The tokens of a set behind its opening bracket. -/
def setTokens (negated : Bool) (cs : List Char) : List (List Char) :=
  (if negated then [['^']] else []) ++ (cs.map memberToken ++ [[']']])

theorem isToken_of_mem_setTokens {negated : Bool} (cs : List Char) (hts : ∀ t ∈ ts, IsToken t) :
    ∀ t ∈ setTokens negated cs ++ ts, IsToken t := by
  intro t ht
  rw [setTokens, List.append_assoc, List.append_assoc, List.singleton_append] at ht
  rcases List.mem_append.mp ht with ht | ht
  · cases negated with
    | true =>
      rw [if_pos rfl, List.mem_singleton] at ht
      exact ht ▸ .plain (by decide)
    | false => cases ht
  · exact isToken_of_mem_members cs hts t ht

theorem readSet_run_eq_ok {negated : Bool} {cs : List Char} {p : Part} (hts : ∀ t ∈ ts, IsToken t) (hsome : cs ≠ [])
    (hhead : negated = true ∨ cs.head? ≠ some '^') (htail : ']' ∉ cs.tail)
    (h : readSet.run (c.before n (setTokens negated cs ++ ts)) = .ok (p, c')) :
    p = ofItems negated (members cs) ∧ ∃ k, c' = c.before k ts := by
  have hmap := isToken_of_mem_members cs hts
  have haccept : ∃ k, (accept '^').run (c.before n (setTokens negated cs ++ ts)) =
      .ok (negated, c.before k (cs.map memberToken ++ [']'] :: ts)) := by
    cases negated with
    | true =>
      refine ⟨n + 1, ?_⟩
      rw [setTokens, if_pos rfl, List.append_assoc, List.singleton_append, List.append_assoc]
      exact accept_run hmap
    | false =>
      refine ⟨n, ?_⟩
      rw [setTokens, if_neg Bool.false_ne_true, List.nil_append, List.append_assoc]
      refine accept_run_of_ne ?_
      obtain ⟨d, ds, rfl⟩ := List.exists_cons_of_ne_nil hsome
      rw [List.map_cons, List.cons_append, List.head?_cons, Ne, Option.some.injEq, memberToken_eq_iff (by decide)]
      exact fun he => hhead.resolve_left Bool.false_ne_true (he ▸ rfl)
  obtain ⟨k, haccept⟩ := haccept
  rw [readSet, run_bind_ok (m := get) rfl] at h
  have h := (run_bind_ok haccept).symm.trans h
  obtain ⟨items, c'', hitems, h⟩ := run_bind_eq_ok h
  cases h
  obtain ⟨rfl, hc⟩ := setItems_run_eq_ok hts (.inl hsome) (.inr rfl) htail hitems
  exact ⟨rfl, hc⟩

end AgentLint.Regex
