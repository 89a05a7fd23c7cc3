import AgentLint.Path
import Mathlib.Data.List.Basic
import Mathlib.Tactic.Common

/-!
# Reading a path back

Writing a path and reading the text again gives the same path, so a text that has been normalised
once stays as it is.  The names of a path are *proper*: none is empty, a dot, or holds a slash.  What
`Path.ofString` reads is proper, and everything here is about proper paths.
-/

namespace AgentLint

/-! ## 1. Splitting what was joined -/

namespace Text

/-- The split of this library is the one of the standard library. -/
theorem splitOn_eq (stop : Char) (cs : List Char) : splitOn stop cs = cs.splitOn stop := by
  induction cs with
  | nil => rfl
  | cons c cs ih =>
    rw [List.splitOn_cons_eq_if_modifyHead, ← ih]
    by_cases h : c = stop
    · subst h
      rw [splitOn_cons_stop, if_pos (by simp)]
    · rw [if_neg (by simpa using h)]
      simp [splitOn, splitWhere, splitStep, h, List.modifyHead]

/-- Pieces that do not hold the separator come back from their join. -/
theorem splitOn_intercalate {stop : Char} {pieces : List (List Char)}
    (h : ∀ p ∈ pieces, stop ∉ p) (hne : pieces ≠ []) :
    splitOn stop ([stop].intercalate pieces) = pieces := by
  rw [splitOn_eq]
  exact List.splitOn_intercalate stop h hne

/-- No piece of a split holds the separator. -/
theorem not_mem_of_mem_splitOn {stop : Char} {cs p : List Char} (h : p ∈ splitOn stop cs) :
    stop ∉ p := by
  induction cs generalizing p with
  | nil =>
    rw [splitOn_nil, List.mem_singleton] at h
    simp [h]
  | cons c cs ih =>
    rw [splitOn_eq, List.splitOn_cons_eq_if_modifyHead, ← splitOn_eq] at h
    split at h
    · rcases List.mem_cons.mp h with rfl | h
      · simp
      · exact ih h
    · rename_i hc
      have hne : ¬ c = stop := by simpa using hc
      cases hs : splitOn stop cs with
      | nil => exact absurd hs (splitOn_ne_nil stop cs)
      | cons q qs =>
        rw [hs, List.modifyHead_cons] at h
        rcases List.mem_cons.mp h with rfl | h
        · have hq := ih (p := q) (by simp [hs])
          simp only [List.mem_cons, not_or]
          exact ⟨fun e => hne e.symm, hq⟩
        · exact ih (by simp [hs, h])

/-- Separators in front of a text are empty pieces in front of the others. -/
theorem splitOn_replicate_append (stop : Char) (k : Nat) (cs : List Char) :
    splitOn stop (List.replicate k stop ++ cs) = List.replicate k [] ++ splitOn stop cs := by
  induction k with
  | zero => rfl
  | succ k ih => simp [List.replicate_succ, splitOn_cons_stop, ih]

/-- Two equal characters side by side are on one side of a different one. -/
theorem pair_infix_append {a x : Char} (ha : a ≠ x) {l r : List Char} (h : [a, a] <:+: l ++ x :: r) :
    [a, a] <:+: l ∨ [a, a] <:+: r := by
  induction l with
  | nil =>
    rw [List.nil_append, List.infix_cons_iff, List.cons_prefix_cons] at h
    exact .inr (h.resolve_left fun h => ha h.1)
  | cons c l ih =>
    rw [List.cons_append, List.infix_cons_iff, List.cons_prefix_cons] at h
    rcases h with ⟨rfl, h⟩ | h
    · cases l with
      | nil =>
        rw [List.nil_append, List.cons_prefix_cons] at h
        exact absurd h.1 ha
      | cons d l =>
        rw [List.cons_append, List.cons_prefix_cons] at h
        obtain ⟨rfl, -⟩ := h
        exact .inl ⟨[], l, rfl⟩
    · exact (ih h).imp_left fun hl => hl.trans (List.suffix_cons c l).isInfix

/-- So they are in one of some pieces joined by it. -/
theorem pair_infix_intercalate {a x : Char} (ha : a ≠ x) {pieces : List (List Char)}
    (h : [a, a] <:+: [x].intercalate pieces) : ∃ p ∈ pieces, [a, a] <:+: p := by
  induction pieces with
  | nil => exact absurd (List.eq_nil_of_infix_nil h) (by simp)
  | cons p pieces ih =>
    cases pieces with
    | nil =>
      rw [List.intercalate_singleton] at h
      exact ⟨p, List.mem_cons_self, h⟩
    | cons q pieces =>
      rw [List.intercalate_cons_cons, List.append_assoc, List.singleton_append] at h
      rcases pair_infix_append ha h with h | h
      · exact ⟨p, List.mem_cons_self, h⟩
      · obtain ⟨p', hp', h⟩ := ih h
        exact ⟨p', List.mem_cons_of_mem p hp', h⟩

/-- The pieces of a split stand in the text. -/
theorem infix_of_mem_splitOn {stop : Char} {cs p : List Char} (h : p ∈ splitOn stop cs) : p <:+: cs := by
  rw [splitOn_eq] at h
  have hjoin : [stop].intercalate (cs.splitOn stop) = cs := List.intercalate_splitOn stop
  rw [← hjoin]
  generalize cs.splitOn stop = pieces at h
  induction pieces with
  | nil => cases h
  | cons q pieces ih =>
    cases pieces with
    | nil =>
      obtain rfl := List.mem_singleton.mp h
      exact ⟨[], [], by simp [List.intercalate_singleton]⟩
    | cons q' pieces =>
      rw [List.intercalate_cons_cons]
      rcases List.mem_cons.mp h with rfl | h
      · exact ⟨[], _, by rw [List.nil_append, List.append_assoc]⟩
      · exact (ih h).trans (List.suffix_append _ _).isInfix

end Text

namespace Path

/-! ## 2. Proper paths -/

/-- A name that a path can have. -/
structure IsName (n : String) : Prop where
  ne_empty : n ≠ ""
  ne_dot : n ≠ "."
  no_slash : '/' ∉ n.toList

instance : DecidablePred IsName := fun n =>
  decidable_of_iff (n ≠ "" ∧ n ≠ "." ∧ '/' ∉ n.toList)
    ⟨fun h => ⟨h.1, h.2.1, h.2.2⟩, fun h => ⟨h.ne_empty, h.ne_dot, h.no_slash⟩⟩

/-- A path whose names are names and that has as many leading slashes as a path can have. -/
structure Proper (p : Path) : Prop where
  slashes_le : p.slashes ≤ 2
  isName : ∀ n ∈ p.names, IsName n

theorem slashesOf_le (cs : List Char) : slashesOf cs ≤ 2 := by
  unfold slashesOf
  split <;> omega

/-- Whatever is read is proper. -/
theorem proper_ofString (s : String) : (ofString s).Proper := by
  refine ⟨slashesOf_le _, ?_⟩
  intro n hn
  simp only [ofString, namesOf, List.mem_map, List.mem_filter, Bool.and_eq_true,
    decide_eq_true_eq] at hn
  obtain ⟨cs, ⟨hcs, hne, hdot⟩, rfl⟩ := hn
  refine ⟨?_, ?_, ?_⟩
  · rw [Ne, String.ofList_eq_empty_iff]
    exact hne
  · intro h
    exact hdot (String.ofList_injective h)
  · rw [String.toList_ofList]
    exact Text.not_mem_of_mem_splitOn hcs

/-- A name with an ending of three characters or more is a name, and none of the dots. -/
theorem isName_append {front ending : String} (hf : '/' ∉ front.toList) (he : '/' ∉ ending.toList)
    (hlen : 2 < ending.toList.length) : IsName (front ++ ending) ∧ front ++ ending ≠ ".." := by
  have hshort : ∀ s : String, s.toList.length ≤ 2 → front ++ ending ≠ s := by
    intro s hs heq
    rw [← heq, String.toList_append, List.length_append] at hs
    omega
  refine ⟨⟨hshort "" (by decide), hshort "." (by decide), ?_⟩, hshort ".." (by decide)⟩
  rw [String.toList_append, List.mem_append, not_or]
  exact ⟨hf, he⟩

/-- One more name keeps a path proper. -/
theorem Proper.child {p : Path} (h : p.Proper) {n : String} (hn : IsName n) :
    (p.child n).Proper := by
  refine ⟨h.slashes_le, ?_⟩
  intro m hm
  rcases List.mem_append.mp hm with hm | hm
  · exact h.isName m hm
  · rw [List.mem_singleton] at hm
    exact hm ▸ hn

/-- So does leaving out the last one. -/
theorem Proper.parent {p : Path} (h : p.Proper) : p.parent.Proper :=
  ⟨h.slashes_le, fun n hn => h.isName n ((List.dropLast_sublist _).subset hn)⟩

/-- So does another path behind it. -/
theorem Proper.join {p q : Path} (hp : p.Proper) (hq : q.Proper) : (p.join q).Proper := by
  unfold Path.join
  split
  · exact hq
  · refine ⟨hp.slashes_le, fun n hn => ?_⟩
    rcases List.mem_append.mp hn with hn | hn
    · exact hp.isName n hn
    · exact hq.isName n hn

/-! ## 3. Texts -/

/-- The characters of a path that is not the bare dot. -/
theorem toList_text {p : Path} (h : ¬ (p.slashes = 0 ∧ p.names = [])) :
    p.text.toList =
      List.replicate p.slashes '/' ++ ['/'].intercalate (p.names.map String.toList) := by
  have h' : (p.slashes = 0 && p.names.isEmpty) = false := by
    simpa using h
  simp [text, h', String.toList_intercalate]

/-- Joined names start with no slash. -/
theorem takeWhile_slash_intercalate {ns : List String} (h : ∀ n ∈ ns, IsName n) :
    (['/'].intercalate (ns.map String.toList)).takeWhile (· = '/') = [] := by
  cases ns with
  | nil => rfl
  | cons n ns =>
    have hn := h n (by simp)
    cases hc : n.toList with
    | nil => exact absurd (String.toList_eq_nil_iff.mp hc) hn.ne_empty
    | cons c cs =>
      have hcne : c ≠ '/' := fun e => hn.no_slash (by simp [hc, e])
      cases ns with
      | nil => simp [hc, hcne]
      | cons m ms => simp [hc, hcne, List.intercalate_cons_cons]

/-- The pieces of joined names are the names. -/
theorem splitOn_names {ns : List String} (h : ∀ n ∈ ns, IsName n) (hne : ns ≠ []) :
    Text.splitOn '/' (['/'].intercalate (ns.map String.toList)) = ns.map String.toList := by
  refine Text.splitOn_intercalate ?_ (by simpa using hne)
  intro cs hcs
  obtain ⟨n, hn, rfl⟩ := List.mem_map.mp hcs
  exact (h n hn).no_slash

/-- **A proper path is read back from its text.** -/
theorem ofString_text {p : Path} (h : p.Proper) : ofString p.text = p := by
  obtain ⟨k, ns⟩ := p
  have hk : k ≤ 2 := h.slashes_le
  have hns : ∀ n ∈ ns, IsName n := h.isName
  by_cases hbare : k = 0 ∧ ns = []
  · obtain ⟨rfl, rfl⟩ := hbare
    decide
  · have htext := toList_text (p := ⟨k, ns⟩) hbare
    have hslash : slashesOf (List.replicate k '/' ++ ['/'].intercalate (ns.map String.toList)) = k := by
      have htake : (List.replicate k '/' ++
          ['/'].intercalate (ns.map String.toList)).takeWhile (· = '/') = List.replicate k '/' := by
        rw [List.takeWhile_append_of_pos (by simp), takeWhile_slash_intercalate hns, List.append_nil]
      unfold slashesOf
      rw [htake, List.length_replicate]
      have hcases : k = 0 ∨ k = 1 ∨ k = 2 := by omega
      rcases hcases with rfl | rfl | rfl <;> rfl
    have hnames : namesOf (List.replicate k '/' ++ ['/'].intercalate (ns.map String.toList)) = ns := by
      unfold namesOf
      rw [Text.splitOn_replicate_append, List.filter_append]
      have hfront : (List.replicate k ([] : List Char)).filter
          (fun n => n ≠ [] && n ≠ ['.']) = [] := by simp
      rw [hfront, List.nil_append]
      by_cases hne : ns = []
      · subst hne
        rfl
      · rw [splitOn_names hns hne]
        have hall : (ns.map String.toList).filter (fun n => n ≠ [] && n ≠ ['.'])
            = ns.map String.toList := by
          refine List.filter_eq_self.mpr ?_
          intro cs hcs
          obtain ⟨n, hn, rfl⟩ := List.mem_map.mp hcs
          have hname := hns n hn
          simp only [Bool.and_eq_true, decide_eq_true_eq]
          exact ⟨fun e => hname.ne_empty (String.toList_eq_nil_iff.mp e),
            fun e => hname.ne_dot (String.toList_injective e)⟩
        rw [hall, List.map_map]
        simp
    simp only [ofString, htext, hslash, hnames]

/-- Names with slashes between them are normalised already. -/
theorem normal_intercalate {names : List String} (hne : names ≠ []) (h : ∀ n ∈ names, IsName n) :
    normal ("/".intercalate names) = "/".intercalate names := by
  have hsome : names.isEmpty = false := List.isEmpty_eq_false_iff.mpr hne
  have htext : text ⟨0, names⟩ = "/".intercalate names := by simp [text, hsome]
  have hproper : Proper ⟨0, names⟩ := ⟨Nat.zero_le 2, h⟩
  rw [← htext, normal, ofString_text hproper]

/-- **A normalised text stays as it is.** -/
theorem normal_normal (s : String) : normal (normal s) = normal s := by
  simp only [normal, ofString_text (proper_ofString s)]

/-- Two equal characters side by side in a normalised text are so in the text, unless they are slashes. -/
theorem pair_infix_of_normal {a : Char} (ha : a ≠ '/') {s : String} (h : [a, a] <:+: (normal s).toList) :
    [a, a] <:+: s.toList := by
  by_cases hbare : (ofString s).slashes = 0 ∧ (ofString s).names = []
  · have htext : (normal s).toList = ['.'] := by
      simp [normal, text, hbare.1, hbare.2]
    rw [htext] at h
    have hlen := h.length_le
    simp at hlen
  · rw [normal, toList_text hbare] at h
    have hnames : [a, a] <:+: ['/'].intercalate ((ofString s).names.map String.toList) := by
      generalize (ofString s).slashes = k at h
      induction k with
      | zero => exact h
      | succ k ih =>
        rw [List.replicate_succ, List.cons_append, List.infix_cons_iff, List.cons_prefix_cons] at h
        exact ih (h.resolve_left fun h => ha h.1)
    obtain ⟨cs, hcs, h⟩ := Text.pair_infix_intercalate ha hnames
    obtain ⟨n, hn, rfl⟩ := List.mem_map.mp hcs
    simp only [ofString, namesOf, List.mem_map, List.mem_filter] at hn
    obtain ⟨name, ⟨hname, -⟩, rfl⟩ := hn
    rw [String.toList_ofList] at h
    exact h.trans (Text.infix_of_mem_splitOn hname)

end Path

end AgentLint
