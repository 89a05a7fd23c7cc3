import AgentLint.Proofs.FileTree.Directories
import AgentLint.Proofs.FileTree.Reading

/-!
# Paths in short form

A path may be written with dots and empty names in it, or with a slash at its end, and `Path.normal` leaves these
out.  The file system does not: it takes a dot or a slash behind the name of a file for a question about a
directory.  So a path and its short form need not lead to the same place.  They do if the path leads to a file
(`Host.stat_normal`): what was left out were then dots on the way to it, and these stay where they are.
-/

namespace AgentLint

/-! ## 1. Texts -/

theorem slashesOf_eq_zero_iff (cs : List Char) :
    Path.slashesOf cs = 0 ↔ (cs.takeWhile (· = '/')).length = 0 := by
  unfold Path.slashesOf
  generalize (cs.takeWhile (· = '/')).length = n
  rcases n with _ | _ | _ | n <;> simp

theorem slashesOf_le_length (cs : List Char) :
    Path.slashesOf cs ≤ (cs.takeWhile (· = '/')).length := by
  unfold Path.slashesOf
  generalize (cs.takeWhile (· = '/')).length = n
  rcases n with _ | _ | _ | n <;> simp

theorem isAbsolute_ofString (s : String) : (Path.ofString s).isAbsolute = s.startsWith "/" := by
  have hslash : "/".toList = ['/'] := rfl
  have habs : (Path.ofString s).isAbsolute = true ↔ ¬ (s.toList.takeWhile (· = '/')).length = 0 := by
    rw [← slashesOf_eq_zero_iff]
    exact decide_eq_true_iff
  rw [Bool.eq_iff_iff, habs, String.startsWith_string_iff, hslash]
  cases s.toList with
  | nil => simp
  | cons c cs => by_cases hc : c = '/' <;> simp [hc, Ne.symm]

/-- Pieces that were left out make a text shorter. -/
theorem Text.intercalate_filter_sublist (stop : Char) (keep : List Char → Bool) : ∀ pieces : List (List Char),
    ([stop].intercalate (pieces.filter keep)).Sublist ([stop].intercalate pieces)
  | [] => .refl _
  | [p] => by
    cases hp : keep p <;> simp [hp]
  | p :: q :: pieces => by
    have ih := Text.intercalate_filter_sublist stop keep (q :: pieces)
    rw [List.intercalate_cons_cons]
    cases hp : keep p with
    | false =>
      rw [List.filter_cons_of_neg (by simp [hp])]
      exact ih.trans (List.sublist_append_right _ _)
    | true =>
      rw [List.filter_cons_of_pos hp]
      cases hrest : (q :: pieces).filter keep with
      | nil => simp
      | cons r rest =>
        rw [hrest] at ih
        rw [List.intercalate_cons_cons]
        exact ih.append_left _

/-- The short form of a path is written with some of its characters, unless it is the bare dot. -/
theorem toList_normal_sublist {s : String} (h : ¬ ((Path.ofString s).slashes = 0 ∧ (Path.ofString s).names = [])) :
    (Path.normal s).toList.Sublist s.toList := by
  have hsplit : s.toList = List.replicate (s.toList.takeWhile (· = '/')).length '/' ++
      s.toList.dropWhile (· = '/') := by
    conv_lhs => rw [← List.takeWhile_append_dropWhile (p := (· = '/')) (l := s.toList)]
    congr 1
    refine List.eq_replicate_of_mem fun c hc => ?_
    simpa using List.all_eq_true.mp List.all_takeWhile c hc
  have hslashes : (Path.ofString s).slashes ≤ (s.toList.takeWhile (· = '/')).length :=
    slashesOf_le_length s.toList
  have hnames : (Path.ofString s).names.map String.toList =
      (Text.splitOn '/' (s.toList.dropWhile (· = '/'))).filter fun n => n ≠ [] && n ≠ ['.'] := by
    simp only [Path.ofString, Path.namesOf]
    conv_lhs => rw [hsplit, Text.splitOn_replicate_append]
    simp
  rw [Path.normal, Path.toList_text h, hnames]
  conv_rhs => rw [hsplit]
  refine .append (List.replicate_sublist_replicate _ |>.mpr hslashes) ?_
  refine (Text.intercalate_filter_sublist '/' _ _).trans ?_
  rw [Text.splitOn_eq, List.intercalate_splitOn]

/-- The short form of a path that the file system looks up is one too. -/
theorem Fits.normal {s : String} (h : Fits s) : Fits (Path.normal s) := by
  by_cases hbare : (Path.ofString s).slashes = 0 ∧ (Path.ofString s).names = []
  · have hdot : Path.normal s = "." := by simp [Path.normal, Path.text, hbare]
    rw [hdot]
    exact ⟨by decide, by decide, by decide⟩
  · have hsub := toList_normal_sublist hbare
    refine h.of_le (refusal?_of_subset h.sayable hsub.subset) ?_ (pathSize_le_of_sublist hsub)
    intro hempty
    have hnil : (Path.normal s).toList = [] := by rw [hempty]; rfl
    rw [Path.normal, Path.toList_text hbare, List.append_eq_nil_iff, List.replicate_eq_nil_iff] at hnil
    refine hbare ⟨hnil.1, ?_⟩
    have hsplit := Path.splitOn_names (Path.proper_ofString s).isName
    by_contra hne
    have hpieces := hsplit hne
    rw [hnil.2, Text.splitOn_nil] at hpieces
    obtain ⟨n, hn, hempty⟩ := List.mem_map.mp (hpieces ▸ List.mem_singleton_self ([] : List Char))
    exact ((Path.proper_ofString s).isName n hn).ne_empty (String.toList_eq_nil_iff.mp hempty)

theorem Text.mem_intercalate_iff {stop c : Char} (hc : c ≠ stop) : ∀ {pieces : List (List Char)},
    c ∈ [stop].intercalate pieces ↔ ∃ p ∈ pieces, c ∈ p
  | [] => by simp
  | [p] => by simp
  | p :: q :: pieces => by
    rw [List.intercalate_cons_cons, List.mem_append, List.mem_append, List.mem_singleton,
      Text.mem_intercalate_iff hc]
    simp [hc]

/-- A path is written with the characters of its names, slashes and dots apart. -/
theorem mem_text_iff {c : Char} (hslash : c ≠ '/') (hdot : c ≠ '.') (p : Path) :
    c ∈ p.text.toList ↔ ∃ n ∈ p.names, c ∈ n.toList := by
  by_cases hbare : p.slashes = 0 ∧ p.names = []
  · have htext : p.text = "." := by simp [Path.text, hbare]
    simp [htext, hbare.2, hdot]
  · rw [Path.toList_text hbare, List.mem_append, Text.mem_intercalate_iff hslash]
    simp [hslash]

/-- A path is refused for one of its names. -/
theorem refusal?_text_eq_none_iff (p : Path) : refusal? p.text = none ↔ ∀ n ∈ p.names, refusal? n = none := by
  simp only [refusal?_eq_none_iff]
  -- slashes and dots are no reason, and any other character of the text is one of a name
  have hiff : ∀ c, (isPathChar c = true ∧ c ≠ Char.ofNat 0) ∨
      (c ∈ p.text.toList ↔ ∃ n ∈ p.names, c ∈ n.toList) := by
    intro c
    by_cases hslash : c = '/'
    · exact .inl (by subst hslash; decide)
    by_cases hdot : c = '.'
    · exact .inl (by subst hdot; decide)
    · exact .inr (mem_text_iff hslash hdot p)
  constructor
  · intro h n hn c hc
    rcases hiff c with hplain | hc'
    · exact hplain
    · exact h c (hc'.mpr ⟨n, hn, hc⟩)
  · intro h c hc
    rcases hiff c with hplain | hc'
    · exact hplain
    · obtain ⟨n, hn, hcn⟩ := hc'.mp hc
      exact h n hn c hcn

/-! ## 2. Names -/

/-- The names of a path in short form are its names but for the dots. -/
theorem filter_rawNames (s : String) : (rawNames s).filter (· ≠ ".") = (Path.ofString s).names := by
  have hdots : ∀ pieces : List (List Char), ((pieces.filter (· ≠ [])).map String.ofList).filter (· ≠ ".") =
      (pieces.filter fun n => n ≠ [] && n ≠ ['.']).map String.ofList := by
    intro pieces
    have hdot : ∀ n : List Char, (String.ofList n ≠ ".") = (n ≠ ['.']) := fun n =>
      propext (not_congr ⟨fun h => String.ofList_injective h, fun h => h ▸ rfl⟩)
    rw [List.filter_map, List.filter_filter]
    simp only [Function.comp_def, hdot]
    congr 2
    funext n
    exact Bool.and_comm _ _
  unfold rawNames
  simp only
  split
  · rw [List.filter_append, hdots]
    simp [Path.ofString, Path.namesOf]
  · rw [hdots]
    rfl

namespace FileTree

variable {t : FileTree}

/-- Names from which some dots were left out. -/
inductive Undotted : List String → List String → Prop where
  /-- There are none. -/
  | nil : Undotted [] []
  /-- A dot is left out. -/
  | drop {names short : List String} (rest : Undotted names short) : Undotted ("." :: names) short
  /-- A name is kept. -/
  | keep (n : String) {names short : List String} (rest : Undotted names short) :
    Undotted (n :: names) (n :: short)

theorem Undotted.append_left {names short : List String} (h : Undotted names short) :
    ∀ front : List String, Undotted (front ++ names) (front ++ short)
  | [] => h
  | n :: front => .keep n (h.append_left front)

theorem Undotted.nil_left {short : List String} (h : Undotted [] short) : short = [] := by
  cases h
  rfl

theorem undotted_filter : ∀ names : List String, Undotted names (names.filter (· ≠ "."))
  | [] => .nil
  | n :: names => by
    by_cases hn : n = "."
    · subst hn
      exact .drop (undotted_filter names)
    · rw [List.filter_cons_of_pos (by simpa using hn)]
      exact .keep n (undotted_filter names)

/-- **Dots on the way to a file do not matter.** -/
theorem walkNames_undotted {onLink : Place → List String → Except Trouble Spot} {q : Place} {b : List UInt8}
    {m : Int} (honLink : ∀ start names short, Undotted names short →
      onLink start names = .ok (.at q (.file b m)) → onLink start short = .ok (.at q (.file b m)))
    {names short : List String} (h : Undotted names short) : ∀ {here : Place},
      t.walkNames true onLink here names = .ok (.at q (.file b m)) →
        t.walkNames true onLink here short = .ok (.at q (.file b m)) := by
  induction h with
  | nil => exact id
  | drop rest ih =>
    intro here hw
    rw [walkNames, if_pos rfl] at hw
    exact ih hw
  | @keep n names short rest ih =>
    intro here hw
    rw [walkNames] at hw ⊢
    by_cases hdot : n = "."
    · rw [if_pos hdot] at hw ⊢
      exact ih hw
    · rw [if_neg hdot] at hw ⊢
      by_cases hup : n = ".."
      · rw [if_pos hup] at hw ⊢
        exact ih hw
      · rw [if_neg hup] at hw ⊢
        by_cases hlong : longestName < pathSize n
        · rw [if_pos hlong] at hw
          cases hw
        rw [if_neg hlong] at hw ⊢
        cases hnode : t.node? (here ++ [n]) with
        | none =>
          simp only [hnode] at hw
          split at hw <;> cases hw
        | some node =>
          cases node with
          | dir m' =>
            simp only [hnode] at hw ⊢
            exact ih hw
          | file b' m' =>
            simp only [hnode] at hw ⊢
            cases names with
            | nil =>
              rw [rest.nil_left]
              exact hw
            | cons _ _ => cases hw
          | shut m' =>
            simp only [hnode] at hw
            cases names <;> cases hw
          | link target m' =>
            simp only [hnode, Bool.not_true, Bool.and_false, Bool.false_eq_true, if_false] at hw ⊢
            exact honLink _ _ _ (rest.append_left _) hw

theorem walk_undotted {q : Place} {b : List UInt8} {m : Int} : ∀ (links : Nat) {here : Place}
    {names short : List String}, Undotted names short →
      t.walk true links here names = .ok (.at q (.file b m)) →
        t.walk true links here short = .ok (.at q (.file b m))
  | 0, _, _, _, h, hw => by
    rw [walk] at hw ⊢
    exact walkNames_undotted (fun _ _ _ _ hl => by cases hl) h hw
  | links + 1, _, _, _, h, hw => by
    have hlinks : ∀ start names short, Undotted names short →
        t.walk true links start names = .ok (.at q (.file b m)) →
          t.walk true links start short = .ok (.at q (.file b m)) :=
      fun _ _ _ => walk_undotted links
    rw [walk] at hw ⊢
    exact walkNames_undotted hlinks h hw

end FileTree

/-! ## 3. Paths on a host -/

namespace Host

/-- **A path that leads to a file leads to it in short form.** -/
theorem stat_normal {h : Host} {path : String} {q : Place} {b : List UInt8} {m : Int}
    (hs : h.stat path = .ok (q, .file b m)) : h.stat (Path.normal path) = .ok (q, .file b m) := by
  have hproper := Path.proper_ofString path
  have hl := locate_of_stat hs
  have hw := FileTree.walk_undotted mostLinks (FileTree.undotted_filter _) (walk_of_locate hl)
  rw [filter_rawNames, ← isAbsolute_ofString] at hw
  have hshort : h.locate true (Path.normal path) = .ok (.at q (.file b m)) :=
    (locate_eq_ok_iff hproper).mpr ⟨(fits_of_locate hl).normal, hw⟩
  rw [stat, hshort]

/-- What is read from it is the same. -/
theorem readBytes_normal {h : Host} {path : String} {bytes : List UInt8} (hread : h.readBytes path = .ok bytes) :
    h.readBytes (Path.normal path) = .ok bytes := by
  obtain ⟨q, m, hs⟩ := readBytes_eq_ok_iff.mp hread
  exact readBytes_of_stat (stat_normal hs)

/-- **A look-up fails** because the path is refused, or because the file system says so. -/
theorem locate_eq_error_cases {h : Host} {follow : Bool} {path : String} {e : FileFault}
    (hl : h.locate follow path = .error e) :
    refusal? path = some e ∨ ∃ t, e = .trouble t path ∧ refusal? path = none := by
  unfold locate at hl
  cases hr : refusal? path with
  | some e' =>
    rw [hr] at hl
    exact .inl (congrArg some (Except.error.inj hl))
  | none =>
    rw [hr] at hl
    simp only at hl
    split at hl
    · exact .inr ⟨_, (Except.error.inj hl).symm, rfl⟩
    · split at hl
      · exact .inr ⟨_, (Except.error.inj hl).symm, rfl⟩
      · obtain ⟨t, -, rfl⟩ := mapError_eq_error_iff.mp hl
        exact .inr ⟨t, rfl, rfl⟩

theorem stat_eq_error_cases {h : Host} {path : String} {e : FileFault} (hs : h.stat path = .error e) :
    refusal? path = some e ∨ ∃ t, e = .trouble t path ∧ refusal? path = none := by
  unfold stat at hs
  cases hl : h.locate true path with
  | ok spot =>
    rw [hl] at hs
    cases spot <;> cases hs
    exact .inr ⟨_, rfl, (fits_of_locate hl).sayable⟩
  | error e' =>
    rw [hl] at hs
    cases hs
    exact locate_eq_error_cases hl

/-- A path that is refused is not looked up. -/
theorem locate_of_refusal? {h : Host} {follow : Bool} {path : String} {e : FileFault}
    (hr : refusal? path = some e) : h.locate follow path = .error e := by
  unfold locate
  rw [hr]

theorem stat_of_refusal? {h : Host} {path : String} {e : FileFault} (hr : refusal? path = some e) :
    h.stat path = .error e := by
  unfold stat
  rw [locate_of_refusal? hr]

theorem readBytes_of_refusal? {h : Host} {path : String} {e : FileFault} (hr : refusal? path = some e) :
    h.readBytes path = .error e := by
  unfold readBytes
  rw [stat_of_refusal? hr]

/-- Whatever else goes wrong with reading a file, the file system says so. -/
theorem fromSystem_of_readBytes {h : Host} {path : String} (hsay : refusal? path = none) {e : FileFault}
    (hread : h.readBytes path = .error e) : e.fromSystem = true := by
  unfold readBytes at hread
  cases hs : h.stat path with
  | ok found =>
    obtain ⟨q, node⟩ := found
    rw [hs] at hread
    cases node <;> cases hread <;> rfl
  | error e' =>
    rw [hs] at hread
    cases hread
    rcases stat_eq_error_cases hs with hno | ⟨t, rfl, -⟩
    · cases hsay.symm.trans hno
    · rfl

end Host

end AgentLint
