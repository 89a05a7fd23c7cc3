import AgentLint.Proofs.Glob.Pieces
import Mathlib.Data.List.Infix

/-!
# Matching segment by segment

A pattern without character classes in which `**` occurs as a whole segment only is a list of segments, and it matches
a path name by name.  What this means is said without pieces: `NameMatches` is about one segment and one name,
`SegmentsMatch` about the segments of a pattern and the names of a path.  `glob_segments` says that this is what
matching comes to, if no name holds a line feed.

The induction is on the segments.  A segment other than `**` becomes one piece for each of its characters, none of
which stands for a slash, so it takes the first name and no more (`fits_map_slash_iff`); `**` and the slash behind it
are one piece together, which takes whole names (`fits_deepDir_iff`).
-/

namespace AgentLint

namespace Glob

/-! ## 1. What segments match -/

/-- The characters of a segment match those of a name. -/
inductive NameMatches : List Char → List Char → Prop where
  /-- Both end. -/
  | nil : NameMatches [] []
  /-- `*` stands for any run of characters. -/
  | star {seg run cs : List Char} (rest : NameMatches seg cs) : NameMatches ('*' :: seg) (run ++ cs)
  /-- `?` stands for one. -/
  | one {seg cs : List Char} {c : Char} (rest : NameMatches seg cs) : NameMatches ('?' :: seg) (c :: cs)
  /-- Any other character stands for itself. -/
  | lit {seg cs : List Char} {c : Char} (hstar : c ≠ '*') (hone : c ≠ '?') (rest : NameMatches seg cs) :
    NameMatches (c :: seg) (c :: cs)

/-- The segments of a pattern match the names of a path. -/
inductive SegmentsMatch : List String → List String → Prop where
  /-- Both end. -/
  | nil : SegmentsMatch [] []
  /-- `**` at the end takes one name or more. -/
  | last {names : List String} (some : names ≠ []) : SegmentsMatch ["**"] names
  /-- `**` before other segments takes any names. -/
  | deep {segs dirs names : List String} (more : segs ≠ []) (rest : SegmentsMatch segs names) :
    SegmentsMatch ("**" :: segs) (dirs ++ names)
  /-- Any other segment takes one name, which it matches. -/
  | name {seg name : String} {segs names : List String} (other : seg ≠ "**")
    (first : NameMatches seg.toList name.toList) (rest : SegmentsMatch segs names) :
    SegmentsMatch (seg :: segs) (name :: names)

/-- A segment of a pattern as it is meant here: a name without classes, in which `**` does not occur unless it is all
of it. -/
structure IsSegment (seg : String) : Prop where
  isName : Path.IsName seg
  noClass : '[' ∉ seg.toList
  whole : "**".toList <:+: seg.toList → seg = "**"

instance : DecidablePred IsSegment := fun seg =>
  decidable_of_iff (Path.IsName seg ∧ '[' ∉ seg.toList ∧ ("**".toList <:+: seg.toList → seg = "**"))
    ⟨fun h => ⟨h.1, h.2.1, h.2.2⟩, fun h => ⟨h.isName, h.noClass, h.whole⟩⟩

variable {seg : String} {segs names : List String}

theorem segmentsMatch_nil_iff : SegmentsMatch [] names ↔ names = [] := by
  constructor
  · intro h
    cases h
    rfl
  · rintro rfl
    exact .nil

theorem segmentsMatch_deep_iff (hmore : segs ≠ []) : SegmentsMatch ("**" :: segs) names ↔
    ∃ dirs tail, names = dirs ++ tail ∧ SegmentsMatch segs tail := by
  constructor
  · intro h
    cases h with
    | last => exact absurd rfl hmore
    | @deep _ dirs tail _ h => exact ⟨dirs, tail, rfl, h⟩
    | name hother => exact absurd rfl hother
  · rintro ⟨dirs, tail, rfl, h⟩
    exact .deep hmore h

theorem segmentsMatch_last_iff : SegmentsMatch ["**"] names ↔ names ≠ [] := by
  constructor
  · intro h
    cases h with
    | last hsome => exact hsome
    | deep hmore => exact absurd rfl hmore
    | name hother => exact absurd rfl hother
  · exact .last

theorem segmentsMatch_name_iff (hother : seg ≠ "**") : SegmentsMatch (seg :: segs) names ↔
    ∃ name tail, names = name :: tail ∧ NameMatches seg.toList name.toList ∧ SegmentsMatch segs tail := by
  constructor
  · intro h
    cases h with
    | last => exact absurd rfl hother
    | deep => exact absurd rfl hother
    | @name _ name _ tail _ hfirst h => exact ⟨name, tail, rfl, hfirst, h⟩
  · rintro ⟨name, tail, rfl, hfirst, h⟩
    exact .name hother hfirst h

theorem SegmentsMatch.ne_nil (h : SegmentsMatch segs names) (hsegs : segs ≠ []) : names ≠ [] := by
  induction h with
  | nil => exact absurd rfl hsegs
  | last hsome => exact hsome
  | deep hmore _ ih =>
    intro he
    exact ih hmore (List.append_eq_nil_iff.mp he).2
  | name => exact List.cons_ne_nil _ _

/-! ## 2. One segment -/

/-- The piece that a character of a segment becomes. -/
def charPiece (c : Char) : Piece := if c = '*' then .star else if c = '?' then .one else .lit c

theorem charPiece_lit {c : Char} (hstar : c ≠ '*') (hone : c ≠ '?') : charPiece c = .lit c := by
  rw [charPiece, if_neg hstar, if_neg hone]

/-- **A segment becomes its characters**, whatever follows, as long as no star does. -/
theorem pieces_segment_append {cs rest : List Char} (hclass : '[' ∉ cs) (hdeep : ¬ ['*', '*'] <:+: cs)
    (hrest : rest.head? ≠ some '*') : pieces (cs ++ rest) = cs.map charPiece ++ pieces rest := by
  induction cs with
  | nil => rfl
  | cons c cs ih =>
    rw [List.mem_cons, not_or] at hclass
    have hcs := ih hclass.2 fun hin => hdeep (hin.trans (List.suffix_cons c cs).isInfix)
    rw [List.cons_append, List.map_cons, List.cons_append, ← hcs]
    by_cases hstar : c = '*'
    · subst hstar
      refine pieces_star ?_
      cases cs with
      | nil => exact hrest
      | cons d cs =>
        intro hd
        rw [List.cons_append, List.head?_cons, Option.some.injEq] at hd
        exact hdeep ⟨[], cs, by rw [hd]; rfl⟩
    · by_cases hone : c = '?'
      · subst hone
        exact pieces_one
      · rw [charPiece_lit hstar hone]
        exact pieces_lit hstar hone fun he => hclass.1 he.symm

/-- A segment matches a name as its characters say. -/
theorem fits_map_charPiece_iff {cs n : List Char} (hn : '/' ∉ n) :
    fits (cs.map charPiece) n = true ↔ NameMatches cs n := by
  induction cs generalizing n with
  | nil =>
    rw [List.map_nil, fits, List.isEmpty_iff]
    constructor
    · rintro rfl
      exact .nil
    · intro h
      cases h
      rfl
  | cons c cs ih =>
    rw [List.map_cons, fits_cons_iff]
    by_cases hstar : c = '*'
    · subst hstar
      constructor
      · rintro ⟨run, b, rfl, -, h⟩
        exact .star ((ih fun hb => hn (List.mem_append_right run hb)).mp h)
      · intro h
        cases h with
        | @star _ run b h =>
          rw [List.mem_append, not_or] at hn
          exact ⟨run, b, rfl, .star hn.1, (ih hn.2).mpr h⟩
        | lit hne => exact absurd rfl hne
    · by_cases hone : c = '?'
      · subst hone
        constructor
        · rintro ⟨_, b, rfl, hspans, h⟩
          cases hspans
          exact .one ((ih fun hb => hn (List.mem_cons_of_mem _ hb)).mp h)
        · intro h
          cases h with
          | @one _ b d h =>
            rw [List.mem_cons, not_or] at hn
            exact ⟨[d], b, rfl, .one fun he => hn.1 he.symm, (ih hn.2).mpr h⟩
          | lit _ hne => exact absurd rfl hne
      · rw [charPiece_lit hstar hone]
        constructor
        · rintro ⟨_, b, rfl, hspans, h⟩
          cases hspans
          exact .lit hstar hone ((ih fun hb => hn (List.mem_cons_of_mem _ hb)).mp h)
        · intro h
          cases h with
          | star => exact absurd rfl hstar
          | one => exact absurd rfl hone
          | @lit _ b _ _ _ h => exact ⟨[c], b, rfl, .lit c, (ih fun hb => hn (List.mem_cons_of_mem c hb)).mpr h⟩

theorem all_isInner_map_charPiece {cs : List Char} (h : '/' ∉ cs) : (cs.map charPiece).all Piece.isInner = true := by
  rw [List.all_eq_true]
  intro p hp
  obtain ⟨c, hc, rfl⟩ := List.mem_map.mp hp
  have hslash : c ≠ '/' := fun he => h (he ▸ hc)
  unfold charPiece
  split
  · rfl
  · split
    · rfl
    · exact decide_eq_true hslash

/-- **A segment takes the first name**, and what is behind the slash takes the others. -/
theorem fits_map_slash_iff {cs : List Char} {qs : List Piece} {names : List (List Char)} (hcs : '/' ∉ cs)
    (hnames : names ≠ []) (hslash : ∀ n ∈ names, '/' ∉ n) :
    fits (cs.map charPiece ++ .lit '/' :: qs) (written names) = true ↔
      ∃ n tail, names = n :: tail ∧ tail ≠ [] ∧ NameMatches cs n ∧ fits qs (written tail) = true := by
  rw [fits_slash_iff]
  constructor
  · rintro ⟨a, b, hab, ha, hb⟩
    have haslash := slash_not_mem_of_fits (all_isInner_map_charPiece hcs) ha
    obtain ⟨n, tail, rfl⟩ := List.exists_cons_of_ne_nil hnames
    cases tail with
    | nil =>
      have hwritten : written [n] = n := List.intercalate_singleton
      rw [hwritten] at hab
      exact absurd (hab ▸ List.mem_append_right a List.mem_cons_self) (hslash n List.mem_cons_self)
    | cons m tail =>
      rw [written_cons] at hab
      obtain ⟨rfl, rfl⟩ := append_slash_inj (hslash n List.mem_cons_self) haslash hab
      exact ⟨n, m :: tail, rfl, List.cons_ne_nil m tail, (fits_map_charPiece_iff haslash).mp ha, hb⟩
  · rintro ⟨n, tail, rfl, htail, hn, h⟩
    obtain ⟨m, tail, rfl⟩ := List.exists_cons_of_ne_nil htail
    exact ⟨n, written (m :: tail), written_cons, (fits_map_charPiece_iff (hslash n List.mem_cons_self)).mpr hn, h⟩

/-! ## 3. All segments -/

theorem IsSegment.no_deep (h : IsSegment seg) (hother : seg ≠ "**") : ¬ ['*', '*'] <:+: seg.toList :=
  fun hin => hother (h.whole hin)

/-- The names of a path, as matching goes through them. -/
structure Goes (names : List String) : Prop where
  ne_nil : names ≠ []
  isName : ∀ n ∈ names, Path.IsName n
  line : ∀ n ∈ names, '\n' ∉ n.toList

theorem Goes.map_ne_nil (h : Goes names) : names.map String.toList ≠ [] := mt List.map_eq_nil_iff.mp h.ne_nil

theorem Goes.no_slash (h : Goes names) : ∀ cs ∈ names.map String.toList, '/' ∉ cs := by
  intro cs hcs
  obtain ⟨n, hn, rfl⟩ := List.mem_map.mp hcs
  exact (h.isName n hn).no_slash

theorem Goes.no_line (h : Goes names) : '\n' ∉ written (names.map String.toList) := by
  rw [mem_written_iff (by decide)]
  rintro ⟨_, hmem, hin⟩
  obtain ⟨n, hn, rfl⟩ := List.mem_map.mp hmem
  exact h.line n hn hin

theorem Goes.tail {n : String} {tail : List String} (h : Goes (n :: tail)) (htail : tail ≠ []) : Goes tail :=
  ⟨htail, fun m hm => h.isName m (List.mem_cons_of_mem n hm), fun m hm => h.line m (List.mem_cons_of_mem n hm)⟩

theorem Goes.suffix {dirs tail : List String} (h : Goes (dirs ++ tail)) (htail : tail ≠ []) : Goes tail :=
  ⟨htail, fun n hn => h.isName n (List.mem_append_right dirs hn), fun n hn => h.line n (List.mem_append_right dirs hn)⟩

/-- `**` alone takes all names, and any other segment one name if there is no other. -/
theorem fits_last_iff (hseg : IsSegment seg) (hnames : Goes names) :
    fits (pieces seg.toList) (written (names.map String.toList)) = true ↔ SegmentsMatch [seg] names := by
  by_cases hdeep : seg = "**"
  · subst hdeep
    rw [segmentsMatch_last_iff]
    refine ⟨fun _ => hnames.ne_nil, fun _ => ?_⟩
    exact fits_cons_iff.mpr ⟨_, [], (List.append_nil _).symm, .deep hnames.no_line, rfl⟩
  · have hpieces : pieces (seg.toList ++ []) = seg.toList.map charPiece ++ pieces [] :=
      pieces_segment_append hseg.noClass (hseg.no_deep hdeep) nofun
    rw [List.append_nil, pieces_nil, List.append_nil] at hpieces
    rw [hpieces, segmentsMatch_name_iff hdeep]
    obtain ⟨n, tail, rfl⟩ := List.exists_cons_of_ne_nil hnames.ne_nil
    cases tail with
    | nil =>
      have hn : written ([n].map String.toList) = n.toList := List.intercalate_singleton
      rw [hn, fits_map_charPiece_iff (hnames.isName n List.mem_cons_self).no_slash]
      constructor
      · intro h
        exact ⟨n, [], rfl, h, .nil⟩
      · rintro ⟨_, _, he, h, -⟩
        cases he
        exact h
    | cons m tail =>
      constructor
      · intro h
        have hslash := slash_not_mem_of_fits (all_isInner_map_charPiece hseg.isName.no_slash) h
        exact absurd (by simp [written_cons]) hslash
      · rintro ⟨_, _, he, -, h⟩
        cases he
        cases segmentsMatch_nil_iff.mp h

/-- Segments match names as they should. -/
theorem fits_pieces_iff : ∀ {segs names : List String}, segs ≠ [] → (∀ s ∈ segs, IsSegment s) → Goes names →
    (fits (pieces (written (segs.map String.toList))) (written (names.map String.toList)) = true ↔
      SegmentsMatch segs names)
  | [], _, hsegs, _, _ => absurd rfl hsegs
  | [seg], names, _, hseg, hnames => by
    have hwritten : written ([seg].map String.toList) = seg.toList := List.intercalate_singleton
    rw [hwritten, fits_last_iff (hseg seg List.mem_cons_self) hnames]
  | seg :: seg' :: segs, names, _, hseg, hnames => by
    have hfirst := hseg seg List.mem_cons_self
    have hrest : ∀ s ∈ seg' :: segs, IsSegment s := fun s hs => hseg s (List.mem_cons_of_mem seg hs)
    have hwritten : written ((seg :: seg' :: segs).map String.toList) =
        seg.toList ++ '/' :: written ((seg' :: segs).map String.toList) := written_cons
    rw [hwritten]
    by_cases hdeep : seg = "**"
    · subst hdeep
      have hpieces : pieces ("**".toList ++ '/' :: written ((seg' :: segs).map String.toList)) =
          .deepDir :: pieces (written ((seg' :: segs).map String.toList)) := pieces_deepDir
      rw [hpieces, fits_deepDir_iff hnames.map_ne_nil hnames.no_slash,
        segmentsMatch_deep_iff (List.cons_ne_nil seg' segs)]
      constructor
      · rintro ⟨_, _, hsplit, htail, -, h⟩
        obtain ⟨dirs, tail, rfl, rfl, rfl⟩ := List.map_eq_append_iff.mp hsplit
        have htail := hnames.suffix (mt List.map_eq_nil_iff.mpr htail)
        exact ⟨dirs, tail, rfl, (fits_pieces_iff (List.cons_ne_nil seg' segs) hrest htail).mp h⟩
      · rintro ⟨dirs, tail, rfl, h⟩
        have htail := hnames.suffix (h.ne_nil (List.cons_ne_nil seg' segs))
        refine ⟨dirs.map String.toList, tail.map String.toList, List.map_append, htail.map_ne_nil, fun cs hcs => ?_,
          (fits_pieces_iff (List.cons_ne_nil seg' segs) hrest htail).mpr h⟩
        obtain ⟨d, hd, rfl⟩ := List.mem_map.mp hcs
        exact hnames.line d (List.mem_append_left tail hd)
    · rw [pieces_segment_append hfirst.noClass (hfirst.no_deep hdeep) (by simp),
        pieces_lit (by decide) (by decide) (by decide),
        fits_map_slash_iff hfirst.isName.no_slash hnames.map_ne_nil hnames.no_slash, segmentsMatch_name_iff hdeep]
      constructor
      · rintro ⟨_, _, hsplit, htail, hn, h⟩
        obtain ⟨n, tail, rfl, rfl, rfl⟩ := List.map_eq_cons_iff.mp hsplit
        have htail := hnames.tail (mt List.map_eq_nil_iff.mpr htail)
        exact ⟨n, tail, rfl, hn, (fits_pieces_iff (List.cons_ne_nil seg' segs) hrest htail).mp h⟩
      · rintro ⟨n, tail, rfl, hn, h⟩
        have htail := hnames.tail (h.ne_nil (List.cons_ne_nil seg' segs))
        exact ⟨n.toList, tail.map String.toList, rfl, htail.map_ne_nil, hn,
          (fits_pieces_iff (List.cons_ne_nil seg' segs) hrest htail).mpr h⟩

/-- **Matching is segment by segment.** -/
theorem glob_segments {segs names : List String} (hsegs : segs ≠ []) (hnames : names ≠ [])
    (hseg : ∀ s ∈ segs, IsSegment s) (hname : ∀ n ∈ names, Path.IsName n ∧ '\n' ∉ n.toList) :
    ∃ b, glob ("/".intercalate names) ("/".intercalate segs) = .ok b ∧ (b = true ↔ SegmentsMatch segs names) := by
  have hclass : '[' ∉ written (segs.map String.toList) := by
    rw [mem_written_iff (by decide)]
    rintro ⟨_, hmem, hin⟩
    obtain ⟨s, hs, rfl⟩ := List.mem_map.mp hmem
    exact (hseg s hs).noClass hin
  have hpattern : (Path.normal ("/".intercalate segs)).toList = written (segs.map String.toList) := by
    rw [Path.normal_intercalate hsegs fun s hs => (hseg s hs).isName]
    exact String.toList_intercalate
  have hpath : (Path.normal ("/".intercalate names)).toList = written (names.map String.toList) := by
    rw [Path.normal_intercalate hnames fun n hn => (hname n hn).1]
    exact String.toList_intercalate
  refine ⟨_, glob_of_plain (congrArg pieces hpattern) (any_isClass_pieces_of_not_mem hclass), ?_⟩
  rw [hpath, fits_pieces_iff hsegs hseg ⟨hnames, fun n hn => (hname n hn).1, fun n hn => (hname n hn).2⟩]

/-- A pattern with all of it: `**` takes two directories, and the last segment takes the name of a file. -/
theorem glob_segments_below_src :
    let segs := ["src", "**", "*.p?"]
    let names := ["src", "a", "b", "x.py"]
    segs ≠ [] ∧ names ≠ [] ∧ (∀ s ∈ segs, IsSegment s) ∧ (∀ n ∈ names, Path.IsName n ∧ '\n' ∉ n.toList) ∧
      glob "src/a/b/x.py" "src/**/*.p?" = .ok true ∧ SegmentsMatch segs names := by
  intro segs names
  have hsegs : ∀ s ∈ segs, IsSegment s := by decide +kernel
  have hnames : ∀ n ∈ names, Path.IsName n ∧ '\n' ∉ n.toList := by decide +kernel
  have hsome : segs ≠ [] ∧ names ≠ [] := by decide
  obtain ⟨b, hglob, hiff⟩ := glob_segments hsome.1 hsome.2 hsegs hnames
  have hpattern : "/".intercalate segs = "src/**/*.p?" := by decide +kernel
  have hpath : "/".intercalate names = "src/a/b/x.py" := by decide +kernel
  have htrue : glob "src/a/b/x.py" "src/**/*.p?" = .ok true := eq_ok_of_toOption (by decide +kernel)
  rw [hpattern, hpath, htrue] at hglob
  exact ⟨hsome.1, hsome.2, hsegs, hnames, htrue, hiff.mp (Except.ok.inj hglob).symm⟩

end Glob

end AgentLint
