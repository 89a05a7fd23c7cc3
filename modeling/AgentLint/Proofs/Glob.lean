import AgentLint.Glob
import AgentLint.Proofs.Path

/-!
# What a pattern matches

A pattern without character classes matches a text piece by piece: `fits_cons_iff` says that its first piece stands
for the first characters (`Piece.Spans`) and the others match the rest.  From there on it is about names.  Patterns
of names match a path name by name (`fits_joined_iff`), and behind `**/` they match its last names, if a line feed
is in none of the names before them (`fits_deepDir_joined_iff`).
-/

namespace AgentLint

namespace Glob

/-! ## 1. Patterns and paths -/

theorem glob_normal (path pattern : String) : glob (Path.normal path) pattern = glob path pattern := by
  have h : ∀ g : Glob, g.accepts (Path.normal path) = g.accepts path := by
    intro g
    cases g <;> simp only [accepts, Path.normal_normal]
  simp only [glob, h]

/-- A pattern without character classes can be made ready. -/
theorem exists_compile_of_plain {pattern : String}
    (h : (pieces (Path.normal pattern).toList).any Piece.isClass = false) :
    ∃ g, compile pattern = .ok g :=
  ⟨.plain (pieces (Path.normal pattern).toList), by rw [compile, h]; rfl⟩

/-- Without refused patterns, a list of patterns matches if one of them does. -/
theorem globAny_of_compile {path : String} {ps : List String}
    (h : ∀ p ∈ ps, ∃ g, compile p = .ok g) :
    globAny path ps = .ok (ps.any fun p => (glob path p).toOption == some true) := by
  induction ps with
  | nil => rfl
  | cons p ps ih =>
    obtain ⟨g, hg⟩ := h p List.mem_cons_self
    have ih' := ih fun q hq => h q (List.mem_cons_of_mem _ hq)
    obtain ⟨b, hglob⟩ : ∃ b, glob path p = .ok b := ⟨g.accepts path, by rw [glob, hg, Except.map]⟩
    rw [globAny, List.any_cons, hglob, ih']
    cases b <;> rfl

/-- Without character classes the pieces decide. -/
theorem glob_of_plain {path pattern : String} {ps : List Piece} (hps : pieces (Path.normal pattern).toList = ps)
    (hplain : ps.any Piece.isClass = false) :
    glob path pattern = .ok (fits ps (Path.normal path).toList) := by
  rw [glob, compile, hps, hplain]
  rfl

/-! ## 2. Pieces -/

/-- `p.Spans cs`: the piece `p` stands for the characters `cs`.  A class stands for none. -/
inductive Piece.Spans : Piece → List Char → Prop where
  /-- The character itself. -/
  | lit (c : Char) : Spans (.lit c) [c]
  /-- A character of a name. -/
  | one {c : Char} (inner : c ≠ '/') : Spans .one [c]
  /-- Characters of a name. -/
  | star {cs : List Char} (inner : '/' ∉ cs) : Spans .star cs
  /-- Characters of a line. -/
  | deep {cs : List Char} (line : '\n' ∉ cs) : Spans .deep cs
  /-- No directory. -/
  | here : Spans .deepDir []
  /-- A directory that is written in a line. -/
  | deepDir {cs : List Char} (line : '\n' ∉ cs) : Spans .deepDir (cs ++ ['/'])

variable {k : List Char → Bool}

theorem taking_iff {p : Char → Bool} {cs : List Char} :
    taking p k cs = true ↔ ∃ c b, cs = c :: b ∧ p c = true ∧ k b = true := by
  cases cs with
  | nil => exact ⟨nofun, nofun⟩
  | cons c cs =>
    rw [taking, Bool.and_eq_true]
    constructor
    · intro h
      exact ⟨c, cs, rfl, h⟩
    · rintro ⟨c, b, hcs, h⟩
      cases hcs
      exact h

theorem skipping_iff {x : Char} : ∀ {cs : List Char}, skipping (· ≠ x) k cs = true ↔
    ∃ a b, cs = a ++ b ∧ x ∉ a ∧ k b = true
  | [] => by
    rw [skipping]
    constructor
    · intro h
      exact ⟨[], [], rfl, List.not_mem_nil, h⟩
    · rintro ⟨a, b, hab, -, h⟩
      rw [(List.append_eq_nil_iff.mp hab.symm).2] at h
      exact h
  | c :: cs => by
    rw [skipping, Bool.or_eq_true, Bool.and_eq_true, skipping_iff, decide_eq_true_eq]
    constructor
    · rintro (h | ⟨hc, a, b, rfl, ha, h⟩)
      · exact ⟨[], c :: cs, rfl, List.not_mem_nil, h⟩
      · refine ⟨c :: a, b, rfl, ?_, h⟩
        rw [List.mem_cons, not_or]
        exact ⟨fun he => hc he.symm, ha⟩
    · rintro ⟨a, b, hab, ha, h⟩
      cases a with
      | nil =>
        cases hab
        exact .inl h
      | cons a as =>
        cases hab
        rw [List.mem_cons, not_or] at ha
        exact .inr ⟨fun he => ha.1 he.symm, as, b, rfl, ha.2, h⟩

theorem afterSlash_iff : ∀ {cs : List Char}, afterSlash k cs = true ↔
    ∃ a b, cs = a ++ '/' :: b ∧ '\n' ∉ a ∧ k b = true
  | [] => ⟨nofun, fun ⟨a, b, hab, _⟩ => absurd hab.symm (by simp)⟩
  | c :: cs => by
    rw [afterSlash, Bool.and_eq_true, Bool.or_eq_true, Bool.and_eq_true, afterSlash_iff, decide_eq_true_eq,
      decide_eq_true_eq]
    constructor
    · rintro ⟨hc, ⟨rfl, h⟩ | ⟨a, b, rfl, ha, h⟩⟩
      · exact ⟨[], cs, rfl, List.not_mem_nil, h⟩
      · refine ⟨c :: a, b, rfl, ?_, h⟩
        rw [List.mem_cons, not_or]
        exact ⟨fun he => hc he.symm, ha⟩
    · rintro ⟨a, b, hab, ha, h⟩
      cases a with
      | nil =>
        cases hab
        exact ⟨by decide, .inl ⟨rfl, h⟩⟩
      | cons a as =>
        cases hab
        rw [List.mem_cons, not_or] at ha
        exact ⟨fun he => ha.1 he.symm, .inr ⟨as, b, rfl, ha.2, h⟩⟩

/-- **The first piece stands for the first characters**, and the others match the rest. -/
theorem fits_cons_iff {p : Piece} {ps : List Piece} {cs : List Char} :
    fits (p :: ps) cs = true ↔ ∃ a b, cs = a ++ b ∧ p.Spans a ∧ fits ps b = true := by
  cases p with
  | lit x =>
    rw [fits, taking_iff]
    constructor
    · rintro ⟨c, b, rfl, hc, h⟩
      rw [decide_eq_true_eq.mp hc]
      exact ⟨[x], b, rfl, .lit x, h⟩
    · rintro ⟨_, b, rfl, ⟨⟩, h⟩
      exact ⟨x, b, rfl, decide_eq_true rfl, h⟩
  | one =>
    rw [fits, taking_iff]
    constructor
    · rintro ⟨c, b, rfl, hc, h⟩
      exact ⟨[c], b, rfl, .one (decide_eq_true_eq.mp hc), h⟩
    · rintro ⟨_, b, rfl, hspans, h⟩
      cases hspans with
      | one hc => exact ⟨_, b, rfl, decide_eq_true hc, h⟩
  | star =>
    rw [fits, skipping_iff]
    constructor
    · rintro ⟨a, b, rfl, ha, h⟩
      exact ⟨a, b, rfl, .star ha, h⟩
    · rintro ⟨a, b, rfl, hspans, h⟩
      cases hspans with
      | star ha => exact ⟨a, b, rfl, ha, h⟩
  | deep =>
    rw [fits, skipping_iff]
    constructor
    · rintro ⟨a, b, rfl, ha, h⟩
      exact ⟨a, b, rfl, .deep ha, h⟩
    · rintro ⟨a, b, rfl, hspans, h⟩
      cases hspans with
      | deep ha => exact ⟨a, b, rfl, ha, h⟩
  | deepDir =>
    rw [fits, Bool.or_eq_true, afterSlash_iff]
    constructor
    · rintro (h | ⟨a, b, rfl, ha, h⟩)
      · exact ⟨[], cs, rfl, .here, h⟩
      · exact ⟨a ++ ['/'], b, (List.append_cons a '/' b), .deepDir ha, h⟩
    · rintro ⟨a, b, rfl, hspans, h⟩
      cases hspans with
      | here => exact .inl h
      | deepDir ha => exact .inr ⟨_, b, by simp, ha, h⟩
  | cls body => exact ⟨nofun, nofun⟩

theorem fits_append_iff : ∀ {ps qs : List Piece} {cs : List Char},
    fits (ps ++ qs) cs = true ↔ ∃ a b, cs = a ++ b ∧ fits ps a = true ∧ fits qs b = true
  | [], qs, cs => by
    constructor
    · intro h
      exact ⟨[], cs, rfl, rfl, h⟩
    · rintro ⟨a, b, rfl, ha, h⟩
      rw [fits, List.isEmpty_iff] at ha
      rw [ha]
      exact h
  | p :: ps, qs, cs => by
    rw [List.cons_append, fits_cons_iff]
    constructor
    · rintro ⟨a, _, rfl, ha, h⟩
      obtain ⟨b, c, rfl, hb, hc⟩ := fits_append_iff.mp h
      exact ⟨a ++ b, c, (List.append_assoc a b c).symm, fits_cons_iff.mpr ⟨a, b, rfl, ha, hb⟩, hc⟩
    · rintro ⟨_, c, rfl, hab, hc⟩
      obtain ⟨a, b, rfl, ha, hb⟩ := fits_cons_iff.mp hab
      exact ⟨a, b ++ c, List.append_assoc a b c, ha, fits_append_iff.mpr ⟨b, c, rfl, hb, hc⟩⟩

theorem fits_lits_iff : ∀ {x cs : List Char}, fits (x.map .lit) cs = true ↔ cs = x
  | [], cs => by rw [List.map_nil, fits, List.isEmpty_iff]
  | c :: x, cs => by
    rw [List.map_cons, fits_cons_iff]
    constructor
    · rintro ⟨_, b, rfl, ⟨⟩, h⟩
      rw [fits_lits_iff.mp h]
      rfl
    · rintro rfl
      exact ⟨[c], x, rfl, .lit c, fits_lits_iff.mpr rfl⟩

theorem fits_star_lits_iff {x cs : List Char} :
    fits (.star :: x.map .lit) cs = true ↔ ∃ a, cs = a ++ x ∧ '/' ∉ a := by
  rw [fits_cons_iff]
  constructor
  · rintro ⟨a, b, rfl, hspans, h⟩
    rw [fits_lits_iff.mp h]
    cases hspans with
    | star ha => exact ⟨a, rfl, ha⟩
  · rintro ⟨a, rfl, ha⟩
    exact ⟨a, x, rfl, .star ha, fits_lits_iff.mpr rfl⟩

/-! ## 3. Names -/

/-- Whether a piece stands for characters of one name. -/
def Piece.isInner : Piece → Bool
  | .lit c => c ≠ '/'
  | .one | .star => true
  | .deep | .deepDir | .cls _ => false

theorem Piece.Spans.slash_not_mem {p : Piece} {cs : List Char} (h : p.Spans cs) (hp : p.isInner = true) :
    '/' ∉ cs := by
  cases h with
  | lit c =>
    rw [List.mem_singleton]
    exact fun he => (decide_eq_true_eq.mp hp) he.symm
  | one hc =>
    rw [List.mem_singleton]
    exact fun he => hc he.symm
  | star hc => exact hc
  | deep => cases hp
  | here => cases hp
  | deepDir => cases hp

/-- A pattern of a name matches no slash. -/
theorem slash_not_mem_of_fits : ∀ {ps : List Piece} {cs : List Char}, ps.all Piece.isInner = true →
    fits ps cs = true → '/' ∉ cs
  | [], cs, _, h => by
    rw [fits, List.isEmpty_iff] at h
    rw [h]
    exact List.not_mem_nil
  | p :: ps, cs, hps, h => by
    rw [List.all_cons, Bool.and_eq_true] at hps
    obtain ⟨a, b, rfl, ha, hb⟩ := fits_cons_iff.mp h
    rw [List.mem_append, not_or]
    exact ⟨ha.slash_not_mem hps.1, slash_not_mem_of_fits hps.2 hb⟩

/-- A pattern of a name, a slash, and more. -/
theorem fits_slash_iff {ps qs : List Piece} {cs : List Char} :
    fits (ps ++ .lit '/' :: qs) cs = true ↔ ∃ a b, cs = a ++ '/' :: b ∧ fits ps a = true ∧ fits qs b = true := by
  rw [fits_append_iff]
  constructor
  · rintro ⟨a, _, rfl, ha, h⟩
    obtain ⟨_, b, rfl, ⟨⟩, hb⟩ := fits_cons_iff.mp h
    exact ⟨a, b, rfl, ha, hb⟩
  · rintro ⟨a, b, rfl, ha, hb⟩
    exact ⟨a, '/' :: b, rfl, ha, fits_cons_iff.mpr ⟨['/'], b, rfl, .lit '/', hb⟩⟩

/-- There is one way to split a text at its first slash. -/
theorem append_slash_inj {a a' b b' : List Char} (ha : '/' ∉ a) (ha' : '/' ∉ a')
    (h : a ++ '/' :: b = a' ++ '/' :: b') : a = a' ∧ b = b' := by
  induction a generalizing a' with
  | nil =>
    cases a' with
    | nil => exact ⟨rfl, (List.cons.inj h).2⟩
    | cons c a' => exact absurd (List.mem_cons.mpr (.inl (List.cons.inj h).1)) ha'
  | cons c a ih =>
    cases a' with
    | nil => exact absurd (List.mem_cons.mpr (.inl (List.cons.inj h).1.symm)) ha
    | cons c' a' =>
      rw [List.mem_cons, not_or] at ha ha'
      obtain ⟨hc, htail⟩ := List.cons.inj h
      obtain ⟨rfl, hb⟩ := ih ha.2 ha'.2 htail
      exact ⟨by rw [hc], hb⟩

/-- Patterns of names with slashes between them. -/
def joined (pss : List (List Piece)) : List Piece := [.lit '/'].intercalate pss

/-- Names with slashes between them. -/
def written (names : List (List Char)) : List Char := ['/'].intercalate names

theorem joined_cons {ps qs : List Piece} {pss : List (List Piece)} :
    joined (ps :: qs :: pss) = ps ++ .lit '/' :: joined (qs :: pss) := by
  simp [joined, List.intercalate_cons_cons]

theorem written_cons {n m : List Char} {names : List (List Char)} :
    written (n :: m :: names) = n ++ '/' :: written (m :: names) := by
  simp [written, List.intercalate_cons_cons]

theorem isClass_of_isInner {p : Piece} (hp : p.isInner = true) : p.isClass = false := by
  cases p with
  | cls body => cases hp
  | lit c => rfl
  | one => rfl
  | star => rfl
  | deep => rfl
  | deepDir => rfl

/-- There is no class in patterns of names. -/
theorem any_isClass_joined : ∀ {pss : List (List Piece)}, (∀ ps ∈ pss, ps.all Piece.isInner = true) →
    (joined pss).any Piece.isClass = false
  | [], _ => rfl
  | ps :: pss, hinner => by
    have hps : ps.any Piece.isClass = false := by
      rw [List.any_eq_false]
      intro p hp
      rw [isClass_of_isInner (List.all_eq_true.mp (hinner ps List.mem_cons_self) p hp)]
      exact Bool.false_ne_true
    have hpss := any_isClass_joined fun qs hqs => hinner qs (List.mem_cons_of_mem ps hqs)
    cases pss with
    | nil =>
      have hjoined : joined [ps] = ps := List.intercalate_singleton
      rw [hjoined, hps]
    | cons qs pss =>
      rw [joined_cons, List.any_append, hps, List.any_cons, hpss]
      rfl

/-- **Patterns of names match name by name.** -/
theorem fits_joined_iff : ∀ {pss : List (List Piece)} {names : List (List Char)}, pss ≠ [] → names ≠ [] →
    (∀ ps ∈ pss, ps.all Piece.isInner = true) → (∀ n ∈ names, '/' ∉ n) →
      (fits (joined pss) (written names) = true ↔ List.Forall₂ (fun ps n => fits ps n = true) pss names)
  | [], _, hps, _, _, _ => absurd rfl hps
  | _, [], _, hnames, _, _ => absurd rfl hnames
  | [ps], [n], _, _, _, _ => by
    have hjoined : joined [ps] = ps := List.intercalate_singleton
    have hwritten : written [n] = n := List.intercalate_singleton
    rw [hjoined, hwritten, List.forall₂_cons]
    exact ⟨fun h => ⟨h, .nil⟩, And.left⟩
  | [ps], n :: m :: names, _, _, hinner, _ => by
    have hjoined : joined [ps] = ps := List.intercalate_singleton
    rw [hjoined, written_cons]
    constructor
    · intro h
      exact absurd (by simp) (slash_not_mem_of_fits (hinner ps List.mem_cons_self) h)
    · intro h
      cases h with
      | cons _ h => cases h
  | ps :: qs :: pss, [n], _, _, _, hslash => by
    have hwritten : written [n] = n := List.intercalate_singleton
    rw [joined_cons, hwritten, fits_slash_iff]
    constructor
    · rintro ⟨a, b, rfl, -⟩
      exact absurd (by simp) (hslash _ List.mem_cons_self)
    · intro h
      cases h with
      | cons _ h => cases h
  | ps :: qs :: pss, n :: m :: names, _, _, hinner, hslash => by
    rw [joined_cons, written_cons, fits_slash_iff, List.forall₂_cons,
      ← fits_joined_iff (List.cons_ne_nil qs pss) (List.cons_ne_nil m names)
        (fun ps' h => hinner ps' (List.mem_cons_of_mem ps h)) fun n' h => hslash n' (List.mem_cons_of_mem n h)]
    constructor
    · rintro ⟨a, b, hab, ha, hb⟩
      obtain ⟨rfl, rfl⟩ := append_slash_inj (hslash n List.mem_cons_self)
        (slash_not_mem_of_fits (hinner ps List.mem_cons_self) ha) hab
      exact ⟨ha, hb⟩
    · rintro ⟨hn, h⟩
      exact ⟨n, _, rfl, hn, h⟩

/-! ## 4. Directories in front -/

/-- What stands before and behind a slash of written names are names. -/
theorem written_eq_slash_iff : ∀ {names : List (List Char)} {a b : List Char}, (∀ n ∈ names, '/' ∉ n) →
    (written names = a ++ '/' :: b ↔ ∃ dirs tail, names = dirs ++ tail ∧ dirs ≠ [] ∧ tail ≠ [] ∧
      written dirs = a ∧ written tail = b)
  | [], a, b, _ => by
    constructor
    · intro h
      exact absurd h.symm (by simp [written])
    · rintro ⟨dirs, tail, h, hdirs, -⟩
      exact absurd (List.append_eq_nil_iff.mp h.symm).1 hdirs
  | [n], a, b, hslash => by
    have hwritten : written [n] = n := List.intercalate_singleton
    rw [hwritten]
    constructor
    · rintro rfl
      exact absurd (by simp) (hslash _ List.mem_cons_self)
    · rintro ⟨dirs, tail, h, hdirs, htail, -⟩
      have hlen := congrArg List.length h
      rw [List.length_append, List.length_singleton] at hlen
      have hpos := List.length_pos_iff.mpr hdirs
      have hpos' := List.length_pos_iff.mpr htail
      omega
  | n :: m :: names, a, b, hslash => by
    rw [written_cons]
    have hrest : ∀ n' ∈ m :: names, '/' ∉ n' := fun n' h => hslash n' (List.mem_cons_of_mem n h)
    constructor
    · intro h
      rcases List.append_eq_append_iff.mp h with ⟨a', rfl, hback⟩ | ⟨c, rfl, hback⟩
      · cases a' with
        | nil =>
          refine ⟨[n], m :: names, rfl, List.cons_ne_nil _ _, List.cons_ne_nil _ _, ?_, (List.cons.inj hback).2⟩
          rw [List.append_nil]
          exact List.intercalate_singleton
        | cons x a' =>
          obtain ⟨rfl, hmore⟩ := List.cons.inj hback
          obtain ⟨dirs, tail, hnames, hdirs, htail, rfl, rfl⟩ := (written_eq_slash_iff hrest).mp hmore
          obtain ⟨d, dirs, rfl⟩ := List.exists_cons_of_ne_nil hdirs
          exact ⟨n :: d :: dirs, tail, by rw [hnames]; rfl, List.cons_ne_nil _ _, htail, written_cons, rfl⟩
      · cases c with
        | nil =>
          refine ⟨[a], m :: names, ?_, List.cons_ne_nil _ _, List.cons_ne_nil _ _, List.intercalate_singleton,
            (List.cons.inj hback).2.symm⟩
          rw [List.append_nil, List.singleton_append]
        | cons x c =>
          obtain ⟨rfl, -⟩ := List.cons.inj hback
          exact absurd (by simp) (hslash _ List.mem_cons_self)
    · rintro ⟨dirs, tail, hnames, hdirs, htail, rfl, rfl⟩
      obtain ⟨d, dirs, rfl⟩ := List.exists_cons_of_ne_nil hdirs
      obtain ⟨rfl, hback⟩ := List.cons.inj hnames
      cases dirs with
      | nil =>
        have hwritten : written [n] = n := List.intercalate_singleton
        rw [hwritten, hback]
        rfl
      | cons d dirs =>
        have h := (written_eq_slash_iff hrest).mpr ⟨d :: dirs, tail, hback, List.cons_ne_nil _ _, htail, rfl, rfl⟩
        rw [h, written_cons, List.append_assoc]
        rfl

theorem mem_written_iff {c : Char} (hc : c ≠ '/') : ∀ {names : List (List Char)},
    c ∈ written names ↔ ∃ n ∈ names, c ∈ n
  | [] => by simp [written]
  | [n] => by
    have hwritten : written [n] = n := List.intercalate_singleton
    simp [hwritten]
  | n :: m :: names => by
    rw [written_cons, List.mem_append, List.mem_cons, mem_written_iff hc, List.exists_mem_cons_iff]
    simp [hc]

/-- **`**/` takes whole names**, none of which holds a line feed, and what is behind it the others. -/
theorem fits_deepDir_iff {qs : List Piece} {names : List (List Char)} (hnames : names ≠ [])
    (hslash : ∀ n ∈ names, '/' ∉ n) :
    fits (.deepDir :: qs) (written names) = true ↔ ∃ dirs tail, names = dirs ++ tail ∧ tail ≠ [] ∧
      (∀ d ∈ dirs, '\n' ∉ d) ∧ fits qs (written tail) = true := by
  rw [fits_cons_iff]
  constructor
  · rintro ⟨a, b, hab, hspans, h⟩
    cases hspans with
    | here =>
      rw [List.nil_append] at hab
      rw [← hab] at h
      exact ⟨[], names, rfl, hnames, nofun, h⟩
    | @deepDir cs hline =>
      rw [List.append_assoc, List.singleton_append] at hab
      obtain ⟨dirs, tail, rfl, -, htail, rfl, rfl⟩ := (written_eq_slash_iff hslash).mp hab
      refine ⟨dirs, tail, rfl, htail, fun d hd hmem => hline ?_, h⟩
      exact (mem_written_iff (by decide)).mpr ⟨d, hd, hmem⟩
  · rintro ⟨dirs, tail, rfl, htail, hline, h⟩
    cases dirs with
    | nil => exact ⟨[], written tail, rfl, .here, h⟩
    | cons d dirs =>
      have hsplit := (written_eq_slash_iff hslash).mpr
        ⟨d :: dirs, tail, rfl, List.cons_ne_nil _ _, htail, rfl, rfl⟩
      refine ⟨written (d :: dirs) ++ ['/'], written tail, ?_, .deepDir fun hmem => ?_, h⟩
      · rw [hsplit, List.append_assoc, List.singleton_append]
      · obtain ⟨d', hd', hmem⟩ := (mem_written_iff (by decide)).mp hmem
        exact hline d' hd' hmem

/-- **Behind `**/` patterns of names match the last names**, whatever directories precede, as long as a line feed
is in none of these. -/
theorem fits_deepDir_joined_iff {pss : List (List Piece)} {names : List (List Char)} (hpss : pss ≠ [])
    (hnames : names ≠ []) (hinner : ∀ ps ∈ pss, ps.all Piece.isInner = true) (hslash : ∀ n ∈ names, '/' ∉ n) :
    fits (.deepDir :: joined pss) (written names) = true ↔ ∃ dirs tail, names = dirs ++ tail ∧
      (∀ d ∈ dirs, '\n' ∉ d) ∧ List.Forall₂ (fun ps n => fits ps n = true) pss tail := by
  rw [fits_deepDir_iff hnames hslash]
  constructor
  · rintro ⟨dirs, tail, rfl, htail, hline, h⟩
    exact ⟨dirs, tail, rfl, hline,
      (fits_joined_iff hpss htail hinner fun n hn => hslash n (List.mem_append_right _ hn)).mp h⟩
  · rintro ⟨dirs, tail, rfl, hline, h⟩
    have htail : tail ≠ [] := by
      rintro rfl
      cases h
      exact hpss rfl
    exact ⟨dirs, tail, rfl, htail, hline,
      (fits_joined_iff hpss htail hinner fun n hn => hslash n (List.mem_append_right _ hn)).mpr h⟩

end Glob

end AgentLint
