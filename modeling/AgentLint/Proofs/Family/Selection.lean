import AgentLint.Family.Basic
import AgentLint.Proofs.Glob
import AgentLint.Proofs.Sequencing
import Mathlib.Data.List.Forall2

/-!
# The files of the built-in families

The patterns of the built-in families ask for the last names of a path, behind `**/` (`Asks`).  So whether a file
belongs to a family depends on its last names alone (`Tail`), with one exception: the run of characters that `**/`
stands for ends at a line feed, so a file is not found if the name of a directory in front holds one.
`select_builtin` says so of every path, and `missed_behind_line_feed` shows a file that is missed.
-/

namespace AgentLint

namespace Family

open Glob (Piece)

/-! ## 1. Last names -/

/-- What a pattern asks of a name. -/
inductive Asked where
  /-- That it is this one. -/
  | named (name : String)
  /-- That it ends like this. -/
  | ending (last : String)

/-- The pieces that ask for it. -/
def Asked.pieces : Asked → List Piece
  | named name => name.toList.map .lit
  | ending last => .star :: last.toList.map .lit

/-- A name is as it is asked for. -/
def Asked.Takes : Asked → String → Prop
  | named name, n => n = name
  | ending last, n => ∃ front, n = front ++ last

theorem Asked.fits_pieces_iff {a : Asked} {n : String} (hn : Path.IsName n) :
    Glob.fits a.pieces n.toList = true ↔ a.Takes n := by
  cases a with
  | named name =>
    rw [pieces, Glob.fits_lits_iff, String.toList_inj]
    rfl
  | ending last =>
    rw [pieces, Glob.fits_star_lits_iff]
    constructor
    · rintro ⟨cs, hcs, -⟩
      refine ⟨String.ofList cs, String.toList_inj.mp ?_⟩
      rw [hcs, String.toList_append, String.toList_ofList]
    · rintro ⟨front, rfl⟩
      have hslash := hn.no_slash
      rw [String.toList_append, List.mem_append, not_or] at hslash
      exact ⟨front.toList, String.toList_append, hslash.1⟩

theorem Asked.forall₂_fits_iff : ∀ {as : List Asked} {tail : List String}, (∀ n ∈ tail, Path.IsName n) →
    (List.Forall₂ (fun ps cs => Glob.fits ps cs = true) (as.map pieces) (tail.map String.toList) ↔
      List.Forall₂ Takes as tail)
  | [], [], _ => ⟨fun _ => .nil, fun _ => .nil⟩
  | [], _ :: _, _ => ⟨nofun, nofun⟩
  | _ :: _, [], _ => ⟨nofun, nofun⟩
  | a :: as, n :: tail, hn => by
    have htail : ∀ m ∈ tail, Path.IsName m := fun m hm => hn m (List.mem_cons_of_mem n hm)
    rw [List.map_cons, List.map_cons, List.forall₂_cons, List.forall₂_cons,
      fits_pieces_iff (hn n List.mem_cons_self), forall₂_fits_iff htail]

/-- A pattern that asks for last names: `**/` and patterns of names. -/
structure Asks (pattern : String) (as : List Asked) : Prop where
  pieces : Glob.pieces (Path.normal pattern).toList = .deepDir :: Glob.joined (as.map Asked.pieces)
  inner : ∀ ps ∈ as.map Asked.pieces, ps.all Piece.isInner = true
  ne_nil : as.map Asked.pieces ≠ []

/-- Whether a pattern asks for last names can be looked up. -/
theorem asks_of_pieces {pattern : String} {as : List Asked}
    (hpieces : Glob.pieces (Path.normal pattern).toList = .deepDir :: Glob.joined (as.map Asked.pieces))
    (hinner : ((as.map Asked.pieces).all fun ps => ps.all Piece.isInner) = true)
    (hsome : (as.map Asked.pieces).isEmpty = false) : Asks pattern as :=
  ⟨hpieces, List.all_eq_true.mp hinner, List.isEmpty_eq_false_iff.mp hsome⟩

/-! ## 2. Paths by their names -/

/-- The names of a path, from the outermost one on. -/
structure Names (names : List String) : Prop where
  ne_nil : names ≠ []
  isName : ∀ n ∈ names, Path.IsName n

instance : DecidablePred Names := fun names =>
  decidable_of_iff (names ≠ [] ∧ ∀ n ∈ names, Path.IsName n)
    ⟨fun h => ⟨h.1, h.2⟩, fun h => ⟨h.ne_nil, h.isName⟩⟩

/-- The path with some names, from the directory where one stands. -/
def pathOf (names : List String) : String := "/".intercalate names

/-- The last names are some that are asked for, and no line feed is in the names before them. -/
def Behind (names : List String) (asked : List String → Prop) : Prop :=
  ∃ dirs tail, names = dirs ++ tail ∧ asked tail ∧ ∀ d ∈ dirs, '\n' ∉ d.toList

variable {names : List String} {pattern : String} {f : Family}

theorem Names.normal_pathOf (hn : Names names) : Path.normal (pathOf names) = pathOf names :=
  Path.normal_intercalate hn.ne_nil hn.isName

/-- **A pattern of last names** matches a path by its last names. -/
theorem Asks.glob {as : List Asked} (ha : Asks pattern as) (hn : Names names) :
    ∃ b, Glob.glob (pathOf names) pattern = .ok b ∧ (b = true ↔ Behind names (List.Forall₂ Asked.Takes as)) := by
  have hplain : (Piece.deepDir :: Glob.joined (as.map Asked.pieces)).any Piece.isClass = false :=
    Glob.any_isClass_joined ha.inner
  have hwritten : (pathOf names).toList = Glob.written (names.map String.toList) := String.toList_intercalate
  have hmap : names.map String.toList ≠ [] := mt List.map_eq_nil_iff.mp hn.ne_nil
  have hslash : ∀ n ∈ names.map String.toList, '/' ∉ n := fun cs hcs => by
    obtain ⟨n, hmem, rfl⟩ := List.mem_map.mp hcs
    exact (hn.isName n hmem).no_slash
  refine ⟨_, Glob.glob_of_plain ha.pieces hplain, ?_⟩
  rw [hn.normal_pathOf, hwritten, Glob.fits_deepDir_joined_iff ha.ne_nil hmap ha.inner hslash]
  constructor
  · rintro ⟨_, _, hsplit, hline, h⟩
    obtain ⟨dirs, tail, rfl, rfl, rfl⟩ := List.map_eq_append_iff.mp hsplit
    have htail := (Asked.forall₂_fits_iff fun n hmem => hn.isName n (List.mem_append_right dirs hmem)).mp h
    exact ⟨dirs, tail, rfl, htail, fun d hd => hline _ (List.mem_map_of_mem hd)⟩
  · rintro ⟨dirs, tail, rfl, htail, hline⟩
    have h := (Asked.forall₂_fits_iff fun n hmem => hn.isName n (List.mem_append_right dirs hmem)).mpr htail
    refine ⟨dirs.map String.toList, tail.map String.toList, List.map_append, fun cs hcs => ?_, h⟩
    obtain ⟨d, hd, rfl⟩ := List.mem_map.mp hcs
    exact hline d hd

theorem globAny_of_asks (hn : Names names) : ∀ {patterns : List String} {ass : List (List Asked)},
    List.Forall₂ Asks patterns ass → ∃ b, Glob.globAny (pathOf names) patterns = .ok b ∧
      (b = true ↔ Behind names fun tail => ∃ as ∈ ass, List.Forall₂ Asked.Takes as tail)
  | [], _, h => by
    cases h
    refine ⟨false, rfl, nofun, ?_⟩
    rintro ⟨_, _, -, ⟨_, h, -⟩, -⟩
    cases h
  | p :: patterns, _, h => by
    cases h with
    | @cons _ as _ ass ha h =>
      obtain ⟨b, hb, hiff⟩ := ha.glob hn
      obtain ⟨b', hb', hiff'⟩ := globAny_of_asks hn h
      refine ⟨b || b', ?_, ?_⟩
      · rw [Glob.globAny, hb]
        cases b with
        | true => rfl
        | false => exact hb'
      · rw [Bool.or_eq_true, hiff, hiff']
        constructor
        · rintro (⟨dirs, tail, hsplit, htail, hline⟩ | ⟨dirs, tail, hsplit, ⟨as', hmem, htail⟩, hline⟩)
          · exact ⟨dirs, tail, hsplit, ⟨as, List.mem_cons_self, htail⟩, hline⟩
          · exact ⟨dirs, tail, hsplit, ⟨as', List.mem_cons_of_mem as hmem, htail⟩, hline⟩
        · rintro ⟨dirs, tail, hsplit, ⟨as', hmem, htail⟩, hline⟩
          rcases List.mem_cons.mp hmem with rfl | hmem
          · exact .inl ⟨dirs, tail, hsplit, htail, hline⟩
          · exact .inr ⟨dirs, tail, hsplit, ⟨as', hmem, htail⟩, hline⟩

/-! ## 3. Selecting -/

/-- Whether a family wants a path, if nothing is to be ignored. -/
theorem wants_of_asks (hn : Names names) {ass : List (List Asked)} (ha : List.Forall₂ Asks f.patterns ass) :
    ∃ b, f.wants [] (pathOf names) = .ok b ∧
      (b = true ↔ Behind names fun tail => ∃ as ∈ ass, List.Forall₂ Asked.Takes as tail) := by
  obtain ⟨b, hb, hiff⟩ := globAny_of_asks hn ha
  refine ⟨b, ?_, hiff⟩
  rw [wants, hb]
  cases b <;> rfl

/-- What is selected are the paths that are wanted, if no pattern is refused. -/
theorem select_eq_filter {ignore : List String} {wanted : String → Bool} : ∀ {paths : List String},
    (∀ p ∈ paths, f.wants ignore p = .ok (wanted p)) → f.select ignore paths = .ok (paths.filter wanted)
  | [], _ => rfl
  | p :: paths, h => by
    have hp := h p List.mem_cons_self
    have hrest := select_eq_filter fun q hq => h q (List.mem_cons_of_mem p hq)
    rw [select, hp, hrest]
    cases hw : wanted p with
    | true =>
      rw [List.filter_cons_of_pos hw]
      rfl
    | false =>
      rw [List.filter_cons_of_neg (by rw [hw]; exact Bool.false_ne_true)]
      rfl

/-! ## 4. The built-in families -/

/-- The last names of the files of a family. -/
def Tail (family : String) (tail : List String) : Prop :=
  match family with
  | "claude-md" => tail = ["CLAUDE.md"] ∨ ∃ front, tail = [".claude", "rules", front ++ ".md"]
  | "skills" => ∃ name, tail = ["skills", name, "SKILL.md"]
  | "agents" => ∃ front, tail = ["agents", front ++ ".md"]
  | "mcp" => tail = [".mcp.json"]
  | "settings" => tail = [".claude", "settings.json"] ∨ tail = [".claude", "settings.local.json"]
  | _ => False

/-- What the patterns of a family ask for are its last names. -/
structure Described (f : Family) (ass : List (List Asked)) : Prop where
  asks : List.Forall₂ Asks f.patterns ass
  tail_iff : ∀ tail, (∃ as ∈ ass, List.Forall₂ Asked.Takes as tail) ↔ Tail f.name tail

/-- **Each built-in family is described by its last names.** -/
theorem exists_described (hf : f ∈ builtin) : ∃ ass, Described f ass := by
  simp only [builtin, List.mem_cons, List.not_mem_nil, or_false] at hf
  rcases hf with rfl | rfl | rfl | rfl | rfl
  · refine ⟨[[.named "CLAUDE.md"], [.named ".claude", .named "rules", .ending ".md"]], ?_, fun tail => ?_⟩
    · exact .cons (asks_of_pieces (by decide +kernel) (by decide +kernel) rfl)
        (.cons (asks_of_pieces (by decide +kernel) (by decide +kernel) rfl) .nil)
    · simp [Tail, List.forall₂_cons_left_iff, Asked.Takes]
  · refine ⟨[[.named "skills", .ending "", .named "SKILL.md"]], ?_, fun tail => ?_⟩
    · exact .cons (asks_of_pieces (by decide +kernel) (by decide +kernel) rfl) .nil
    · simp [Tail, List.forall₂_cons_left_iff, Asked.Takes]
  · refine ⟨[[.named "agents", .ending ".md"]], ?_, fun tail => ?_⟩
    · exact .cons (asks_of_pieces (by decide +kernel) (by decide +kernel) rfl) .nil
    · simp [Tail, List.forall₂_cons_left_iff, Asked.Takes]
  · refine ⟨[[.named ".mcp.json"]], ?_, fun tail => ?_⟩
    · exact .cons (asks_of_pieces (by decide +kernel) (by decide +kernel) rfl) .nil
    · simp [Tail, List.forall₂_cons_left_iff, Asked.Takes]
  · refine ⟨[[.named ".claude", .named "settings.json"], [.named ".claude", .named "settings.local.json"]], ?_,
      fun tail => ?_⟩
    · exact .cons (asks_of_pieces (by decide +kernel) (by decide +kernel) rfl)
        (.cons (asks_of_pieces (by decide +kernel) (by decide +kernel) rfl) .nil)
    · simp [Tail, List.forall₂_cons_left_iff, Asked.Takes]

/-- **Which files a built-in family selects**: those whose last names are its own, whatever directories precede, as
long as no line feed is in the names of these. -/
theorem select_builtin (hf : f ∈ builtin) {paths : List (List String)} (hpaths : ∀ names ∈ paths, Names names) :
    ∃ wanted : String → Bool, f.select [] (paths.map pathOf) = .ok ((paths.map pathOf).filter wanted) ∧
      ∀ names ∈ paths, (wanted (pathOf names) = true ↔
        ∃ dirs tail, names = dirs ++ tail ∧ Tail f.name tail ∧ ∀ d ∈ dirs, '\n' ∉ d.toList) := by
  obtain ⟨ass, hd⟩ := exists_described hf
  let wanted : String → Bool := fun p => (f.wants [] p).toOption.getD false
  have hwants : ∀ names ∈ paths, f.wants [] (pathOf names) = .ok (wanted (pathOf names)) ∧
      (wanted (pathOf names) = true ↔
        ∃ dirs tail, names = dirs ++ tail ∧ Tail f.name tail ∧ ∀ d ∈ dirs, '\n' ∉ d.toList) := by
    intro names hmem
    obtain ⟨b, hb, hiff⟩ := wants_of_asks (hpaths names hmem) hd.asks
    have hwanted : wanted (pathOf names) = b := by simp only [wanted, hb, Except.toOption, Option.getD_some]
    rw [hwanted, hiff, Behind]
    simp only [hd.tail_iff]
    exact ⟨hb, trivial⟩
  refine ⟨wanted, select_eq_filter fun p hp => ?_, fun names hmem => (hwants names hmem).2⟩
  obtain ⟨names, hmem, rfl⟩ := List.mem_map.mp hp
  exact (hwants names hmem).1

/-- Of three paths one is selected: the second one has a line feed in a directory, the third one is below. -/
theorem select_one_of_three :
    let f : Family := ⟨"claude-md", .claudeMd, ["**/CLAUDE.md", "**/.claude/rules/*.md"], false⟩
    let paths := [["a", "..", "CLAUDE.md"], ["a\nb", "CLAUDE.md"], ["CLAUDE.md", "c"]]
    f ∈ builtin ∧ (∀ names ∈ paths, Names names) ∧ f.select [] (paths.map pathOf) = .ok ["a/../CLAUDE.md"] ∧
      ∃ wanted : String → Bool, (paths.map pathOf).filter wanted = ["a/../CLAUDE.md"] ∧
        ∀ names ∈ paths, (wanted (pathOf names) = true ↔
          ∃ dirs tail, names = dirs ++ tail ∧ Tail f.name tail ∧ ∀ d ∈ dirs, '\n' ∉ d.toList) := by
  intro f paths
  have hf : f ∈ builtin := List.mem_cons_self
  have hpaths : ∀ names ∈ paths, Names names := by decide
  have hselect : f.select [] (paths.map pathOf) = .ok ["a/../CLAUDE.md"] := eq_ok_of_toOption (by decide +kernel)
  obtain ⟨wanted, hwanted, hiff⟩ := select_builtin hf hpaths
  exact ⟨hf, hpaths, hselect, wanted, Except.ok.inj (hwanted.symm.trans hselect), hiff⟩

/-- **A file is missed** if the name of a directory in front of it holds a line feed. -/
theorem missed_behind_line_feed :
    let f : Family := ⟨"claude-md", .claudeMd, ["**/CLAUDE.md", "**/.claude/rules/*.md"], false⟩
    f ∈ builtin ∧ Names ["a\nb", "CLAUDE.md"] ∧ Tail f.name ["CLAUDE.md"] ∧
      f.select [] [pathOf ["a\nb", "CLAUDE.md"]] = .ok [] := by
  intro f
  exact ⟨List.mem_cons_self, by decide, .inl rfl, eq_ok_of_toOption (by decide +kernel)⟩

end Family

end AgentLint
