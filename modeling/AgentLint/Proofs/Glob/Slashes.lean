import AgentLint.Proofs.Glob.Classes

/-!
# Where slashes come from

Without `**` a slash of the path is taken by a slash of the pattern or by a class.  So the path has as many slashes as
the pattern exactly if the classes take as many as are written in them (`slashes_of_glob`); in particular if no class
has to do with a slash (`Piece.meetsSlash`).

Classes are read by the rules of regular expressions, and a negated class holds every character that is not written
in it.  A slash is no exception, so `a[!b]c` matches `a/c` (`negated_class_crosses`).
-/

namespace AgentLint

namespace Glob

/-- Whether a slash is written in a class, or the class holds one. -/
def Piece.meetsSlash : Piece → Bool
  | .cls body => body.contains '/' || classHolds body '/'
  | _ => false

/-- The number of slashes written in the class that a piece is. -/
def Piece.classSlashes : Piece → Nat
  | .cls body => body.count '/'
  | _ => 0

/-- The number of slashes written in classes. -/
def slashesWritten : List Piece → Nat
  | [] => 0
  | p :: ps => p.classSlashes + slashesWritten ps

/-- The number of slashes that classes take. -/
def slashesTaken (ps : List Piece) (spans : List (List Char)) : Nat :=
  (ps.zip spans).countP fun e => e.1.isClass && e.2 = ['/']

theorem count_classBody (body : List Char) : (classBody body).count '/' = body.count '/' := by
  have hdoubled : (body.flatMap fun c => if c = '\\' then ['\\', '\\'] else [c]).count '/' = body.count '/' := by
    induction body with
    | nil => rfl
    | cons c cs ih =>
      rw [List.flatMap_cons, List.count_append, ih]
      split
      · rename_i hc
        rw [hc, List.count_cons_of_ne (by decide)]
        exact Nat.zero_add _
      · rw [List.count_singleton, List.count_cons, Nat.add_comm]
  unfold classBody
  split
  · rename_i rest hhead
    rw [← hdoubled, hhead]
    rfl
  · exact hdoubled

/-- What one piece takes. -/
theorem count_of_takes {p : Piece} {word span : List Char} (hword : p.Written word) (htakes : p.Takes span) :
    span.count '/' + p.classSlashes = word.count '/' + if p.isClass && span = ['/'] then 1 else 0 := by
  cases htakes with
  | lit a =>
    cases hword
    rfl
  | @one a hinner =>
    cases hword
    have ha : [a].count '/' = 0 := List.count_eq_zero.mpr fun hin => hinner (List.mem_singleton.mp hin).symm
    rw [ha]
    rfl
  | star hinner =>
    cases hword
    rw [List.count_eq_zero.mpr hinner]
    rfl
  | @cls body a hholds =>
    have hbody : word.count '/' = body.count '/' := by
      cases hword with
      | @cls b run hrun =>
        rw [count_classBody]
        simp [List.count_cons, List.count_append]
    rw [hbody, Piece.classSlashes, Nat.add_comm]
    by_cases ha : a = '/'
    · subst ha
      rfl
    · have hspan : [a] ≠ ['/'] := fun he => ha (List.singleton_inj.mp he)
      have hcount : [a].count '/' = 0 := List.count_eq_zero.mpr fun hin => ha (List.mem_singleton.mp hin).symm
      rw [hcount, decide_eq_false hspan, Bool.and_false, if_neg Bool.false_ne_true]

theorem count_flatten {ps : List Piece} {words spans : List (List Char)} (hwords : List.Forall₂ Piece.Written ps words)
    (hspans : List.Forall₂ Piece.Takes ps spans) :
    spans.flatten.count '/' + slashesWritten ps = words.flatten.count '/' + slashesTaken ps spans := by
  induction hwords generalizing spans with
  | nil =>
    cases hspans
    rfl
  | @cons p word ps words hword _ ih =>
    cases hspans with
    | @cons _ span _ spans htakes hspans =>
      have hone := count_of_takes hword htakes
      have hrest := ih hspans
      have htaken : slashesTaken (p :: ps) (span :: spans) =
          slashesTaken ps spans + if p.isClass && span = ['/'] then 1 else 0 := by
        rw [slashesTaken, List.zip_cons_cons, List.countP_cons, slashesTaken]
      rw [List.flatten_cons, List.flatten_cons, List.count_append, List.count_append, slashesWritten, htaken]
      omega

/-- If no class has to do with a slash, none is written in one. -/
theorem slashesWritten_eq_zero {ps : List Piece} (h : ps.any Piece.meetsSlash = false) : slashesWritten ps = 0 := by
  induction ps with
  | nil => rfl
  | cons p ps ih =>
    rw [List.any_cons, Bool.or_eq_false_iff] at h
    have hp : p.classSlashes = 0 := by
      cases p with
      | cls body =>
        rw [Piece.meetsSlash, Bool.or_eq_false_iff] at h
        refine List.count_eq_zero.mpr fun hin => ?_
        rw [List.contains_iff_mem.mpr hin] at h
        exact Bool.noConfusion h.1.1
      | lit a => rfl
      | one => rfl
      | star => rfl
      | deep => rfl
      | deepDir => rfl
    rw [slashesWritten, hp, Nat.zero_add]
    exact ih h.2

/-- And none takes one. -/
theorem slashesTaken_eq_zero {ps : List Piece} {spans : List (List Char)} (h : ps.any Piece.meetsSlash = false)
    (hspans : List.Forall₂ Piece.Takes ps spans) : slashesTaken ps spans = 0 := by
  rw [slashesTaken, List.countP_eq_zero]
  rintro ⟨p, span⟩ hmem htaken
  rw [Bool.and_eq_true, decide_eq_true_eq] at htaken
  obtain ⟨hclass, rfl⟩ := htaken
  have hmeets := List.any_eq_false.mp h p (List.of_mem_zip hmem).1
  cases List.forall₂_zip hspans hmem with
  | lit => cases hclass
  | one => cases hclass
  | star => cases hclass
  | cls hholds => exact hmeets (by rw [Piece.meetsSlash, hholds, Bool.or_true])

/-- **Where the slashes of a path come from**, if a pattern without `**` matches it. -/
theorem slashes_of_glob {path pattern : String} (hdeep : ¬ "**".toList <:+: pattern.toList)
    (hempty : Piece.cls ['^'] ∉ pieces (Path.normal pattern).toList) (h : glob path pattern = .ok true) :
    (∃ spans, (Path.normal path).toList = spans.flatten ∧
      List.Forall₂ Piece.Takes (pieces (Path.normal pattern).toList) spans ∧
      (Path.normal path).toList.count '/' + slashesWritten (pieces (Path.normal pattern).toList) =
        (Path.normal pattern).toList.count '/' + slashesTaken (pieces (Path.normal pattern).toList) spans) ∧
    ((pieces (Path.normal pattern).toList).any Piece.meetsSlash = false →
      (Path.normal path).toList.count '/' = (Path.normal pattern).toList.count '/') := by
  obtain ⟨spans, hpath, hspans⟩ := takes_of_glob hdeep hempty h
  obtain ⟨words, hpattern, hwords⟩ := exists_words_of_pieces (Path.normal pattern).toList
  have hcount := count_flatten hwords hspans
  rw [← hpath, ← hpattern] at hcount
  refine ⟨⟨spans, hpath, hspans, hcount⟩, fun hmeets => ?_⟩
  rw [slashesWritten_eq_zero hmeets, slashesTaken_eq_zero hmeets hspans, Nat.add_zero, Nat.add_zero] at hcount
  exact hcount

/-- A pattern with a star and a class. -/
theorem slashes_of_glob_class :
    ¬ "**".toList <:+: "src/*_[0-9].py".toList ∧ Piece.cls ['^'] ∉ pieces (Path.normal "src/*_[0-9].py").toList ∧
      glob "./src/test_7.py" "src/*_[0-9].py" = .ok true ∧
      (pieces (Path.normal "src/*_[0-9].py").toList).any Piece.meetsSlash = false ∧
      (Path.normal "./src/test_7.py").toList.count '/' = (Path.normal "src/*_[0-9].py").toList.count '/' := by
  have hdeep : ¬ "**".toList <:+: "src/*_[0-9].py".toList := by decide +kernel
  have hempty : Piece.cls ['^'] ∉ pieces (Path.normal "src/*_[0-9].py").toList := by decide +kernel
  have hglob : glob "./src/test_7.py" "src/*_[0-9].py" = .ok true := eq_ok_of_toOption (by decide +kernel)
  have hmeets : (pieces (Path.normal "src/*_[0-9].py").toList).any Piece.meetsSlash = false := by decide +kernel
  have hcount := (slashes_of_glob hdeep hempty hglob).2 hmeets
  exact ⟨hdeep, hempty, hglob, hmeets, hcount⟩

/-- **A negated class crosses a slash**: the path has one, the pattern none. -/
theorem negated_class_crosses :
    ¬ "**".toList <:+: "a[!b]c".toList ∧ glob "a/c" "a[!b]c" = .ok true ∧
      (Path.normal "a/c").toList.count '/' = 1 ∧ (Path.normal "a[!b]c").toList.count '/' = 0 :=
  ⟨by decide +kernel, eq_ok_of_toOption (by decide +kernel), by decide +kernel, by decide +kernel⟩

end Glob

end AgentLint
