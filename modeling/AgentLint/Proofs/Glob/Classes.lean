import AgentLint.Proofs.Glob.Pieces
import AgentLint.Proofs.Regex.Matching
import AgentLint.Proofs.Regex.Reading

/-!
# Patterns with classes

A pattern with a class is matched as the regular expression that its pieces spell (`Piece.regex`).  Each piece of a
pattern without `**` is spelled in tokens that are read as one part (`Piece.Reads`), whatever comes behind it, so the
expression of the pattern is the parts of its pieces (`stand_of_read`); and what such a part matches is what the piece
takes (`Piece.Takes`), a class one character that it holds.  `takes_of_glob` says this of the whole pattern: a path
that is matched is taken piece by piece.

One class is left out, the empty negation `[!]`.  In the expression it is `[^]`, where the bracket belongs to the
class, so that the class goes on and swallows the text up to the next bracket.
-/

namespace AgentLint

namespace Glob

open Regex

/-! ## 1. Steps of reading -/

variable {c c' : Cursor} {n fuel : Nat} {first : Bool} {acc : List Part} {ts : List (List Char)} {a : Char}

/-- How a literal character is written in a regular expression. -/
def litToken (a : Char) : List Char := if special.contains a then ['\\', a] else [a]

/-- What an escaped special character could be mistaken for. -/
theorem escape_special (ha : a ∈ special) : escape a = pure (.code (Text.codeOf a)) := by
  have hall : special.all (fun a => (anchorEscape? a).isNone && (categoryEscape? a).isNone &&
      (controlEscape? a == none || controlEscape? a == some (Text.codeOf a)) && a ≠ 'x' && a ≠ 'u' && a ≠ 'U' &&
      a ≠ 'N' && a ≠ '0' && !a.isDigit && !isLetter a) = true := by decide
  have h := List.all_eq_true.mp hall a ha
  simp only [Bool.and_eq_true, Option.isNone_iff_eq_none, decide_eq_true_eq, Bool.not_eq_true', Bool.or_eq_true, beq_iff_eq] at h
  obtain ⟨⟨⟨⟨⟨⟨⟨⟨⟨hanchor, hcategory⟩, hcontrol⟩, hx⟩, hu⟩, hU⟩, hN⟩, hzero⟩, hdigit⟩, hletter⟩ := h
  have hcode : codeEscape? a = pure none := by
    unfold codeEscape?
    split
    all_goals first | exact absurd rfl ‹_› | rfl
  rcases hcontrol with hcontrol | hcontrol
  · simp [escape, hanchor, hcategory, hcontrol, hcode, hzero, hdigit, hletter]
  · simp [escape, hanchor, hcategory, hcontrol]

theorem isToken_litToken (a : Char) : IsToken (litToken a) := by
  unfold litToken
  split
  · exact .escaped a
  · rename_i ha
    refine .plain ?_
    rintro rfl
    exact ha (by decide)

/-- A literal character is read as it is. -/
theorem readSeq_run_lit (hts : ∀ t ∈ ts, IsToken t) :
    (readSeq (fuel + 1) 0 false first acc).run (c.before n (litToken a :: ts)) =
      (readSeq fuel 0 false first (acc ++ [.code (Text.codeOf a)])).run (c.before (n + (litToken a).length) ts) := by
  unfold litToken
  split
  · rename_i ha
    rw [readSeq, run_bind_ok (m := get) rfl]
    refine (run_bind_ok (take_run hts)).trans ?_
    simp only [escape_special (List.contains_iff_mem.mp ha), pure_bind]
  · rename_i ha
    have hne : ∀ b ∈ special, a ≠ b := fun b hb he => ha (List.contains_iff_mem.mpr (he ▸ hb))
    rw [readSeq, run_bind_ok (m := get) rfl]
    split
    · cases ‹(c.before n ([a] :: ts)).next = none›
    · exact absurd (List.singleton_inj.mp (Option.some.inj ‹(c.before n ([a] :: ts)).next = some ['|']›))
        (hne '|' (by decide))
    · exact absurd (List.singleton_inj.mp (Option.some.inj ‹(c.before n ([a] :: ts)).next = some [')']›))
        (hne ')' (by decide))
    · rename_i t _ _ hnext
      obtain rfl : [a] = t := Option.some.inj hnext
      refine (run_bind_ok (take_run hts)).trans ?_
      simp only [Bool.false_and, Bool.false_eq_true, if_false, decide_eq_true_eq, Bool.or_eq_true,
        hne '[' (by decide), hne '*' (by decide), hne '+' (by decide), hne '?' (by decide), hne '\x7b' (by decide),
        hne '.' (by decide), hne '^' (by decide), hne '$' (by decide), hne '(' (by decide), or_self]

/-- A class is read as the set of its members, if it is not refused. -/
theorem readSeq_run_set {negated : Bool} {cs : List Char} {r : List Part × Cursor} (hts : ∀ t ∈ ts, IsToken t)
    (hsome : cs ≠ []) (hhead : negated = true ∨ cs.head? ≠ some '^') (htail : ']' ∉ cs.tail)
    (h : (readSeq (fuel + 1) 0 false first acc).run (c.before n (['['] :: (setTokens negated cs ++ ts))) = .ok r) :
    ∃ k, (readSeq fuel 0 false first (acc ++ [ofItems negated (members cs)])).run (c.before k ts) = .ok r := by
  rw [readSeq, run_bind_ok (m := get) rfl] at h
  have h := (run_bind_ok (take_run (isToken_of_mem_setTokens cs hts))).symm.trans h
  simp only [Bool.false_and, Bool.false_eq_true, if_false, if_true] at h
  obtain ⟨p, c', hp, h⟩ := run_bind_eq_ok h
  obtain ⟨rfl, k, rfl⟩ := readSet_run_eq_ok hts hsome hhead htail hp
  exact ⟨k, h⟩

/-- A star behind a part repeats it, if no other sign of a repetition follows. -/
theorem readSeq_run_star {k : Nat} (hts : ∀ t ∈ ts, IsToken t) (hlazy : ts.head? ≠ some ['?'])
    (hpossessive : ts.head? ≠ some ['+']) :
    (readSeq (fuel + 1) 0 false first (acc ++ [.notCode k])).run (c.before n (['*'] :: ts)) =
      (readSeq fuel 0 false first (acc ++ [.rounds .greedy 0 none [.notCode k]])).run (c.before (n + 1) ts) := by
  rw [readSeq, run_bind_ok (m := get) rfl]
  refine (run_bind_ok (take_run hts)).trans ?_
  have hbounds : bounds '*' = pure (some (0, none)) := rfl
  have hrepeat : (repeatLast n 0 none (acc ++ [.notCode k])).run (c.before (n + 1) ts) =
      .ok (acc ++ [.rounds .greedy 0 none [.notCode k]], c.before (n + 1) ts) := by
    have hlast : (acc ++ [Part.notCode k]).getLast? = some (.notCode k) := List.getLast?_concat
    rw [repeatLast, hlast]
    dsimp only
    rw [run_bind_ok (accept_run_of_ne hlazy), if_neg Bool.false_ne_true,
      run_bind_ok (accept_run_of_ne hpossessive), if_neg Bool.false_ne_true, List.dropLast_concat]
    rfl
  simp only [Bool.false_and, Bool.false_eq_true, if_false, hbounds, pure_bind]
  exact run_bind_ok hrepeat

/-! ## 2. What pieces take -/

/-- What is written in a class: whether it is negated, and its characters. -/
def classParts : List Char → Bool × List Char
  | '!' :: cs => (true, cs)
  | '^' :: cs => (true, cs)
  | cs => (false, cs)

/-- Without the doubling of backslashes. -/
def undoubled : List Char → List Char
  | [] => []
  | '\\' :: '\\' :: cs => '\\' :: undoubled cs
  | c :: cs => c :: undoubled cs

/-- Whether a class holds a character; `body` is the class as a piece keeps it. -/
def classHolds (body : List Char) (a : Char) : Bool :=
  setHolds (classParts (undoubled body)).1 (members (classParts (undoubled body)).2) a

/-- `p.Takes cs`: the piece `p` of a pattern without `**` stands for the characters `cs`. -/
inductive Piece.Takes : Piece → List Char → Prop where
  /-- The character itself. -/
  | lit (a : Char) : Takes (.lit a) [a]
  /-- A character of a name. -/
  | one {a : Char} (inner : a ≠ '/') : Takes .one [a]
  /-- Characters of a name. -/
  | star {cs : List Char} (inner : '/' ∉ cs) : Takes .star cs
  /-- A character that the class holds. -/
  | cls {body : List Char} {a : Char} (holds : classHolds body a = true) : Takes (.cls body) [a]

/-- `p.Reads ts q`: the tokens `ts` that the piece `p` is written as are read as the part `q`. -/
inductive Piece.Reads : Piece → List (List Char) → Part → Prop where
  | lit (a : Char) : Reads (.lit a) [litToken a] (.code (Text.codeOf a))
  | one : Reads .one (['['] :: setTokens true ['/']) (ofItems true (members ['/']))
  | star : Reads .star (['['] :: (setTokens true ['/'] ++ [['*']]))
      (.rounds .greedy 0 none [ofItems true (members ['/'])])
  | cls {body : List Char} (hsome : (classParts body).2 ≠ []) (htail : ']' ∉ (classParts body).2.tail) :
      Reads (.cls (classBody body)) (['['] :: setTokens (classParts body).1 (classParts body).2)
        (ofItems (classParts body).1 (members (classParts body).2))

variable {p : Piece} {q : Part}

theorem classParts_of_unsigned {b : Char} {bs : List Char} (hbang : b ≠ '!') (hcaret : b ≠ '^') :
    classParts (b :: bs) = (false, b :: bs) := by
  unfold classParts
  split
  · exact absurd (List.cons.inj ‹_›).1 hbang
  · exact absurd (List.cons.inj ‹_›).1 hcaret
  · rfl

theorem classParts_head (body : List Char) : (classParts body).1 = true ∨ (classParts body).2.head? ≠ some '^' := by
  unfold classParts
  split
  · exact .inl rfl
  · exact .inl rfl
  · rename_i _ hnot
    refine .inr ?_
    cases body with
    | nil => nofun
    | cons b bs =>
      intro he
      cases he
      exact hnot bs rfl

theorem undoubled_doubled (cs : List Char) :
    undoubled (cs.flatMap fun c => if c = '\\' then ['\\', '\\'] else [c]) = cs := by
  induction cs with
  | nil => rfl
  | cons c cs ih =>
    rw [List.flatMap_cons]
    split
    · rename_i hc
      rw [List.cons_append, List.cons_append, List.nil_append, undoubled, ih, hc]
    · rename_i hc
      rw [List.singleton_append, undoubled, ih]
      intro _ he
      exact absurd he hc

/-- A piece keeps what is written in a class. -/
theorem classParts_undoubled_classBody (body : List Char) :
    classParts (undoubled (classBody body)) = classParts body := by
  have hbody := undoubled_doubled body
  unfold classBody
  split
  · rename_i rest hhead
    rw [hhead] at hbody
    rw [← hbody]
    rfl
  · rw [hbody]

/-- A class as regular expressions write it. -/
theorem flatten_setTokens_classParts (body : List Char) :
    (setTokens (classParts body).1 (classParts body).2).flatten = classBody body ++ [']'] := by
  have hmap : ∀ cs : List Char, (cs.map memberToken).flatten =
      cs.flatMap fun c => if c = '\\' then ['\\', '\\'] else [c] := fun cs => rfl
  have hflat : ∀ negated (cs : List Char), (setTokens negated cs).flatten =
      (if negated then ['^'] else []) ++ (cs.flatMap fun c => if c = '\\' then ['\\', '\\'] else [c]) ++ [']'] := by
    intro negated cs
    rw [← hmap, setTokens]
    cases negated <;> simp
  rw [hflat, List.append_left_inj]
  unfold classBody
  cases body with
  | nil => rfl
  | cons b bs =>
    by_cases hbang : b = '!'
    · subst hbang
      rfl
    · by_cases hcaret : b = '^'
      · subst hcaret
        rfl
      · rw [classParts_of_unsigned hbang hcaret, if_neg Bool.false_ne_true, List.nil_append]
        split
        · rename_i hhead
          rw [List.flatMap_cons] at hhead
          split at hhead
          · cases hhead
          · exact absurd (List.cons.inj hhead).1 hbang
        · rfl

theorem Piece.Reads.flatten_eq (h : p.Reads ts q) : ts.flatten = p.regex := by
  cases h with
  | lit a =>
    rw [List.flatten_singleton]
    rfl
  | one => rfl
  | star => rfl
  | @cls body =>
    rw [List.flatten_cons, flatten_setTokens_classParts]
    rfl

theorem isToken_of_mem_class (negated : Bool) (cs : List Char) (hts : ∀ t ∈ ts, IsToken t) :
    ∀ t ∈ ['['] :: (setTokens negated cs ++ ts), IsToken t :=
  List.forall_mem_cons.mpr ⟨.plain (by decide), isToken_of_mem_setTokens cs hts⟩

theorem Piece.Reads.isToken (h : p.Reads ts q) : ∀ t ∈ ts, IsToken t := by
  have hnone : ∀ t ∈ ([] : List (List Char)), IsToken t := nofun
  have hstar : ∀ t ∈ [['*']], IsToken t := List.forall_mem_cons.mpr ⟨.plain (by decide), hnone⟩
  have hclass : ∀ negated cs, ∀ t ∈ ['['] :: setTokens negated cs, IsToken t := by
    intro negated cs
    have h := isToken_of_mem_class negated cs hnone
    rwa [List.append_nil] at h
  cases h with
  | lit a => exact List.forall_mem_cons.mpr ⟨isToken_litToken a, hnone⟩
  | one => exact hclass true ['/']
  | star => exact isToken_of_mem_class true ['/'] hstar
  | cls => exact hclass _ _

/-- The tokens of a piece do not start with the sign of a repetition. -/
theorem Piece.Reads.head (h : p.Reads ts q) (us : List (List Char)) :
    (ts ++ us).head? ≠ some ['?'] ∧ (ts ++ us).head? ≠ some ['+'] := by
  cases h with
  | lit a =>
    have hne : ∀ b ∈ special, litToken a ≠ [b] := by
      intro b hb he
      unfold litToken at he
      split at he
      · cases he
      · cases he
        exact absurd (List.contains_iff_mem.mpr hb) ‹_›
    rw [List.singleton_append, List.head?_cons, Ne, Ne, Option.some.injEq, Option.some.injEq]
    exact ⟨hne '?' (by decide), hne '+' (by decide)⟩
  | one => exact ⟨nofun, nofun⟩
  | star => exact ⟨nofun, nofun⟩
  | cls => exact ⟨nofun, nofun⟩

/-- **A piece is read as its part.** -/
theorem Piece.Reads.readSeq_run (h : p.Reads ts q) {us : List (List Char)} {r : List Part × Cursor}
    (hus : ∀ t ∈ us, IsToken t) (hlazy : us.head? ≠ some ['?']) (hpossessive : us.head? ≠ some ['+'])
    (hrun : (readSeq (fuel + 2) 0 false first acc).run (c.before n (ts ++ us)) = .ok r) :
    ∃ k l, fuel ≤ l ∧ (readSeq l 0 false first (acc ++ [q])).run (c.before k us) = .ok r := by
  cases h with
  | lit a => exact ⟨_, fuel + 1, by omega, (readSeq_run_lit hus).symm.trans hrun⟩
  | one =>
    obtain ⟨k, h⟩ := readSeq_run_set hus (List.cons_ne_nil _ _) (.inl rfl) (by simp) hrun
    exact ⟨k, fuel + 1, by omega, h⟩
  | star =>
    have hstar : ∀ t ∈ ['*'] :: us, IsToken t := List.forall_mem_cons.mpr ⟨.plain (by decide), hus⟩
    rw [List.cons_append, List.append_assoc, List.singleton_append] at hrun
    obtain ⟨k, h⟩ := readSeq_run_set hstar (List.cons_ne_nil _ _) (.inl rfl) (by simp) hrun
    exact ⟨_, fuel, by omega, (readSeq_run_star hus hlazy hpossessive).symm.trans h⟩
  | cls hsome htail =>
    obtain ⟨k, h⟩ := readSeq_run_set hus hsome (classParts_head _) htail hrun
    exact ⟨k, fuel + 1, by omega, h⟩

/-! ## 3. Whole expressions -/

/-- The parts that pieces are read as. -/
abbrev Stand (ps : List Piece) (qs : List Part) : Prop := List.Forall₂ (fun p q => ∃ ts, Piece.Reads p ts q) ps qs

variable {ps : List Piece} {qs : List Part}

/-- The tokens of some pieces, and what reading them gives. -/
structure Spelled (ps : List Piece) (ts : List (List Char)) : Prop where
  flatten_eq : ts.flatten = ps.flatMap Piece.regex
  isToken : ∀ t ∈ ts, IsToken t
  head : ts.head? ≠ some ['?'] ∧ ts.head? ≠ some ['+']
  run : ∀ {fuel : Nat} {first : Bool} {acc : List Part} {c : Cursor} {n : Nat} {r : List Part × Cursor},
    2 * ps.length < fuel → (readSeq fuel 0 false first acc).run (c.before n ts) = .ok r →
      ∃ qs k, r = (acc ++ qs, c.before k []) ∧ Stand ps qs

/-- **Pieces that can be read are spelled out**, one after the other. -/
theorem exists_spelled (hps : ∀ p ∈ ps, ∃ ts q, p.Reads ts q) : ∃ ts, Spelled ps ts := by
  induction ps with
  | nil =>
    refine ⟨[], rfl, nofun, ⟨nofun, nofun⟩, ?_⟩
    intro fuel first acc c n r hfuel h
    obtain ⟨fuel, rfl⟩ : ∃ l, fuel = l + 1 := ⟨fuel - 1, by omega⟩
    rw [readSeq, run_bind_ok (m := get) rfl] at h
    cases h
    exact ⟨[], n, by rw [List.append_nil], .nil⟩
  | cons p ps ih =>
    obtain ⟨us, hus⟩ := ih fun p' hp' => hps p' (List.mem_cons_of_mem p hp')
    obtain ⟨ts, q, hp⟩ := hps p List.mem_cons_self
    refine ⟨ts ++ us, ?_, ?_, hp.head us, ?_⟩
    · rw [List.flatten_append, hp.flatten_eq, hus.flatten_eq, List.flatMap_cons]
    · intro t ht
      rcases List.mem_append.mp ht with ht | ht
      · exact hp.isToken t ht
      · exact hus.isToken t ht
    · intro fuel first acc c n r hfuel h
      rw [List.length_cons] at hfuel
      obtain ⟨fuel, rfl⟩ : ∃ l, fuel = l + 2 := ⟨fuel - 2, by omega⟩
      obtain ⟨k, l, hl, h⟩ := hp.readSeq_run hus.isToken hus.head.1 hus.head.2 h
      obtain ⟨qs, k', rfl, hqs⟩ := hus.run (by omega) h
      exact ⟨q :: qs, k', by rw [List.append_assoc, List.singleton_append], .cons ⟨ts, hp⟩ hqs⟩

/-- There are no groups among the parts. -/
theorem ungroup_of_stand (h : Stand ps qs) : ungroup qs = qs := by
  induction h with
  | nil => rfl
  | @cons p q ps qs hq _ ih =>
    obtain ⟨ts, hq⟩ := hq
    have hone : ungroup [q] = [q] := by
      cases hq with
      | lit a => rfl
      | one => rfl
      | star => rfl
      | cls =>
        unfold ofItems
        split
        · split <;> rfl
        · rfl
    have hcons : ungroup (q :: qs) = ungroup [q] ++ ungroup qs := by
      rw [ungroup, List.flatMap_cons, ungroup, List.flatMap_singleton, ungroup]
    rw [hcons, hone, ih]
    rfl

/-- No piece is written as nothing. -/
theorem length_le_length_regex : ∀ ps : List Piece, ps.length ≤ (ps.flatMap Piece.regex).length
  | [] => Nat.le_refl 0
  | p :: ps => by
    have hps := length_le_length_regex ps
    have hp : 0 < p.regex.length := by
      cases p with
      | lit a =>
        have hlit : (Piece.lit a).regex = litToken a := rfl
        rw [hlit, litToken]
        split <;> exact Nat.zero_lt_succ _
      | one => exact Nat.zero_lt_succ _
      | star => exact Nat.zero_lt_succ _
      | deep => exact Nat.zero_lt_succ _
      | deepDir => exact Nat.zero_lt_succ _
      | cls body => exact Nat.zero_lt_succ _
    rw [List.flatMap_cons, List.length_append, List.length_cons]
    omega

/-- The alternatives of an expression without bars and groups are one sequence. -/
theorem readBranches_run {parts : List Part} {c'' : Cursor} (hts : Spelled ps ts) (hfuel : 2 * ps.length < fuel)
    (h : (readBranches (fuel + 1) 0 false).run (c.before n ts) = .ok (parts, c'')) :
    ∃ k, c'' = c.before k [] ∧ Stand ps parts := by
  rw [readBranches, if_neg (Nat.not_lt_zero deepest)] at h
  obtain ⟨qs, c', hseq, h⟩ := run_bind_eq_ok h
  obtain ⟨qs', k, he, hqs⟩ := hts.run hfuel hseq
  cases he
  obtain ⟨fuel, rfl⟩ : ∃ l, fuel = l + 1 := ⟨fuel - 1, by omega⟩
  have hothers : (readOthers (fuel + 1) 0 false).run (c.before k []) = .ok ([], c.before k []) := by
    rw [readOthers, run_bind_ok (accept_run_of_ne (by simp)), if_neg Bool.false_ne_true]
    rfl
  have h := (run_bind_ok hothers).symm.trans h
  cases h
  refine ⟨k, rfl, ?_⟩
  rw [List.nil_append, ungroup_of_stand hqs]
  exact hqs

/-- **The expression of a pattern is its parts**, without any settings. -/
theorem stand_of_read {r : Pattern} (hps : ∀ p ∈ ps, ∃ ts q, p.Reads ts q)
    (h : Regex.read (String.ofList (ps.flatMap Piece.regex)) = .ok r) : r.flags = {} ∧ Stand ps r.parts := by
  obtain ⟨ts, hts⟩ := exists_spelled hps
  have hlen := length_le_length_regex ps
  rw [← hts.flatten_eq] at hlen
  rw [Regex.read, String.toList_ofList, readChars, ← hts.flatten_eq, StateT.run'_eq] at h
  cases hrun : (reading ts.flatten).run (start ts.flatten) with
  | error e =>
    rw [hrun] at h
    cases h
  | ok e =>
    rw [hrun] at h
    cases h
    rw [reading] at hrun
    have hrun := (run_bind_ok (load_run hts.isToken)).symm.trans hrun
    obtain ⟨parts, c, hbranches, hrun⟩ := run_bind_eq_ok hrun
    obtain ⟨k, rfl, hparts⟩ := readBranches_run hts (by omega) hbranches
    rw [run_bind_ok (m := get) rfl] at hrun
    simp [Cursor.before, start] at hrun
    split at hrun
    · cases hrun
    · have he : (⟨parts, {}⟩ : Pattern) = e.1 := congrArg Prod.fst (Except.ok.inj hrun)
      dsimp only
      rw [← he]
      exact ⟨rfl, hparts⟩

/-! ## 4. Matching -/

variable {text : Array Char} {i : Nat} {caps : Captures} {k : Nat → Captures → Outcome} {r : Nat × Captures}

/-- Everything but a slash. -/
theorem setHolds_not_slash : setHolds true (members ['/']) a = true ↔ a ≠ '/' := by
  have hcode : setHolds true (members ['/']) a = !(Text.codeOf '/' == Text.codeOf a) := by
    simp [setHolds, members, SetItem.fits]
  rw [hcode, Bool.not_eq_true', beq_eq_false_iff_ne]
  constructor
  · rintro h rfl
    exact h rfl
  · intro h he
    exact h (codeOf_inj he).symm

/-- **What the part of a piece matches is what the piece takes.** -/
theorem Piece.Reads.runPart (h : p.Reads ts q) {fuel : Nat}
    (hrun : Regex.runPart text fuel {} q i caps k = some r) :
    ∃ cs j, left text i = cs ++ left text j ∧ p.Takes cs ∧ k j caps = some r := by
  cases h with
  | lit a =>
    obtain ⟨b, hleft, hb, hk⟩ := single_code _ hrun
    rw [← codeOf_inj hb] at hleft
    exact ⟨[a], i + 1, hleft, .lit a, hk⟩
  | one =>
    obtain ⟨a, hleft, ha, hk⟩ := single_ofItems _ _ hrun
    exact ⟨[a], i + 1, hleft, .one (setHolds_not_slash.mp ha), hk⟩
  | star =>
    obtain ⟨cs, j, hleft, hall, hk⟩ := runPart_rounds_single (single_ofItems true (members ['/'])) hrun
    exact ⟨cs, j, hleft, .star fun hin => setHolds_not_slash.mp (hall _ hin) rfl, hk⟩
  | @cls body =>
    obtain ⟨a, hleft, ha, hk⟩ := single_ofItems _ _ hrun
    refine ⟨[a], i + 1, hleft, .cls ?_, hk⟩
    rw [classHolds, classParts_undoubled_classBody]
    exact ha

theorem takes_of_runSeq (hqs : Stand ps qs) {fuel : Nat} (h : runSeq text fuel {} qs i caps k = some r) :
    ∃ spans j, left text i = spans.flatten ++ left text j ∧ List.Forall₂ Piece.Takes ps spans ∧ k j caps = some r := by
  induction hqs generalizing fuel i with
  | nil => exact ⟨[], i, rfl, .nil, of_runSeq_nil h⟩
  | @cons p q ps qs hq _ ih =>
    obtain ⟨ts, hq⟩ := hq
    obtain ⟨fuel, h⟩ := of_runSeq_cons h
    obtain ⟨cs, j, hleft, htakes, h⟩ := hq.runPart h
    obtain ⟨spans, j', hrest, hspans, hk⟩ := ih h
    exact ⟨cs :: spans, j', by rw [hleft, hrest, List.flatten_cons, List.append_assoc], .cons htakes hspans, hk⟩

/-- **An expression of pieces matches a text only if the pieces take it, one after the other.** -/
theorem takes_of_matchesAll {e : Pattern} {s : String} (hflags : e.flags = {}) (hparts : Stand ps e.parts)
    (h : e.matchesAll s = true) : ∃ spans, s.toList = spans.flatten ∧ List.Forall₂ Piece.Takes ps spans := by
  obtain ⟨r, hrun⟩ := Option.isSome_iff_exists.mp h
  rw [Pattern.run, hflags] at hrun
  obtain ⟨spans, j, hleft, hspans, hend⟩ := takes_of_runSeq hparts hrun
  split at hend
  · rename_i hj
    have hj : left s.toList.toArray j = [] := by
      rw [beq_iff_eq.mp hj, left]
      simp
    rw [hj, List.append_nil] at hleft
    exact ⟨spans, hleft, hspans⟩
  · cases hend

/-! ## 5. Whole patterns -/

/-- The word of a piece says how it is read, unless it is `**` or an empty negation. -/
theorem Piece.Written.reads {word : List Char} (h : p.Written word) (hdeep : ¬ ['*', '*'] <:+: word)
    (hempty : p ≠ .cls ['^']) : ∃ ts q, p.Reads ts q := by
  cases h with
  | @lit a => exact ⟨_, _, .lit a⟩
  | one => exact ⟨_, _, .one⟩
  | star => exact ⟨_, _, .star⟩
  | deep => exact absurd ⟨[], [], rfl⟩ hdeep
  | deepDir => exact absurd ⟨[], ['/'], rfl⟩ hdeep
  | @cls b run hrun =>
    by_cases hsign : b = '!' ∨ b = '^'
    · have hsome : run ≠ [] := by
        rintro rfl
        rcases hsign with rfl | rfl
        · exact hempty rfl
        · exact hempty rfl
      have hparts : classParts (b :: run) = (true, run) := by
        rcases hsign with rfl | rfl
        · rfl
        · rfl
      refine ⟨_, _, @Piece.Reads.cls (b :: run) ?_ ?_⟩
      · rw [hparts]
        exact hsome
      · rw [hparts]
        exact fun hin => hrun (List.mem_of_mem_tail hin)
    · have hparts := @classParts_of_unsigned b run (fun he => hsign (.inl he)) fun he => hsign (.inr he)
      refine ⟨_, _, @Piece.Reads.cls (b :: run) ?_ ?_⟩
      · rw [hparts]
        exact List.cons_ne_nil b run
      · rw [hparts]
        exact hrun

/-- Without classes the pieces take what they span. -/
theorem takes_of_fits {cs : List Char} (hps : ∀ p ∈ ps, ∃ ts q, p.Reads ts q) (h : fits ps cs = true) :
    ∃ spans, cs = spans.flatten ∧ List.Forall₂ Piece.Takes ps spans := by
  induction ps generalizing cs with
  | nil =>
    rw [fits, List.isEmpty_iff] at h
    exact ⟨[], h, .nil⟩
  | cons p ps ih =>
    obtain ⟨a, b, rfl, hspans, hb⟩ := fits_cons_iff.mp h
    obtain ⟨spans, rfl, htakes⟩ := ih (fun p' hp' => hps p' (List.mem_cons_of_mem p hp')) hb
    obtain ⟨ts, q, hp⟩ := hps p List.mem_cons_self
    refine ⟨a :: spans, rfl, .cons ?_ htakes⟩
    cases hspans with
    | lit a => exact .lit a
    | one hinner => exact .one hinner
    | star hinner => exact .star hinner
    | deep => cases hp
    | here => cases hp
    | deepDir => cases hp

/-- **A path that a pattern without `**` matches is taken piece by piece.** -/
theorem takes_of_glob {path pattern : String} (hdeep : ¬ "**".toList <:+: pattern.toList)
    (hempty : Piece.cls ['^'] ∉ pieces (Path.normal pattern).toList) (h : glob path pattern = .ok true) :
    ∃ spans, (Path.normal path).toList = spans.flatten ∧
      List.Forall₂ Piece.Takes (pieces (Path.normal pattern).toList) spans := by
  have hreads : ∀ p ∈ pieces (Path.normal pattern).toList, ∃ ts q, p.Reads ts q := by
    intro p hp
    obtain ⟨word, hword, hin⟩ := exists_word_of_mem_pieces hp
    have hstar : '*' ≠ '/' := by decide
    exact hword.reads (fun hpair => hdeep (Path.pair_infix_of_normal hstar (hpair.trans hin))) fun he => hempty (he ▸ hp)
  rw [glob, compile] at h
  split at h
  · cases hread : Regex.read (String.ofList ((pieces (Path.normal pattern).toList).flatMap Piece.regex)) with
    | error r =>
      rw [hread] at h
      cases h
    | ok e =>
      rw [hread] at h
      obtain ⟨hflags, hparts⟩ := stand_of_read hreads hread
      exact takes_of_matchesAll hflags hparts (Except.ok.inj h)
  · exact takes_of_fits hreads (Except.ok.inj h)

end Glob

end AgentLint
