import AgentLint.Proofs.Json.Quote

/-!
# Quoted texts and surrogate pairs

A text may hold the two halves of a surrogate pair one behind the other.  Quoted, they are written like the
character that they make, and so they come back as that character: reading a quoted text joins the halves of
each pair and leaves all else as it is (`readString_quote`).

A text is `Whole` if it has no such pair, and then it is read back (`readString_quote_of_whole`).
-/

namespace AgentLint

namespace Text

/-! ## 1. Halves -/

/-- The first half of a surrogate pair. -/
def isFirstHalf (c : Char) : Bool := 0xD800 ≤ codeOf c && codeOf c ≤ 0xDBFF

/-- The second half of a surrogate pair. -/
def isSecondHalf (c : Char) : Bool := 0xDC00 ≤ codeOf c && codeOf c ≤ 0xDFFF

/-- The character that two halves make. -/
def pairOf (c d : Char) : Char :=
  Char.ofNat (0x10000 + (codeOf c - 0xD800) * 0x400 + (codeOf d - 0xDC00))

/-- Characters with the halves of each pair joined. -/
def joinHalves : List Char → List Char
  | [] => []
  | [c] => [c]
  | c :: d :: cs =>
    if isFirstHalf c && isSecondHalf d then pairOf c d :: joinHalves cs else c :: joinHalves (d :: cs)

/-- A text with the halves of each pair joined. -/
def joined (s : String) : String := String.ofList (joinHalves s.toList)

/-- A text without the halves of a pair one behind the other. -/
def Whole (s : String) : Prop :=
  s.toList.IsChain fun c d => ¬ (isFirstHalf c = true ∧ isSecondHalf d = true)

instance (s : String) : Decidable (Whole s) := inferInstanceAs (Decidable (List.IsChain _ _))

/-- A text whose pairs are gone once they are joined.  That is so unless they make private characters that stand for
halves themselves. -/
def Settles (s : String) : Prop := Whole (joined s)

instance (s : String) : Decidable (Settles s) := inferInstanceAs (Decidable (Whole _))

theorem isFirstHalf_iff {c : Char} : isFirstHalf c = true ↔ 0xD800 ≤ codeOf c ∧ codeOf c ≤ 0xDBFF := by
  simp [isFirstHalf]

theorem isSecondHalf_iff {c : Char} : isSecondHalf c = true ↔ 0xDC00 ≤ codeOf c ∧ codeOf c ≤ 0xDFFF := by
  simp [isSecondHalf]

theorem joinHalves_of_isChain : ∀ {cs : List Char},
    cs.IsChain (fun c d => ¬ (isFirstHalf c = true ∧ isSecondHalf d = true)) → joinHalves cs = cs
  | [], _ => rfl
  | [c], _ => rfl
  | c :: d :: cs, h => by
    rw [List.isChain_cons_cons] at h
    rw [joinHalves, if_neg (by simpa using h.1), joinHalves_of_isChain h.2]

theorem joined_of_whole {s : String} (h : Whole s) : joined s = s := by
  rw [joined, joinHalves_of_isChain h, String.ofList_toList]

theorem Whole.settles {s : String} (h : Whole s) : Settles s := by
  rwa [Settles, joined_of_whole h]

theorem map_joined_of_whole {ss : List String} (h : ∀ s ∈ ss, Whole s) : ss.map joined = ss := by
  conv_rhs => rw [← List.map_id ss]
  exact List.map_congr_left fun s hs => joined_of_whole (h s hs)

theorem whole_of_noFirstHalf {s : String} (h : ∀ c ∈ s.toList, Json.NoFirstHalf c) : Whole s :=
  List.Pairwise.isChain (List.pairwise_of_forall_mem_list fun c hc _ _ hpair =>
    h c hc (isFirstHalf_iff.mp hpair.1))

theorem whole_of_safe {s : String} (h : Json.SafeText s) : Whole s := by
  refine whole_of_noFirstHalf fun c hc hfirst => ?_
  have hsafe := (h c hc).1
  rcases Json.codeOf_cases c with ⟨-, hsum, -⟩ | ⟨-, hcode⟩ <;> omega

theorem toNat_pairOf {c d : Char} (hc : isFirstHalf c = true) (hd : isSecondHalf d = true) :
    (pairOf c d).toNat = 0x10000 + (codeOf c - 0xD800) * 0x400 + (codeOf d - 0xDC00) := by
  rw [isFirstHalf_iff] at hc
  rw [isSecondHalf_iff] at hd
  rw [pairOf, Char.ofNat, dif_pos (.inr ⟨by omega, by omega⟩)]
  rfl

end Text

namespace Json

open Text

/-! ## 2. Units and what follows them -/

/-- Half of a pair is written by its code. -/
theorem escapeChar_half {c : Char} (hlo : 0xD800 ≤ codeOf c) (hhi : codeOf c ≤ 0xDFFF) :
    escapeChar c = unitEscape (codeOf c) := by
  rcases escapeChar_cases c with ⟨e, -, -, -, he⟩ | ⟨-, ⟨hsafe, -⟩, -⟩ | ⟨-, he⟩ | ⟨hhigh, -⟩
  · have hcode : codeOf c < 0xD800 := by
      unfold shortEscape? at he
      split at he <;> first | (rw [← Option.some.inj he]; decide) | cases he
    omega
  · rcases codeOf_cases c with ⟨-, h, -⟩ | ⟨-, h⟩ <;> omega
  · exact he
  · omega

/-- A unit that no other escape follows is a character of its own. -/
theorem numericEscape_alone {u : Nat} (hu : u < 0x10000) {rest : List Char} (hne : rest ≠ [])
    (hmark : ∀ more, rest ≠ '\\' :: 'u' :: more) :
    numericEscape (hex 4 u ++ rest) = .ok (ofCode u, rest) := by
  obtain ⟨e, more, rfl⟩ := List.exists_cons_of_ne_nil hne
  rw [numericEscape, unit?_hex hu]
  simp only
  split <;> rfl

/-- So is one that a unit follows which is no second half. -/
theorem numericEscape_before_unit {u v : Nat} (hu : u < 0x10000) (hv : v < 0x10000)
    (hnot : ¬ (0xDC00 ≤ v ∧ v ≤ 0xDFFF)) (e : Char) (more : List Char) :
    numericEscape (hex 4 u ++ (unitEscape v ++ e :: more)) = .ok (ofCode u, unitEscape v ++ e :: more) := by
  have hlen : ¬ (hex 4 v ++ e :: more).length < 5 := by
    rw [List.length_append, length_hex (by omega) (by omega), List.length_cons]
    omega
  have hsecond : (0xDC00 ≤ v && v ≤ 0xDFFF) = false := by simpa using hnot
  rw [unitEscape, List.cons_append, List.cons_append, numericEscape, unit?_hex hu]
  simp only [unit?_hex hv, hsecond, if_neg hlen, Bool.false_eq_true, if_false, ite_self]

/-- A unit before quoted characters, the first of which is no second half. -/
theorem numericEscape_before {u : Nat} (hu : u < 0x10000) {ds : List Char}
    (hds : ∀ d ∈ ds.head?, isSecondHalf d = false) (rest : List Char) :
    numericEscape (hex 4 u ++ (ds.flatMap escapeChar ++ '"' :: rest)) =
      .ok (ofCode u, ds.flatMap escapeChar ++ '"' :: rest) := by
  cases ds with
  | nil => exact numericEscape_alone hu (List.cons_ne_nil _ _) (by simp)
  | cons d ds =>
    obtain ⟨e, more, hmore⟩ : ∃ e more, ds.flatMap escapeChar ++ '"' :: rest = e :: more :=
      List.exists_cons_of_ne_nil (by simp)
    have hd : ¬ (0xDC00 ≤ codeOf d ∧ codeOf d ≤ 0xDFFF) := by
      rw [← isSecondHalf_iff, hds d rfl]
      exact Bool.false_ne_true
    rw [List.flatMap_cons, List.append_assoc, hmore]
    rcases escapeChar_cases d with ⟨f, he, hf, -⟩ | ⟨he, -, -, -, hback⟩ | ⟨hlow, he⟩ | ⟨hhigh, he⟩
    · exact numericEscape_alone hu (by simp [he]) (by simp [he, hf])
    · exact numericEscape_alone hu (by simp [he]) (by simp [he, hback])
    · rw [he]
      exact numericEscape_before_unit hu hlow hd e more
    · -- The first unit of the pair is a first half.
      have hlt := codeOf_lt d
      obtain ⟨x, xs, hx⟩ : ∃ x xs, unitEscape (0xDC00 + (codeOf d - 0x10000) % 0x400) ++ e :: more = x :: xs :=
        List.exists_cons_of_ne_nil (by simp)
      rw [he, List.append_assoc, hx]
      exact numericEscape_before_unit hu (by omega) (by omega) x xs

/-! ## 3. Reading a quoted text -/

/-- One quoted character is read as that character, if it makes no pair with the next. -/
theorem stringBody_step (start : List Char) (fuel : Nat) (acc : List Char) (c : Char) (ds : List Char)
    (h : ∀ d ∈ ds.head?, ¬ (isFirstHalf c = true ∧ isSecondHalf d = true)) (rest : List Char) :
    stringBody start (fuel + 1) acc (escapeChar c ++ (ds.flatMap escapeChar ++ '"' :: rest)) =
      stringBody start fuel (c :: acc) (ds.flatMap escapeChar ++ '"' :: rest) := by
  by_cases hfirst : isFirstHalf c = true
  · have hds : ∀ d ∈ ds.head?, isSecondHalf d = false := fun d hd => by
      simpa using fun hs => h d hd ⟨hfirst, hs⟩
    obtain ⟨hlo, hhi⟩ := isFirstHalf_iff.mp hfirst
    rw [escapeChar_half hlo (by omega), unitEscape, List.cons_append, List.cons_append, stringBody,
      numericEscape_before (by omega) hds, ofCode_codeOf]
  · obtain ⟨e, more, hmore⟩ : ∃ e more, ds.flatMap escapeChar ++ '"' :: rest = e :: more :=
      List.exists_cons_of_ne_nil (by simp)
    rw [hmore]
    exact stringBody_escapeChar start (fun hc => hfirst (isFirstHalf_iff.mpr hc)) fuel acc e more

/-- Two quoted halves are read as the character that they make. -/
theorem stringBody_pair (start : List Char) (fuel : Nat) (acc : List Char) {c d : Char}
    (hc : isFirstHalf c = true) (hd : isSecondHalf d = true) (e : Char) (rest : List Char) :
    stringBody start (fuel + 1) acc (escapeChar c ++ (escapeChar d ++ e :: rest)) =
      stringBody start fuel (pairOf c d :: acc) (e :: rest) := by
  obtain ⟨hlo, hhi⟩ := isFirstHalf_iff.mp hc
  obtain ⟨hlo', hhi'⟩ := isSecondHalf_iff.mp hd
  have hnum := numericEscape_pair (c := pairOf c d) hlo hhi hlo' hhi' (by
    rw [toNat_pairOf hc hd]) e rest
  rw [escapeChar_half hlo (by omega), escapeChar_half (by omega) hhi', unitEscape, unitEscape,
    List.cons_append, List.cons_append, List.cons_append, List.cons_append, stringBody, hnum]

/-- Characters that are quoted one by one are read as they are, but for pairs. -/
theorem stringBody_quoted (start : List Char) (rest : List Char) : ∀ (cs : List Char) {fuel : Nat}
    (acc : List Char), cs.length < fuel →
      stringBody start fuel acc (cs.flatMap escapeChar ++ '"' :: rest) =
        .ok (String.ofList (acc.reverse ++ joinHalves cs), rest) := by
  intro cs
  induction cs using joinHalves.induct with
  | case1 =>
    intro fuel acc hf
    obtain ⟨n, rfl⟩ : ∃ n, fuel = n + 1 := ⟨fuel - 1, by omega⟩
    simp [stringBody, joinHalves]
  | case2 c =>
    intro fuel acc hf
    rw [List.length_singleton] at hf
    obtain ⟨n, rfl⟩ : ∃ n, fuel = n + 1 + 1 := ⟨fuel - 2, by omega⟩
    have hstep := stringBody_step start (n + 1) acc c [] (by simp) rest
    rw [List.flatMap_cons, List.append_assoc, hstep]
    simp [stringBody, joinHalves]
  | case3 c d cs hpair ih =>
    intro fuel acc hf
    rw [List.length_cons, List.length_cons] at hf
    obtain ⟨n, rfl⟩ : ∃ n, fuel = n + 1 := ⟨fuel - 1, by omega⟩
    obtain ⟨hc, hd⟩ := (Bool.and_eq_true _ _).mp hpair
    obtain ⟨e, more, hmore⟩ : ∃ e more, cs.flatMap escapeChar ++ '"' :: rest = e :: more :=
      List.exists_cons_of_ne_nil (by simp)
    rw [joinHalves, if_pos hpair, List.flatMap_cons, List.flatMap_cons, List.append_assoc, List.append_assoc,
      hmore, stringBody_pair start n acc hc hd, ← hmore, ih _ (by omega)]
    simp
  | case4 c d cs hpair ih =>
    intro fuel acc hf
    rw [List.length_cons] at hf
    obtain ⟨n, rfl⟩ : ∃ n, fuel = n + 1 := ⟨fuel - 1, by omega⟩
    have hstep := stringBody_step start n acc c (d :: cs) (by simpa using hpair) rest
    rw [joinHalves, if_neg hpair, List.flatMap_cons, List.append_assoc, hstep, ih _ (by omega)]
    simp

theorem length_le_flatMap (cs : List Char) : cs.length ≤ (cs.flatMap escapeChar).length := by
  induction cs with
  | nil => exact Nat.le_refl 0
  | cons c cs ih =>
    have hne : 0 < (escapeChar c).length := by
      rcases escapeChar_cases c with ⟨f, he, -⟩ | ⟨he, -⟩ | ⟨-, he⟩ | ⟨-, he⟩
      · rw [he, List.length_cons]
        omega
      · rw [he, List.length_cons]
        omega
      · rw [he, unitEscape, List.length_cons]
        omega
      · rw [he, unitEscape, List.cons_append, List.length_cons]
        omega
    rw [List.flatMap_cons, List.length_append, List.length_cons]
    omega

/-- **Reading a quoted text** joins the halves of each pair, whatever follows it. -/
theorem readString_quote (s : String) (rest : List Char) :
    readString ((quote s).toList ++ rest) = .ok (joined s, rest) := by
  have hquote : (quote s).toList ++ rest = '"' :: (s.toList.flatMap escapeChar ++ '"' :: rest) := by
    simp [quote]
  have hlen := length_le_flatMap s.toList
  rw [hquote, readString, List.drop_one, List.tail_cons, stringBody_quoted]
  · rfl
  · simp only [List.length_cons, List.length_append]
    omega

theorem readString_quote_of_whole {s : String} (h : Whole s) (rest : List Char) :
    readString ((quote s).toList ++ rest) = .ok (s, rest) := by
  rw [readString_quote, joined_of_whole h]

/-- **A quoted text tells what it is and where it ends.** -/
theorem quote_append_cancel {s t : String} (hs : Whole s) (ht : Whole t) {x y : List Char}
    (h : (quote s).toList ++ x = (quote t).toList ++ y) : s = t ∧ x = y := by
  have hread := readString_quote_of_whole hs x
  rw [h, readString_quote_of_whole ht y] at hread
  exact Prod.mk.inj (Except.ok.inj hread.symm)

theorem quote_injective_of_whole {s t : String} (hs : Whole s) (ht : Whole t) (h : quote s = quote t) :
    s = t :=
  (quote_append_cancel (x := []) (y := []) hs ht (by rw [h])).1

end Json

end AgentLint
