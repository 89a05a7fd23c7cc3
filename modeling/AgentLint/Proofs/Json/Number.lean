import AgentLint.Json.Reader
import AgentLint.Json.Writer
import AgentLint.Proofs.Decimal

/-!
# Doubles in JSON texts

A double is written as a word, for infinities and what is no number, or as digits with a point or an exponent.
Either is read as a double, up to its end and whatever follows it, as long as that does not go on with the
number (`exists_readValue_floatText`).  Which double that is does not matter here.
-/

namespace AgentLint

namespace Decimal

/-! ## 1. Digits and what follows them -/

/-- What does not go on with a number. -/
def EndsNumber (rest : List Char) : Prop :=
  ∀ c ∈ rest.head?, c.isDigit = false ∧ c ≠ '.' ∧ c ≠ 'e' ∧ c ≠ 'E'

theorem endsNumber_nil : EndsNumber [] := by
  intro c hc
  cases hc

variable {ds fs rest : List Char}

theorem spanDigits_append (hds : ∀ c ∈ ds, c.isDigit = true) (hrest : ∀ c ∈ rest.head?, c.isDigit = false) :
    spanDigits (ds ++ rest) = (ds, rest) := by
  unfold spanDigits
  rw [List.takeWhile_append_of_pos hds, List.dropWhile_append_of_pos hds]
  cases rest with
  | nil => simp
  | cons c rest =>
    have hc : c.isDigit = false := hrest c rfl
    simp [hc]

theorem fraction?_append (hfs : ∀ c ∈ fs, c.isDigit = true) (hne : fs ≠ [])
    (hrest : ∀ c ∈ rest.head?, c.isDigit = false) : fraction? ('.' :: (fs ++ rest)) = some (fs, rest) := by
  have hempty : fs.isEmpty = false := by simpa using hne
  rw [fraction?, spanDigits_append hfs hrest]
  simp only [hempty, Bool.false_eq_true, if_false]

theorem fraction?_eq_none (h : ∀ c ∈ rest.head?, c ≠ '.') : fraction? rest = none := by
  unfold fraction?
  split
  · exact absurd rfl (h '.' rfl)
  · rfl

theorem exponent?_eq_none (h : ∀ c ∈ rest.head?, c ≠ 'e' ∧ c ≠ 'E') : exponent? rest = none := by
  cases rest with
  | nil => rfl
  | cons c rest =>
    have hc := h c rfl
    unfold exponent?
    exact if_neg (by simpa using hc)

/-- The characters of a written exponent. -/
theorem toList_exponentText (e : Int) : ∃ (neg : Bool) (ds : List Char), ds ≠ [] ∧
    (∀ c ∈ ds, c.isDigit = true) ∧ (exponentText e).toList = 'e' :: (if neg then '-' else '+') :: ds := by
  have hdigits : ∀ c ∈ Nat.toDigits 10 e.natAbs, c.isDigit = true := fun c hc =>
    isDigit_of_mem_text (d := ⟨e.natAbs, 0⟩) hc
  unfold exponentText
  simp only [String.toList_ofList]
  by_cases hlen : (Nat.toDigits 10 e.natAbs).length < 2
  · rw [if_pos hlen]
    refine ⟨decide (e < 0), '0' :: Nat.toDigits 10 e.natAbs, List.cons_ne_nil _ _, ?_, by simp⟩
    exact List.forall_mem_cons.mpr ⟨by decide, hdigits⟩
  · rw [if_neg hlen]
    exact ⟨decide (e < 0), Nat.toDigits 10 e.natAbs, text_ne_nil ⟨e.natAbs, 0⟩, hdigits, by simp⟩

/-- A written exponent is read. -/
theorem exponent?_exponentText (e : Int) : ∃ e', ∀ rest : List Char,
    (∀ c ∈ rest.head?, c.isDigit = false) → exponent? ((exponentText e).toList ++ rest) = some (e', rest) := by
  obtain ⟨neg, ds, hne, hds, htext⟩ := toList_exponentText e
  have hempty : ds.isEmpty = false := by simpa using hne
  refine ⟨if neg then -(ofDigits ds : Int) else (ofDigits ds : Int), fun rest hrest => ?_⟩
  rw [htext, List.cons_append, List.cons_append]
  unfold exponent?
  cases neg
  · simp only [Bool.false_eq_true, if_false, decide_true, Bool.true_or, if_true, spanDigits_append hds hrest,
      hempty]
  · simp only [Bool.false_eq_true, if_false, decide_true, Bool.true_or, if_true, spanDigits_append hds hrest,
      hempty]

end Decimal

namespace Json

open Decimal

variable {body ds fs rest tail : List Char}

/-! ## 2. Numbers -/

theorem whole?_append (hds : ∀ c ∈ ds, c.isDigit = true) (hne : ds ≠ []) (hzero : ∀ c ∈ ds.head?, c ≠ '0')
    (hrest : ∀ c ∈ rest.head?, c.isDigit = false) : whole? (ds ++ rest) = some (ds, rest) := by
  obtain ⟨d, ds', rfl⟩ := List.exists_cons_of_ne_nil hne
  have hspan := spanDigits_append hds hrest
  have hd : d ≠ '0' := hzero d rfl
  rw [List.cons_append] at hspan ⊢
  rw [whole?]
  · rw [if_pos (hds d List.mem_cons_self), hspan]
  · exact fun h => absurd h hd

theorem whole?_zero (rest : List Char) : whole? ('0' :: rest) = some (['0'], rest) := rfl

/-- What a whole part starts with. -/
theorem head_of_whole? {r : List Char × List Char} (h : whole? body = some r) :
    ∃ c rest, body = c :: rest ∧ c.isDigit = true := by
  unfold whole? at h
  split at h
  · exact ⟨_, _, rfl, by decide⟩
  · split at h
    · rename_i hc
      exact ⟨_, _, rfl, hc⟩
    · cases h
  · cases h

/-- The characters of a sign. -/
def signChars (neg : Bool) : List Char := if neg then ['-'] else []

/-- A number, given its parts: an integer, unless it has a fraction or an exponent. -/
theorem readNumber_of_parts (hwhole : whole? body = some (ds, tail)) {f : Option (List Char × List Char)}
    {x : Option (Int × List Char)} (hf : fraction? tail = f) (hx : exponent? ((f.map Prod.snd).getD tail) = x)
    (neg : Bool) :
    readNumber (signChars neg ++ body) =
      if f.isNone && x.isNone then
        if mostDigits < ds.length then some (.error (.digits ds.length))
        else some (.ok (.int (if neg then -(ofDigits ds : Int) else ofDigits ds), tail))
      else some (.ok (.float (Binary64.ofDecimal neg (ofDigits (ds ++ (f.map Prod.fst).getD []))
        ((x.map Prod.fst).getD 0 - ((f.map Prod.fst).getD []).length)),
          (x.map Prod.snd).getD ((f.map Prod.snd).getD tail))) := by
  unfold readNumber
  split
  rename_i n b hsplit
  obtain ⟨rfl, rfl⟩ : n = neg ∧ b = body := by
    cases neg with
    | true =>
      cases hsplit
      exact ⟨rfl, rfl⟩
    | false =>
      obtain ⟨c, rest, rfl, hc⟩ := head_of_whole? hwhole
      split at hsplit
      · rename_i heq
        obtain ⟨rfl, -⟩ := List.cons.inj heq
        exact absurd hc (by decide)
      · cases hsplit
        exact ⟨rfl, rfl⟩
  simp only [hwhole, hf, hx]

theorem ofDigits_toDigits (n : Nat) : ofDigits (Nat.toDigits 10 n) = n := by
  have hfold : ∀ cs : List Char, ofDigits cs = Nat.ofDigitChars 10 cs 0 := by
    intro cs
    simp only [ofDigits, Nat.ofDigitChars, Nat.mul_comm]
    rfl
  rw [hfold, Nat.ofDigitChars_ten_toDigits]

/-- **A written number is read**, if it has no more digits than are read. -/
theorem readNumber_toDigits {n : Nat} (hn : n < 10 ^ mostDigits) (hrest : EndsNumber rest) (neg : Bool) :
    readNumber (signChars neg ++ (Nat.toDigits 10 n ++ rest)) =
      some (.ok (.int (if neg then -(n : Int) else n), rest)) := by
  have hds : ∀ c ∈ Nat.toDigits 10 n, c.isDigit = true := fun c hc => isDigit_of_mem_text (d := ⟨n, 0⟩) hc
  have hwhole : whole? (Nat.toDigits 10 n ++ rest) = some (Nat.toDigits 10 n, rest) := by
    by_cases hzero : n = 0
    · subst hzero
      exact whole?_zero rest
    · exact whole?_append hds (text_ne_nil ⟨n, 0⟩) (head_toDigits hzero) fun c hc => (hrest c hc).1
  have hfrac : fraction? rest = none := fraction?_eq_none fun c hc => (hrest c hc).2.1
  have hexp : exponent? rest = none := exponent?_eq_none fun c hc => (hrest c hc).2.2
  have hshort : (Nat.toDigits 10 n).length ≤ mostDigits :=
    (Nat.length_toDigits_le_iff (by decide) (by decide)).mpr hn
  rw [readNumber_of_parts hwhole hfrac hexp neg]
  simp only [Option.isNone_none, Bool.and_self, if_true, if_neg (Nat.not_lt.mpr hshort), ofDigits_toDigits]

/-- Characters that are read as a double with either sign, whatever follows that does not go on with the number. -/
def IsDouble (cs : List Char) : Prop :=
  ∃ y : Bool → Binary64, ∀ (neg : Bool) (rest : List Char), EndsNumber rest →
    readNumber (signChars neg ++ (cs ++ rest)) = some (.ok (.float (y neg), rest))

/-- Digits with a point. -/
theorem isDouble_point (ds fs : List Char) (hwhole : ∀ tail, whole? (ds ++ '.' :: tail) = some (ds, '.' :: tail))
    (hfs : ∀ c ∈ fs, c.isDigit = true) (hne : fs ≠ []) : IsDouble (ds ++ '.' :: fs) := by
  refine ⟨fun neg => Binary64.ofDecimal neg (ofDigits (ds ++ fs)) (0 - fs.length), fun neg rest hrest => ?_⟩
  have hfrac : fraction? ('.' :: (fs ++ rest)) = some (fs, rest) :=
    fraction?_append hfs hne fun c hc => (hrest c hc).1
  have hexp : exponent? rest = none := exponent?_eq_none fun c hc => (hrest c hc).2.2
  rw [List.append_assoc, List.cons_append]
  exact readNumber_of_parts (hwhole (fs ++ rest)) hfrac hexp neg

/-- A single digit is a whole part. -/
theorem whole?_digit {d : Char} (hd : d.isDigit = true) (rest : List Char) (hrest : ∀ c ∈ rest.head?, c.isDigit = false) :
    whole? (d :: rest) = some ([d], rest) := by
  by_cases hzero : d = '0'
  · rw [hzero, whole?_zero]
  · have hds : ∀ c ∈ [d], c.isDigit = true := by simpa using hd
    exact whole?_append hds (List.cons_ne_nil _ _) (by simpa using hzero) hrest

/-- What starts with an exponent starts with no digit. -/
theorem head_exponentText (e : Int) (rest : List Char) :
    ∀ c ∈ ((exponentText e).toList ++ rest).head?, c = 'e' := by
  obtain ⟨neg, ds, -, -, htext⟩ := toList_exponentText e
  rw [htext]
  intro c hc
  exact (Option.mem_some_iff.mp hc).symm

/-- A digit with an exponent. -/
theorem isDouble_exponent {d : Char} (hd : d.isDigit = true) (e : Int) :
    IsDouble (d :: (exponentText e).toList) := by
  obtain ⟨e', he'⟩ := exponent?_exponentText e
  refine ⟨fun neg => Binary64.ofDecimal neg (ofDigits [d]) e', fun neg rest hrest => ?_⟩
  have hexp := he' rest fun c hc => (hrest c hc).1
  have hhead := head_exponentText e rest
  have hfrac : fraction? ((exponentText e).toList ++ rest) = none :=
    fraction?_eq_none fun c hc => hhead c hc ▸ by decide
  have hwhole := whole?_digit hd ((exponentText e).toList ++ rest) fun c hc => hhead c hc ▸ by decide
  have hread := readNumber_of_parts hwhole hfrac hexp neg
  simpa using hread

/-- A digit with a point and an exponent. -/
theorem isDouble_point_exponent {d : Char} (hd : d.isDigit = true) (hfs : ∀ c ∈ fs, c.isDigit = true)
    (hne : fs ≠ []) (e : Int) : IsDouble (d :: '.' :: fs ++ (exponentText e).toList) := by
  obtain ⟨e', he'⟩ := exponent?_exponentText e
  refine ⟨fun neg => Binary64.ofDecimal neg (ofDigits (d :: fs)) (e' - fs.length), fun neg rest hrest => ?_⟩
  have hexp := he' rest fun c hc => (hrest c hc).1
  have hfrac : fraction? ('.' :: (fs ++ ((exponentText e).toList ++ rest))) =
      some (fs, (exponentText e).toList ++ rest) :=
    fraction?_append hfs hne fun c hc => head_exponentText e rest c hc ▸ by decide
  have hwhole := whole?_digit hd ('.' :: (fs ++ ((exponentText e).toList ++ rest))) fun c hc =>
    (Option.mem_some_iff.mp hc) ▸ by decide
  have hread := readNumber_of_parts hwhole hfrac hexp neg
  simpa using hread

/-- **Digits laid out positionally** are a double. -/
theorem isDouble_positional {d : Digits} (hd : d.digits ≠ 0) (point : Int) :
    IsDouble (positional true d.text point).toList := by
  have hds : ∀ c ∈ d.text, c.isDigit = true := fun c hc => isDigit_of_mem_text hc
  have hne := text_ne_nil d
  have hzeros : ∀ k, ∀ c ∈ List.replicate k '0', c.isDigit = true := fun k c hc =>
    List.eq_of_mem_replicate hc ▸ by decide
  have hpoint : ∀ tail : List Char, ∀ c ∈ ('.' :: tail).head?, c.isDigit = false := fun tail c hc =>
    (Option.mem_some_iff.mp hc) ▸ by decide
  obtain ⟨x, xs, hx⟩ := List.exists_cons_of_ne_nil hne
  have hhead : ∀ c ∈ d.text.head?, c ≠ '0' := head_toDigits hd
  unfold positional
  simp only [if_true]
  split
  · rw [String.toList_ofList]
    exact isDouble_point ['0'] (List.replicate (-point).toNat '0' ++ d.text)
      (fun tail => whole?_zero _) (List.forall_mem_append.mpr ⟨hzeros _, hds⟩) (by simp [hne])
  · split
    · rw [String.toList_ofList]
      refine isDouble_point _ ['0'] (fun tail => whole?_append ?_ (by simp [hne]) ?_ (hpoint tail))
        (hzeros 1) (List.cons_ne_nil _ _)
      · exact List.forall_mem_append.mpr ⟨hds, hzeros _⟩
      · rw [hx] at hhead ⊢
        exact hhead
    · rename_i hpos hlen
      rw [String.toList_ofList]
      have htake : d.text.take point.toNat ≠ [] := by
        rw [hx]
        obtain ⟨n, hn⟩ : ∃ n, point.toNat = n + 1 := ⟨point.toNat - 1, by omega⟩
        rw [hn]
        exact List.cons_ne_nil _ _
      refine isDouble_point _ _ (fun tail => whole?_append ?_ htake ?_ (hpoint tail)) ?_ ?_
      · exact fun c hc => hds c (List.mem_of_mem_take hc)
      · rw [List.head?_take, if_neg (by omega)]
        exact hhead
      · exact fun c hc => hds c (List.mem_of_mem_drop hc)
      · rw [ne_eq, List.drop_eq_nil_iff]
        exact hlen

/-- **Digits laid out with an exponent** are a double. -/
theorem isDouble_scientific (d : Digits) (point : Int) : IsDouble (scientific d.text point).toList := by
  have hds : ∀ c ∈ d.text, c.isDigit = true := fun c hc => isDigit_of_mem_text hc
  have hne := text_ne_nil d
  unfold scientific
  generalize d.text = ds at hds hne
  cases ds with
  | nil => exact absurd rfl hne
  | cons x ds =>
    have hx := hds x List.mem_cons_self
    cases ds with
    | nil =>
      rw [String.toList_append, String.toList_ofList]
      exact isDouble_exponent hx _
    | cons y ys =>
      rw [String.toList_append, String.toList_ofList]
      exact isDouble_point_exponent hx (fun c hc => hds c (List.mem_cons_of_mem x hc)) (List.cons_ne_nil _ _) _

/-! ## 3. Doubles as values -/

/-- What a number starts with. -/
theorem head_of_readNumber {cs : List Char} {r : Except Stop (Value × List Char)}
    (h : readNumber cs = some r) : ∃ neg c rest, cs = signChars neg ++ c :: rest ∧ c.isDigit = true := by
  unfold readNumber at h
  split at h
  rename_i neg body hsplit
  cases hwhole : whole? body with
  | none =>
    rw [hwhole] at h
    cases h
  | some parts =>
    obtain ⟨c, rest, rfl, hc⟩ := head_of_whole? hwhole
    split at hsplit
    · cases hsplit
      exact ⟨true, c, rest, rfl, hc⟩
    · cases hsplit
      exact ⟨false, c, rest, rfl, hc⟩

/-- A number is none of the words. -/
theorem readWord_of_digit (neg : Bool) {c : Char} (hc : c.isDigit = true) (rest : List Char) :
    readWord (signChars neg ++ c :: rest) = none := by
  have hne : ∀ x : Char, x.isDigit = false → x ≠ c := by
    rintro x hx rfl
    rw [hc] at hx
    cases hx
  cases neg
  · simp [readWord, words, signChars, hne 'n' (by decide), hne 't' (by decide), hne 'f' (by decide),
      hne 'N' (by decide), hne 'I' (by decide), hne '-' (by decide)]
  · simp [readWord, words, signChars, hne 'I' (by decide)]

/-- A number is read as a value, or refused as one. -/
theorem readValue_of_number {cs : List Char} {r : Except Stop (Value × List Char)}
    (h : readNumber cs = some r) (fuel depth : Nat) : readValue (fuel + 1) depth cs = r := by
  obtain ⟨neg, c, tail, rfl, hc⟩ := head_of_readNumber h
  have hword := readWord_of_digit neg hc tail
  obtain ⟨x, xs, hx, hne⟩ : ∃ x xs, signChars neg ++ c :: tail = x :: xs ∧ x ≠ '"' ∧ x ≠ '[' ∧ x ≠ '\x7b' := by
    cases neg with
    | true => exact ⟨'-', c :: tail, rfl, by decide, by decide, by decide⟩
    | false =>
      refine ⟨c, tail, rfl, ?_, ?_, ?_⟩ <;>
      · rintro rfl
        exact absurd hc (by decide)
  rw [hx] at h hword ⊢
  obtain ⟨hquote, hbracket, hbrace⟩ := hne
  rw [readValue]
  · simp only [hword, h, Option.getD_some]
  · exact fun _ he => hquote (List.cons.inj he).1
  · exact fun _ he => hbracket (List.cons.inj he).1
  · exact fun _ he => hbrace (List.cons.inj he).1

/-- **A written double is read as a double**, whatever follows that does not go on with the number. -/
theorem exists_readValue_floatText (x : Binary64) : ∃ y, ∀ (fuel depth : Nat) (rest : List Char),
    EndsNumber rest → readValue (fuel + 1) depth ((floatText x).toList ++ rest) = .ok (.float y, rest) := by
  have hsigned : ∀ {neg : Bool} {s : String}, IsDouble s.toList →
      ∃ y, ∀ (fuel depth : Nat) (rest : List Char), EndsNumber rest →
        readValue (fuel + 1) depth (((if neg then "-" else "") ++ s).toList ++ rest) = .ok (.float y, rest) := by
    rintro neg s ⟨y, hy⟩
    refine ⟨y neg, fun fuel depth rest hrest => readValue_of_number ?_ fuel depth⟩
    have hread := hy neg rest hrest
    cases neg <;> simpa [signChars] using hread
  unfold floatText
  split
  · exact ⟨_, fun _ _ _ _ => rfl⟩
  · rename_i neg _
    cases neg
    · exact ⟨_, fun _ _ _ _ => rfl⟩
    · exact ⟨_, fun _ _ _ _ => rfl⟩
  · rename_i neg mant exp hshape
    rcases render_cases hshape with h | ⟨d, hd, h | h⟩ <;> rw [h]
    · have hzero : ∀ c ∈ ['0'], c.isDigit = true := fun c hc => List.mem_singleton.mp hc ▸ by decide
      exact hsigned (isDouble_point ['0'] ['0'] (fun _ => whole?_zero _) hzero (List.cons_ne_nil _ _))
    · exact hsigned (isDouble_positional hd _)
    · exact hsigned (isDouble_scientific d _)

/-- **An integer with too many digits is refused**, although it is JSON. -/
theorem read_of_long {ds : List Char} (hds : ∀ c ∈ ds, c.isDigit = true) (hzero : ∀ c ∈ ds.head?, c ≠ '0')
    (hlong : mostDigits < ds.length) : read (String.ofList ds) = .error (.tooManyDigits ds.length) := by
  have hne : ds ≠ [] := List.length_pos_iff.mp (Nat.zero_lt_of_lt hlong)
  obtain ⟨d, ds', rfl⟩ := List.exists_cons_of_ne_nil hne
  have hd : d.isDigit = true := hds d List.mem_cons_self
  have hhead : ∀ x : Char, x.isDigit = false → d ≠ x := by
    rintro x hx rfl
    rw [hd] at hx
    cases hx
  have hwhole : whole? (d :: ds') = some (d :: ds', []) := by
    have happend : whole? ((d :: ds') ++ []) = some (d :: ds', []) := whole?_append hds hne hzero nofun
    rwa [List.append_nil] at happend
  have hnumber : readNumber (d :: ds') = some (.error (.digits (d :: ds').length)) := by
    have hparts := readNumber_of_parts hwhole (f := none) (x := none) rfl rfl false
    simp only [Option.isNone_none, Bool.and_self, if_true, if_pos hlong] at hparts
    exact hparts
  have hskip : skip (d :: ds') = d :: ds' := by
    have hblank : isSpace d = false := by
      simp [isSpace, hhead ' ' (by decide), hhead '\t' (by decide), hhead '\n' (by decide),
        hhead '\r' (by decide)]
    simp [skip, hblank]
  rw [read, readInside, String.toList_ofList]
  unfold readChars
  split
  · rename_i heq
    exact absurd (List.cons.inj heq).1 (hhead '\uFEFF' (by decide))
  · rw [hskip, readValue_of_number hnumber]
    rfl

end Json

end AgentLint
