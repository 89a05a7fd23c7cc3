import AgentLint.Json.Reader
import AgentLint.Json.Writer
import Mathlib.Algebra.Group.Nat.Defs
import Mathlib.Data.List.Basic
import Mathlib.Tactic.Common

/-!
# Quoted texts

A text is quoted character by character, each in one of four forms (`escapeChar_cases`), all of them
made of characters that a file keeps.  Reading a quoted character gives the character back, whatever
follows it (`stringBody_escapeChar`).

There is one exception.  The first half of a surrogate pair, followed by its other half, is written like
the character that they make; that is why `stringBody_escapeChar` is about other characters.
-/

namespace AgentLint

/-! ## 1. Digits -/

namespace Text

/-- The number that hexadecimal digits stand for. -/
def hexValue (cs : List Char) : Nat := cs.foldl (fun v c => v * 16 + (Json.hexDigit? c).getD 0) 0

theorem hexDigit?_digitChar : ∀ d < 16, Json.hexDigit? d.digitChar = some d := by
  decide

theorem hexValue_toDigits (n : Nat) : hexValue (Nat.toDigits 16 n) = n := by
  induction n using Nat.strongRecOn with
  | ind n ih =>
    rw [Nat.toDigits_eq_if (by omega)]
    split
    · rename_i hn
      simp [hexValue, hexDigit?_digitChar n hn]
    · rename_i hn
      have hq : n / 16 < n := Nat.div_lt_self (by omega) (by omega)
      have hd := hexDigit?_digitChar (n % 16) (Nat.mod_lt n (by omega))
      have hv := ih (n / 16) hq
      rw [hexValue] at hv ⊢
      rw [List.foldl_append, hv]
      simp only [List.foldl_cons, List.foldl_nil, hd, Option.getD_some]
      omega

theorem hexValue_replicate_append (k : Nat) (cs : List Char) :
    hexValue (List.replicate k '0' ++ cs) = hexValue cs := by
  induction k with
  | zero => rfl
  | succ k ih => exact ih

/-- **A number is read off its hexadecimal digits.** -/
theorem hexValue_hex (width n : Nat) : hexValue (hex width n) = n := by
  rw [hex, hexValue_replicate_append, hexValue_toDigits]

theorem length_hex {width n : Nat} (hw : 0 < width) (hn : n < 16 ^ width) :
    (hex width n).length = width := by
  have hle : (Nat.toDigits 16 n).length ≤ width := (Nat.length_toDigits_le_iff (by omega) hw).mpr hn
  simp only [hex, List.length_append, List.length_replicate]
  omega

/-- A hexadecimal digit, in lower case. -/
def IsHexDigit (c : Char) : Prop := c ∈ "0123456789abcdef".toList

theorem isHexDigit_digitChar : ∀ d < 16, IsHexDigit d.digitChar := by
  unfold IsHexDigit
  decide

theorem isHexDigit_of_mem_toDigits (n : Nat) : ∀ c ∈ Nat.toDigits 16 n, IsHexDigit c := by
  induction n using Nat.strongRecOn with
  | ind n ih =>
    rw [Nat.toDigits_eq_if (by omega)]
    split
    · rename_i hn
      intro c hc
      rw [List.mem_singleton] at hc
      exact hc ▸ isHexDigit_digitChar n hn
    · intro c hc
      rcases List.mem_append.mp hc with hc | hc
      · exact ih (n / 16) (Nat.div_lt_self (by omega) (by omega)) c hc
      · rw [List.mem_singleton] at hc
        exact hc ▸ isHexDigit_digitChar (n % 16) (Nat.mod_lt n (by omega))

theorem isHexDigit_of_mem_hex {width n : Nat} {c : Char} (hc : c ∈ hex width n) : IsHexDigit c := by
  rcases List.mem_append.mp hc with hc | hc
  · rw [List.eq_of_mem_replicate hc]
    unfold IsHexDigit
    decide
  · exact isHexDigit_of_mem_toDigits n c hc

end Text

/-! ## 2. Escapes -/

namespace Json

/-- A character that a file keeps as it is: ASCII, and no carriage return. -/
def IsSafe (c : Char) : Prop := c.toNat < 128 ∧ c ≠ '\r'

instance (c : Char) : Decidable (IsSafe c) := inferInstanceAs (Decidable (_ ∧ _))

/-- A text of such characters. -/
def SafeText (s : String) : Prop := ∀ c ∈ s.toList, IsSafe c

instance (s : String) : Decidable (SafeText s) := List.decidableBAll IsSafe s.toList

theorem isSafe_of_isHexDigit {c : Char} (h : Text.IsHexDigit c) : IsSafe c := by
  have hall : SafeText "0123456789abcdef" := by decide
  exact hall c h

theorem isSafe_of_isDigit {c : Char} (h : c.isDigit) : IsSafe c := by
  have hc := Char.isDigit_iff_toNat.mp h
  have h9 : '9'.toNat = 57 := rfl
  refine ⟨by omega, ?_⟩
  rintro rfl
  exact absurd h (by decide)

theorem SafeText.append {s t : String} (hs : SafeText s) (ht : SafeText t) : SafeText (s ++ t) := by
  intro c hc
  rw [String.toList_append] at hc
  rcases List.mem_append.mp hc with hc | hc
  · exact hs c hc
  · exact ht c hc

theorem codeOf_eq_toNat {c : Char} (h : Text.codeOf c < 0xD800) : Text.codeOf c = c.toNat := by
  unfold Text.codeOf at h ⊢
  split at h
  · rename_i hs
    simp only [Text.isSurrogate, Text.isSurrogateCode, Bool.and_eq_true, decide_eq_true_eq] at hs
    omega
  · rename_i hs
    rw [if_neg hs]

theorem eq_ofNat_of_codeOf {c : Char} {n : Nat} (hn : n < 0xD800) (h : Text.codeOf c = n) :
    c = Char.ofNat n := by
  rw [← h, codeOf_eq_toNat (by omega), Char.ofNat_toNat]

/-- The four forms in which a character stands in a quoted text. -/
theorem escapeChar_cases (c : Char) :
    (∃ e, escapeChar c = ['\\', e] ∧ e ≠ 'u' ∧ IsSafe e ∧ shortEscape? e = some c) ∨
    (escapeChar c = [c] ∧ IsSafe c ∧ 32 ≤ c.toNat ∧ c ≠ '"' ∧ c ≠ '\\') ∨
    (Text.codeOf c < 0x10000 ∧ escapeChar c = unitEscape (Text.codeOf c)) ∨
    (0x10000 ≤ Text.codeOf c ∧ escapeChar c =
      unitEscape (0xD800 + (Text.codeOf c - 0x10000) / 0x400) ++
        unitEscape (0xDC00 + (Text.codeOf c - 0x10000) % 0x400)) := by
  rw [escapeChar]
  by_cases hquote : c = '"'
  · rw [if_pos hquote]
    exact .inl ⟨'"', rfl, by decide, by decide, by rw [hquote]; rfl⟩
  rw [if_neg hquote]
  by_cases hback : c = '\\'
  · rw [if_pos hback]
    exact .inl ⟨'\\', rfl, by decide, by decide, by rw [hback]; rfl⟩
  rw [if_neg hback]
  by_cases hn : c = '\n'
  · rw [if_pos hn]
    exact .inl ⟨'n', rfl, by decide, by decide, by rw [hn]; rfl⟩
  rw [if_neg hn]
  by_cases hr : c = '\r'
  · rw [if_pos hr]
    exact .inl ⟨'r', rfl, by decide, by decide, by rw [hr]; rfl⟩
  rw [if_neg hr]
  by_cases ht : c = '\t'
  · rw [if_pos ht]
    exact .inl ⟨'t', rfl, by decide, by decide, by rw [ht]; rfl⟩
  rw [if_neg ht]
  by_cases hb : Text.codeOf c = 8
  · rw [if_pos hb]
    exact .inl ⟨'b', rfl, by decide, by decide, by rw [eq_ofNat_of_codeOf (by omega) hb]; rfl⟩
  rw [if_neg hb]
  by_cases hf : Text.codeOf c = 12
  · rw [if_pos hf]
    exact .inl ⟨'f', rfl, by decide, by decide, by rw [eq_ofNat_of_codeOf (by omega) hf]; rfl⟩
  rw [if_neg hf]
  by_cases hprint : (32 ≤ Text.codeOf c && Text.codeOf c ≤ 126) = true
  · rw [if_pos hprint]
    simp only [Bool.and_eq_true, decide_eq_true_eq] at hprint
    have hcode := codeOf_eq_toNat (c := c) (by omega)
    exact .inr (.inl ⟨rfl, ⟨by omega, hr⟩, by omega, hquote, hback⟩)
  rw [if_neg hprint]
  by_cases hlow : Text.codeOf c < 0x10000
  · rw [if_pos hlow]
    exact .inr (.inr (.inl ⟨hlow, rfl⟩))
  · rw [if_neg hlow]
    exact .inr (.inr (.inr ⟨Nat.le_of_not_lt hlow, rfl⟩))

theorem isSafe_of_mem_unitEscape {u : Nat} {d : Char} (hd : d ∈ unitEscape u) : IsSafe d := by
  rcases List.mem_cons.mp hd with rfl | hd
  · decide
  rcases List.mem_cons.mp hd with rfl | hd
  · decide
  exact isSafe_of_isHexDigit (Text.isHexDigit_of_mem_hex hd)

theorem isSafe_of_mem_escapeChar {c d : Char} (hd : d ∈ escapeChar c) : IsSafe d := by
  rcases escapeChar_cases c with ⟨e, he, -, hsafe, -⟩ | ⟨he, hsafe, -⟩ | ⟨-, he⟩ | ⟨-, he⟩
  · rw [he] at hd
    rcases List.mem_cons.mp hd with rfl | hd
    · decide
    · rw [List.mem_singleton.mp hd]
      exact hsafe
  · rw [he] at hd
    rw [List.mem_singleton.mp hd]
    exact hsafe
  · rw [he] at hd
    exact isSafe_of_mem_unitEscape hd
  · rw [he] at hd
    rcases List.mem_append.mp hd with hd | hd
    · exact isSafe_of_mem_unitEscape hd
    · exact isSafe_of_mem_unitEscape hd

theorem safeText_quote (s : String) : SafeText (quote s) := by
  intro c hc
  rw [quote, String.toList_ofList, List.cons_append, List.mem_cons, List.mem_append] at hc
  rcases hc with rfl | hc | hc
  · decide
  · obtain ⟨d, -, hd⟩ := List.mem_flatMap.mp hc
    exact isSafe_of_mem_escapeChar hd
  · rw [List.mem_singleton.mp hc]
    decide

/-! ## 3. Reading a quoted character -/

/-- A character that is not the first half of a surrogate pair. -/
def NoFirstHalf (c : Char) : Prop := ¬ (0xD800 ≤ Text.codeOf c ∧ Text.codeOf c ≤ 0xDBFF)

theorem hexDigit?_of_isHexDigit {c : Char} (h : Text.IsHexDigit c) :
    ∃ d, hexDigit? c = some d := by
  have hall : ("0123456789abcdef".toList.all fun c => (hexDigit? c).isSome) = true := by decide
  exact Option.isSome_iff_exists.mp (List.all_eq_true.mp hall c h)

/-- Four hexadecimal digits are read as the number they were made from. -/
theorem unit?_hex {u : Nat} (hu : u < 0x10000) (e : Char) (rest : List Char) :
    unit? (Text.hex 4 u ++ e :: rest) = some (u, e :: rest) := by
  have hlen : (Text.hex 4 u).length = 4 := Text.length_hex (by omega) (by omega)
  have hval := Text.hexValue_hex 4 u
  have hdig : ∀ c ∈ Text.hex 4 u, ∃ d, hexDigit? c = some d := fun c hc =>
    hexDigit?_of_isHexDigit (Text.isHexDigit_of_mem_hex hc)
  match hcs : Text.hex 4 u, hlen with
  | [a, b, c, d], _ =>
    rw [hcs] at hval hdig
    obtain ⟨a', ha⟩ := hdig a (by simp)
    obtain ⟨b', hb⟩ := hdig b (by simp)
    obtain ⟨c', hc⟩ := hdig c (by simp)
    obtain ⟨d', hd⟩ := hdig d (by simp)
    simp only [Text.hexValue, List.foldl_cons, List.foldl_nil, ha, hb, hc, hd, Option.getD_some] at hval
    simp only [List.cons_append, List.nil_append, unit?, ha, hb, hc, hd]
    show some (((a' * 16 + b') * 16 + c') * 16 + d', e :: rest) = some (u, e :: rest)
    rw [← hval]
    simp

theorem toNat_valid (c : Char) : c.toNat < 0xD800 ∨ (0xDFFF < c.toNat ∧ c.toNat < 0x110000) := c.valid

theorem codeOf_cases (c : Char) :
    (Text.isSurrogate c = true ∧ Text.codeOf c + Text.standInOffset = c.toNat ∧
      0xD800 ≤ Text.codeOf c ∧ Text.codeOf c ≤ 0xDFFF) ∨
    (Text.isSurrogate c = false ∧ Text.codeOf c = c.toNat) := by
  cases hs : Text.isSurrogate c with
  | true =>
    have hs' := hs
    simp only [Text.isSurrogate, Text.isSurrogateCode, Bool.and_eq_true, decide_eq_true_eq] at hs'
    have hcode : Text.codeOf c = c.toNat - Text.standInOffset := by rw [Text.codeOf, if_pos hs]
    exact .inl ⟨rfl, by omega, by omega, by omega⟩
  | false => exact .inr ⟨rfl, by rw [Text.codeOf, hs]; rfl⟩

theorem codeOf_lt (c : Char) : Text.codeOf c < 0x110000 := by
  have hv := toNat_valid c
  rcases codeOf_cases c with ⟨-, -, -, h⟩ | ⟨-, h⟩ <;> omega

theorem ofCode_codeOf (c : Char) : Text.ofCode (Text.codeOf c) = c := by
  have hv := toNat_valid c
  unfold Text.ofCode Text.isSurrogateCode
  rcases codeOf_cases c with ⟨-, hsum, hlo, hhi⟩ | ⟨-, h⟩
  · rw [if_pos (by simp [hlo, hhi]), Nat.add_comm, hsum, Char.ofNat_toNat]
  · rw [if_neg (by simp; omega), h, Char.ofNat_toNat]

/-- Two halves are read as the character they make. -/
theorem numericEscape_pair {c : Char} {u v : Nat} (hu : 0xD800 ≤ u) (hu' : u ≤ 0xDBFF)
    (hv : 0xDC00 ≤ v) (hv' : v ≤ 0xDFFF)
    (hsum : 0x10000 + (u - 0xD800) * 0x400 + (v - 0xDC00) = c.toNat) (e : Char) (rest : List Char) :
    numericEscape (Text.hex 4 u ++ '\\' :: 'u' :: (Text.hex 4 v ++ e :: rest)) = .ok (c, e :: rest) := by
  have hlen : (Text.hex 4 v ++ e :: rest).length = 4 + (rest.length + 1) := by
    rw [List.length_append, Text.length_hex (by omega) (by omega), List.length_cons]
  have hfirst : (0xD800 ≤ u && u ≤ 0xDBFF) = true := by simp [hu, hu']
  have hsecond : (0xDC00 ≤ v && v ≤ 0xDFFF) = true := by simp [hv, hv']
  rw [numericEscape, unit?_hex (by omega)]
  simp only [unit?_hex (show v < 0x10000 by omega), hsum, Char.ofNat_toNat]
  rw [if_pos hfirst, if_neg (by omega), if_pos hsecond]

/-- One escaped character is read as that character. -/
theorem stringBody_escapeChar (start : List Char) {c : Char} (hc : NoFirstHalf c) (fuel : Nat)
    (acc : List Char) (e : Char) (rest : List Char) :
    stringBody start (fuel + 1) acc (escapeChar c ++ e :: rest) =
      stringBody start fuel (c :: acc) (e :: rest) := by
  have hlt := codeOf_lt c
  rcases escapeChar_cases c with
    ⟨f, he, hu, -, hf⟩ | ⟨he, -, hprint, hquote, hback⟩ | ⟨hlow, he⟩ | ⟨hhigh, he⟩
  · rw [he, List.cons_append, List.cons_append, List.nil_append, stringBody]
    · simp only [hf]
    · exact hu
  · rw [he, List.cons_append, List.nil_append, stringBody]
    · rw [if_neg (by omega)]
    · exact hquote
    · exact fun _ h => absurd h hback
    · exact fun _ _ h => absurd h hback
    · exact fun h => absurd h hback
  · have hnum : numericEscape (Text.hex 4 (Text.codeOf c) ++ e :: rest) = .ok (c, e :: rest) := by
      rw [numericEscape, unit?_hex hlow]
      simp only [ofCode_codeOf]
      rw [if_neg]
      simp only [Bool.and_eq_true, decide_eq_true_eq]
      exact hc
    rw [he, unitEscape, List.cons_append, List.cons_append, stringBody, hnum]
  · -- Both halves are read before the character is made.
    generalize hhi : 0xD800 + (Text.codeOf c - 0x10000) / 0x400 = hi at he
    generalize hlo : 0xDC00 + (Text.codeOf c - 0x10000) % 0x400 = lo at he
    have hcode : Text.codeOf c = c.toNat := by
      rcases codeOf_cases c with ⟨-, -, -, h⟩ | ⟨-, h⟩ <;> omega
    have hnum := numericEscape_pair (c := c) (u := hi) (v := lo) (by omega) (by omega) (by omega)
      (by omega) (by omega) e rest
    rw [he, unitEscape, unitEscape, List.append_assoc, List.cons_append, List.cons_append,
      List.cons_append, List.cons_append, stringBody, hnum]

end Json

end AgentLint
