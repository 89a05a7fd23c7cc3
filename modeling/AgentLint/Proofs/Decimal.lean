import AgentLint.Decimal.Layout
import Mathlib.Algebra.Group.Nat.Defs
import Mathlib.Tactic.Common

/-!
# The digits of a double

The digits chosen for a positive double are those of a positive number (`digits_shortest`), so they do not
start with a zero.  Digits found on a grid read back as the double and therefore are not zero.  The last resort
of `shortest` is not zero either: the estimate of the number of places is off by a few at most, and there are
seventeen (`reachesTen_decimalPlaces`).

So a finite double is written as a zero, or positionally or with an exponent by such digits (`render_cases`).
-/

namespace AgentLint

namespace Decimal

/-! ## 1. Digits -/

theorem isDigit_of_mem_text {d : Digits} {c : Char} (hc : c ∈ d.text) : c.isDigit = true :=
  Nat.isDigit_of_mem_toDigits (by omega) (by omega) hc

theorem text_ne_nil (d : Digits) : d.text ≠ [] := by
  rw [Digits.text, Nat.toDigits_eq_if (by omega)]
  split <;> simp

/-- A positive number does not start with a zero. -/
theorem head_toDigits {n : Nat} (hn : n ≠ 0) : ∀ c ∈ (Nat.toDigits 10 n).head?, c ≠ '0' := by
  induction n using Nat.strongRecOn with
  | ind n ih =>
    rw [Nat.toDigits_eq_if (by omega)]
    split
    · rename_i hlt
      have hall : ∀ m < 10, m ≠ 0 → m.digitChar ≠ '0' := by decide
      intro c hc
      rw [List.head?_cons, Option.mem_some_iff] at hc
      exact hc ▸ hall n hlt hn
    · rename_i hge
      intro c hc
      obtain ⟨x, xs, hx⟩ : ∃ x xs, Nat.toDigits 10 (n / 10) = x :: xs :=
        List.exists_cons_of_ne_nil (text_ne_nil ⟨n / 10, 0⟩)
      refine ih (n / 10) (Nat.div_lt_self (by omega) (by omega)) (by omega) c ?_
      rw [hx, List.cons_append, List.head?_cons] at hc
      rw [hx, List.head?_cons]
      exact hc

theorem digits_stripZeros {d : Digits} (hd : d.digits ≠ 0) (fuel : Nat) :
    (stripZeros fuel d).digits ≠ 0 := by
  induction fuel generalizing d with
  | zero => exact hd
  | succ fuel ih =>
    rw [stripZeros]
    split
    · rename_i hcond
      simp only [Bool.and_eq_true, bne_iff_ne, beq_iff_eq] at hcond
      exact ih (by simp only; omega)
    · exact hd

/-! ## 2. Digits that read back -/

/-- A double that is not zero. -/
theorem withSign_ne_zero {m : Nat} (hm : m ≠ 0) (hlt : m < 2 ^ 63) :
    Binary64.withSign false m ≠ Binary64.zero false := by
  intro he
  have hbits := congrArg (fun x : Binary64 => x.bits.toNat) he
  simp only [Binary64.zero, Binary64.withSign, Bool.false_eq_true, if_false, UInt64.toNat_ofNat'] at hbits
  omega

/-- Digits found on a grid are not zero. -/
theorem digits_onGridReading {x : Binary64} (hx : x ≠ .zero false) {num den : Nat} {e : Int} {d : Digits}
    (h : onGridReading x num den e = some d) : d.digits ≠ 0 := by
  have hreads : ∀ m : Nat, (Binary64.ofDecimal false m e == x) = true → m ≠ 0 := by
    rintro m hm rfl
    exact hx (by simpa [Binary64.ofDecimal] using (beq_iff_eq.mp hm).symm)
  unfold onGridReading at h
  simp only at h
  split at h
  · split at h
    · rename_i hm
      rw [← Option.some.inj h]
      exact hreads _ hm
    · cases h
  · split at h
    · rename_i hm
      rw [← Option.some.inj h]
      exact hreads _ hm
    · split at h
      · rename_i hm
        rw [← Option.some.inj h]
        exact hreads _ hm
      · split at h
        · rename_i hm
          rw [← Option.some.inj h]
          exact hreads _ hm
        · cases h

/-! ## 3. The last resort -/

theorem pow_ten_le (n : Nat) : 10 ^ (3 * n) ≤ 2 ^ (10 * n) := by
  rw [Nat.pow_mul, Nat.pow_mul]
  exact Nat.pow_le_pow_left (by decide) n

theorem pow_two_le (n : Nat) : 2 ^ (13 * n) ≤ 10 ^ (4 * n) := by
  rw [Nat.pow_mul, Nat.pow_mul]
  exact Nat.pow_le_pow_left (by decide) n

theorem decimalPlaces_le (num den : Nat) :
    decimalPlaces num den ≤ ((num.log2 : Int) - (den.log2 : Int)) * 30103 / 100000 + 3 := by
  unfold decimalPlaces
  simp only
  split
  · rename_i k hk
    have hmem := List.mem_of_find?_eq_some hk
    simp only [List.mem_cons, List.not_mem_nil, or_false] at hmem
    rcases hmem with rfl | rfl | rfl | rfl <;> omega
  · omega

/-- Seventeen places behind the first digit, a number of moderate size is at least one step of the grid. -/
theorem reachesTen_decimalPlaces {num den : Nat} (hnum : num ≠ 0)
    (hsize : num.log2 ≤ 1100) (hsize' : den.log2 ≤ 1100) :
    reachesTen num den (decimalPlaces num den - 17) = true := by
  have hk := decimalPlaces_le num den
  generalize decimalPlaces num den = k at hk
  have hlow : 2 ^ num.log2 ≤ num := Nat.log2_self_le hnum
  have hhigh : den < 2 ^ (den.log2 + 1) := Nat.lt_log2_self
  unfold reachesTen
  split
  · rename_i he
    -- The number is large, and so is its power of two.
    generalize hn : (k - 17).toNat = n
    generalize hm : (num.log2 - den.log2 - 1) / 10 = m
    have hpow : (10 : Nat) ^ n ≤ 10 ^ (3 * m) := Nat.pow_le_pow_right (by omega) (by omega)
    have hten : (10 : Nat) ^ n ≤ 2 ^ (num.log2 - den.log2 - 1) :=
      Nat.le_trans hpow (Nat.le_trans (pow_ten_le m) (Nat.pow_le_pow_right (by omega) (by omega)))
    rw [decide_eq_true_eq]
    calc den * 10 ^ n
        ≤ 2 ^ (den.log2 + 1) * 2 ^ (num.log2 - den.log2 - 1) := Nat.mul_le_mul (Nat.le_of_lt hhigh) hten
      _ = 2 ^ num.log2 := by
        rw [← Nat.pow_add]
        congr 1
        omega
      _ ≤ num := hlow
  · rename_i he
    generalize hn : (-(k - 17)).toNat = n
    generalize hm : (den.log2 + 1 - num.log2) / 13 + 1 = m
    rw [decide_eq_true_eq]
    by_cases hle : den.log2 + 1 ≤ num.log2
    · calc den ≤ 2 ^ (den.log2 + 1) := Nat.le_of_lt hhigh
        _ ≤ 2 ^ num.log2 := Nat.pow_le_pow_right (by omega) hle
        _ ≤ num := hlow
        _ ≤ num * 10 ^ n := Nat.le_mul_of_pos_right _ (Nat.pow_pos (by omega))
    · have htwo : (2 : Nat) ^ (den.log2 + 1 - num.log2) ≤ 2 ^ (13 * m) :=
        Nat.pow_le_pow_right (by omega) (by omega)
      have hten : (2 : Nat) ^ (den.log2 + 1 - num.log2) ≤ 10 ^ n :=
        Nat.le_trans htwo (Nat.le_trans (pow_two_le m) (Nat.pow_le_pow_right (by omega) (by omega)))
      calc den ≤ 2 ^ (den.log2 + 1) := Nat.le_of_lt hhigh
        _ = 2 ^ num.log2 * 2 ^ (den.log2 + 1 - num.log2) := by
          rw [← Nat.pow_add]
          congr 1
          omega
        _ ≤ num * 10 ^ n := Nat.mul_le_mul hlow hten

/-- What reaches a step of a grid is not rounded to zero on it. -/
theorem roundDiv_onGrid_ne_zero {num den : Nat} (hden : den ≠ 0) {e : Int}
    (h : reachesTen num den e = true) :
    Binary64.roundDiv (onGrid num den e).1 (onGrid num den e).2 ≠ 0 := by
  have hle : (onGrid num den e).2 ≤ (onGrid num den e).1 := by
    unfold reachesTen at h
    unfold onGrid
    split at h
    · rename_i he
      rw [if_pos he]
      exact of_decide_eq_true h
    · rename_i he
      rw [if_neg he]
      exact of_decide_eq_true h
  have hpos : 0 < (onGrid num den e).2 := by
    unfold onGrid
    split
    · exact Nat.mul_pos (Nat.pos_of_ne_zero hden) (Nat.pow_pos (by omega))
    · exact Nat.pos_of_ne_zero hden
  have hq := Nat.div_pos hle hpos
  unfold Binary64.roundDiv
  simp only
  split
  · omega
  · split
    · omega
    · split <;> omega

/-! ## 4. The chosen digits -/

/-- **The digits chosen for a positive double** of moderate size are not zero. -/
theorem digits_shortest {x : Binary64} (hx : x ≠ .zero false) {num den : Nat} (hnum : num ≠ 0)
    (hden : den ≠ 0) (hsize : num.log2 ≤ 1100) (hsize' : den.log2 ≤ 1100) :
    (shortest x num den).digits ≠ 0 := by
  unfold shortest
  simp only
  split
  · rename_i d hd
    obtain ⟨e, -, he⟩ := List.exists_of_findSome?_eq_some hd
    exact digits_stripZeros (digits_onGridReading hx he) _
  · exact digits_stripZeros
      (roundDiv_onGrid_ne_zero hden (reachesTen_decimalPlaces hnum hsize hsize')) _

/-! ## 5. The form of a double -/

/-- The parts of a finite double have moderate sizes, and only a zero has no bits but the sign. -/
theorem bounds_of_shape {x : Binary64} {neg : Bool} {mant : Nat} {exp : Int}
    (h : x.shape = .finite neg mant exp) :
    mant < 2 ^ 53 ∧ -1074 ≤ exp ∧ exp ≤ 971 ∧ (mant ≠ 0 → x.bits.toNat % 2 ^ 63 ≠ 0) := by
  unfold Binary64.shape at h
  generalize x.bits.toNat = n at h
  have h52 : Nat.pow 2 52 = 4503599627370496 := rfl
  have h11 : Nat.pow 2 11 = 2048 := rfl
  simp only [beq_iff_eq, h52, h11] at h
  split at h
  · split at h <;> cases h
  · split at h
    · cases h
      omega
    · cases h
      omega

theorem log2_le {n k : Nat} (h : n < 2 ^ (k + 1)) : n.log2 ≤ k := by
  by_cases hn : n = 0
  · rw [hn]
    exact Nat.zero_le k
  · exact Nat.le_of_lt_succ ((Nat.log2_lt hn).mpr h)

/-- A finite double as a ratio has moderate numerator and denominator. -/
theorem bounds_magnitude {mant : Nat} {exp : Int} (hm : mant ≠ 0) (hlt : mant < 2 ^ 53) (hlo : -1074 ≤ exp)
    (hhi : exp ≤ 971) :
    (Binary64.magnitude mant exp).1 ≠ 0 ∧ (Binary64.magnitude mant exp).2 ≠ 0 ∧
      (Binary64.magnitude mant exp).1.log2 ≤ 1100 ∧ (Binary64.magnitude mant exp).2.log2 ≤ 1100 := by
  unfold Binary64.magnitude
  split
  · have hpos : 0 < 2 ^ exp.toNat := Nat.pow_pos (by omega)
    have hnum : mant * 2 ^ exp.toNat < 2 ^ (52 + exp.toNat + 1) :=
      calc mant * 2 ^ exp.toNat
          < 2 ^ 53 * 2 ^ exp.toNat := Nat.mul_lt_mul_of_pos_right hlt hpos
        _ = 2 ^ (52 + exp.toNat + 1) := by
          rw [← Nat.pow_add]
          congr 1
          omega
    have hone : (1 : Nat).log2 ≤ 1100 := by decide
    exact ⟨Nat.mul_ne_zero hm (Nat.ne_of_gt hpos), Nat.one_ne_zero, Nat.le_trans (log2_le hnum) (by omega), hone⟩
  · have hden : (2 ^ (-exp).toNat).log2 = (-exp).toNat := Nat.log2_two_pow
    refine ⟨hm, Nat.ne_of_gt (Nat.pow_pos (by omega)), Nat.le_trans (log2_le (k := 52) hlt) (by omega), ?_⟩
    calc (2 ^ (-exp).toNat).log2 = (-exp).toNat := hden
      _ ≤ 1100 := by omega

/-- **How a finite double is written**: as a zero, or by digits of a positive number. -/
theorem render_cases {x : Binary64} {neg : Bool} {mant : Nat} {exp : Int} (h : x.shape = .finite neg mant exp) :
    render x = (if neg then "-" else "") ++ "0.0" ∨
      ∃ d : Digits, d.digits ≠ 0 ∧
        (render x = (if neg then "-" else "") ++ positional true d.text d.point ∨
          render x = (if neg then "-" else "") ++ scientific d.text d.point) := by
  obtain ⟨hlt, hlo, hhi, hbits⟩ := bounds_of_shape h
  unfold render Style.render
  rw [h]
  simp only
  by_cases hm : mant = 0
  · rw [hm]
    exact .inl rfl
  · obtain ⟨hnum, hden, hsize, hsize'⟩ := bounds_magnitude hm hlt hlo hhi
    have hx := withSign_ne_zero (hbits hm) (Nat.mod_lt _ (by decide))
    have hd := digits_shortest hx hnum hden hsize hsize'
    rw [if_neg (by simpa using hm)]
    exact .inr ⟨_, hd, ite_eq_or_eq _ _ _⟩

end Decimal

end AgentLint
