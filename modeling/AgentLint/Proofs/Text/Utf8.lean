import AgentLint.Proofs.Sequencing
import AgentLint.Text.Utf8
import Mathlib.Algebra.BigOperators.Group.List.Basic
import Mathlib.Algebra.GroupWithZero.Nat
import Mathlib.Tactic.SplitIfs

/-!
# How many bytes a text has

A text that was decoded has as many bytes as it was decoded from (`size_of_decode`): each character takes the bytes
that were read for it, because the ranges of the second byte leave out what would be too long, half of a surrogate
pair, or beyond the last code point.

That is lost where line ends become line feeds.  A carriage return before a line feed goes, and its byte with it, and
every other character keeps its size (`size_universalNewlines`).
-/

namespace AgentLint.Utf8

/-! ## 1. Sizes -/

theorem size_eq_sum (s : String) : size s = (s.toList.map Char.utf8Size).sum := by
  have hcons : ∀ cs : List Char, (String.ofList cs).utf8ByteSize = (cs.map Char.utf8Size).sum := by
    intro cs
    induction cs with
    | nil => rfl
    | cons c cs ih =>
      have hone : (String.ofList [c]).utf8ByteSize = c.utf8Size := by
        rw [← String.singleton_eq_ofList, String.utf8ByteSize_singleton]
      rw [← List.singleton_append, String.ofList_append, String.utf8ByteSize_append, hone, ih, List.map_append,
        List.sum_append, List.map_singleton, List.sum_singleton]
  rw [size, ← hcons, String.ofList_toList]

/-! ## 2. Decoding -/

theorem tail_succ_eq_ok_iff {first more code : Nat} {seen bs : List UInt8} {x : Nat × List UInt8} :
    tail first (more + 1) seen code bs = .ok x ↔ ∃ b rest, bs = b :: rest ∧
      continues first seen.length b.toNat = true ∧
      tail first more (b :: seen) (code * 64 + b.toNat % 64) rest = .ok x := by
  cases bs with
  | nil => simp [tail]
  | cons b rest =>
    rw [tail]
    split <;> simp [*]

/-- The size of a character in terms of its code point. -/
theorem utf8Size_ofNat {n : Nat} (h : n.isValidChar) : (Char.ofNat n).utf8Size =
    if n < 0x80 then 1 else if n < 0x800 then 2 else if n < 0x10000 then 3 else 4 := by
  have hval : (Char.ofNat n).val.toNat = n := by
    rw [Char.ofNat, dif_pos h]
    rfl
  have hone : (Char.ofNat n).val ≤ 127 ↔ n ≤ 127 := by rw [UInt32.le_iff_toNat_le, hval]; rfl
  have htwo : (Char.ofNat n).val ≤ 2047 ↔ n ≤ 2047 := by rw [UInt32.le_iff_toNat_le, hval]; rfl
  have hthree : (Char.ofNat n).val ≤ 65535 ↔ n ≤ 65535 := by rw [UInt32.le_iff_toNat_le, hval]; rfl
  show (if (Char.ofNat n).val ≤ 127 then 1 else if (Char.ofNat n).val ≤ 2047 then 2
    else if (Char.ofNat n).val ≤ 65535 then 3 else 4) = _
  simp only [hone, htwo, hthree]
  split_ifs <;> omega

/-- What the second byte of a character can be. -/
theorem continues_one {first b : Nat} (h : continues first 1 b = true) : 0x80 ≤ b ∧ b ≤ 0xBF ∧
    (first = 0xE0 → 0xA0 ≤ b) ∧ (first = 0xED → b ≤ 0x9F) ∧ (first = 0xF0 → 0x90 ≤ b) ∧
    (first = 0xF4 → b ≤ 0x8F) := by
  simp only [continues, secondRange, beq_iff_eq, if_true] at h
  split_ifs at h <;> simp at h <;> omega

/-- **A character takes the bytes that were read for it**, by the length that its first byte tells. -/
theorem utf8Size_of_tail {b : UInt8} {len code : Nat} {rest rest' : List UInt8} (hlen : lengthOf? b.toNat = some len)
    (htail : tail b.toNat (len - 1) [b] (lead len b.toNat) rest = .ok (code, rest')) :
    (Char.ofNat code).utf8Size = len ∧ rest.length + 1 = rest'.length + len := by
  have hbound : b.toNat < 256 := b.toNat_lt
  generalize b.toNat = first at *
  unfold lengthOf? at hlen
  split_ifs at hlen with h₁ h₂ h₃ h₄ h₅ <;> cases hlen
  · cases htail
    have hvalid : first.isValidChar := .inl (by omega)
    exact ⟨(utf8Size_ofNat hvalid).trans (if_pos h₁), rfl⟩
  · obtain ⟨b₂, rest, rfl, hsecond, htail⟩ := tail_succ_eq_ok_iff.mp htail
    cases htail
    have hb₂ := continues_one hsecond
    generalize b₂.toNat = second at *
    have hcode : lead 2 first = first % 32 := rfl
    rw [hcode]
    have hvalid : (first % 32 * 64 + second % 64).isValidChar := .inl (by omega)
    refine ⟨?_, by simp⟩
    rw [utf8Size_ofNat hvalid]
    split_ifs <;> omega
  · obtain ⟨b₂, rest, rfl, hsecond, htail⟩ := tail_succ_eq_ok_iff.mp htail
    obtain ⟨b₃, rest, rfl, hthird, htail⟩ := tail_succ_eq_ok_iff.mp htail
    cases htail
    have hb₂ := continues_one hsecond
    generalize b₂.toNat = second at *
    generalize b₃.toNat = third at *
    have hcode : lead 3 first = first % 16 := rfl
    rw [hcode]
    have hvalid : ((first % 16 * 64 + second % 64) * 64 + third % 64).isValidChar := by
      unfold Nat.isValidChar
      omega
    refine ⟨?_, by simp⟩
    rw [utf8Size_ofNat hvalid]
    split_ifs <;> omega
  · obtain ⟨b₂, rest, rfl, hsecond, htail⟩ := tail_succ_eq_ok_iff.mp htail
    obtain ⟨b₃, rest, rfl, hthird, htail⟩ := tail_succ_eq_ok_iff.mp htail
    obtain ⟨b₄, rest, rfl, hfourth, htail⟩ := tail_succ_eq_ok_iff.mp htail
    cases htail
    have hb₂ := continues_one hsecond
    generalize b₂.toNat = second at *
    generalize b₃.toNat = third at *
    generalize b₄.toNat = fourth at *
    have hcode : lead 4 first = first % 8 := rfl
    rw [hcode]
    have hvalid : (((first % 8 * 64 + second % 64) * 64 + third % 64) * 64 + fourth % 64).isValidChar := by
      unfold Nat.isValidChar
      omega
    refine ⟨?_, by simp⟩
    rw [utf8Size_ofNat hvalid]
    split_ifs <;> omega

theorem size_of_decodeAux : ∀ {fuel offset : Nat} {acc : List Char} {bs : List UInt8} {cs : List Char},
    bs.length ≤ fuel → decodeAux fuel offset acc bs = .ok cs →
      (cs.map Char.utf8Size).sum = (acc.map Char.utf8Size).sum + bs.length
  | _, _, acc, [], cs, _, h => by
    simp only [decodeAux, Except.ok.injEq] at h
    subst h
    simp
  | 0, _, _, _ :: _, _, hfuel, _ => by simp at hfuel
  | fuel + 1, offset, acc, b :: rest, cs, hfuel, h => by
    rw [decodeAux] at h
    cases hlen : lengthOf? b.toNat with
    | none =>
      rw [hlen] at h
      cases h
    | some len =>
      rw [hlen] at h
      cases htail : tail b.toNat (len - 1) [b] (lead len b.toNat) rest with
      | error e =>
        simp only [htail] at h
        cases h
      | ok x =>
        obtain ⟨code, rest'⟩ := x
        simp only [htail] at h
        obtain ⟨hsize, hrest⟩ := utf8Size_of_tail hlen htail
        have hfewer : rest'.length ≤ fuel := by
          have : 0 < len := hsize ▸ Char.utf8Size_pos _
          simp only [List.length_cons] at hfuel
          omega
        have ih := size_of_decodeAux hfewer h
        rw [List.map_cons, List.sum_cons, hsize] at ih
        rw [ih, List.length_cons]
        omega

/-- **Decoding keeps the number of bytes.** -/
theorem size_of_decode {bs : List UInt8} {s : String} (h : decode bs = .ok s) : size s = bs.length := by
  obtain ⟨cs, hcs, rfl⟩ := map_eq_ok_iff.mp h
  rw [size_eq_sum, String.toList_ofList, size_of_decodeAux (Nat.le_refl _) hcs]
  simp

/-! ## 3. Line ends -/

/-- How often a carriage return stands before a line feed. -/
def linePairs : List Char → Nat
  | [] => 0
  | c :: cs => (if c = '\r' ∧ cs.head? = some '\n' then 1 else 0) + linePairs cs

theorem newlineStep_foldr : ∀ cs : List Char,
    (cs.foldr newlineStep ([], false)).2 = decide (cs.head? = some '\n') ∧
      ((cs.foldr newlineStep ([], false)).1.map Char.utf8Size).sum + linePairs cs = (cs.map Char.utf8Size).sum
  | [] => ⟨rfl, rfl⟩
  | c :: cs => by
    obtain ⟨hflag, hsum⟩ := newlineStep_foldr cs
    rw [List.foldr_cons, newlineStep, linePairs, List.map_cons, List.sum_cons]
    by_cases hc : c = '\r'
    · subst hc
      have hreturn : Char.utf8Size '\r' = 1 := rfl
      have hfeed : Char.utf8Size '\n' = 1 := rfl
      rw [if_pos rfl, hflag, hreturn]
      by_cases hnext : cs.head? = some '\n'
      · simp only [hnext, decide_true, if_true, and_self]
        exact ⟨by simp, by omega⟩
      · simp only [hnext, decide_false, and_false, if_false]
        refine ⟨by simp, ?_⟩
        simp only [Bool.false_eq_true, if_false, List.map_cons, List.sum_cons, hfeed]
        omega
    · simp only [hc, if_false, false_and, List.head?_cons, Option.some.injEq, List.map_cons, List.sum_cons]
      exact ⟨trivial, by omega⟩

/-- **Line ends as line feeds**: one byte less for each pair. -/
theorem size_universalNewlines (s : String) : size (universalNewlines s) + linePairs s.toList = size s := by
  rw [size_eq_sum, size_eq_sum, universalNewlines, String.toList_ofList]
  exact (newlineStep_foldr s.toList).2

end AgentLint.Utf8
