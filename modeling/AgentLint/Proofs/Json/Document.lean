import AgentLint.Proofs.Json.Reading
import AgentLint.Value.Shape
import Mathlib.Data.List.Induction
import Mathlib.Data.List.TakeWhile

/-!
# What a JSON text holds

A JSON text holds words, numbers and texts, and lists and maps of such; the keys of maps are texts.  Of the other
kinds of values it holds none.  `IsDocument` says so, and `isDocument_of_read` that whatever is read is a document:
the reader builds lists and maps only of what it has read before.

Two things follow for those who go through a document.  Its integers have no more digits than are written, so all of
it can be shown (`IsDocument.isShowable`).  And only true and the numbers other than zero cannot be gone through
(`IsDocument.exists_itemsOrNone`): what counts as false passes for an empty list, and all else has items.
-/

namespace AgentLint

/-! ## 1. Maps and lists of values -/

/-- Whatever holds of the keys and of the values of a map, and of one entry, holds of the map with the entry. -/
theorem Entries.forall_put {P Q : Value → Prop} {k v : Value} (hk : P k) (hv : Q v) : ∀ {es : Entries},
    (∀ e ∈ es, P e.1 ∧ Q e.2) → ∀ e ∈ Entries.put k v es, P e.1 ∧ Q e.2
  | [], _ => List.forall_mem_singleton.mpr ⟨hk, hv⟩
  | (k', v') :: es, h => by
    obtain ⟨hhead, htail⟩ := List.forall_mem_cons.mp h
    rw [put]
    split
    · exact List.forall_mem_cons.mpr ⟨⟨hhead.1, hv⟩, htail⟩
    · exact List.forall_mem_cons.mpr ⟨hhead, forall_put hk hv htail⟩

/-- What is found in a map is one of its values. -/
theorem Entries.exists_of_find? {k v : Value} : ∀ {es : Entries}, find? k es = some v → ∃ e ∈ es, e.2 = v
  | [], h => nomatch h
  | (k', v') :: es, h => by
    rw [find?] at h
    split at h
    · cases h
      exact ⟨(k', v), List.mem_cons_self, rfl⟩
    · obtain ⟨e, he, hv⟩ := exists_of_find? h
      exact ⟨e, List.mem_cons_of_mem _ he, hv⟩

theorem Value.areShowable_iff {vs : List Value} : areShowable vs = true ↔ ∀ v ∈ vs, v.isShowable = true := by
  induction vs with
  | nil => exact ⟨fun _ => List.forall_mem_nil _, fun _ => rfl⟩
  | cons v vs ih => rw [areShowable, Bool.and_eq_true, ih, List.forall_mem_cons]

theorem Value.haveShowable_iff {es : Entries} :
    haveShowable es = true ↔ ∀ e ∈ es, e.1.isShowable = true ∧ e.2.isShowable = true := by
  induction es with
  | nil => exact ⟨fun _ => List.forall_mem_nil _, fun _ => rfl⟩
  | cons e es ih => rw [haveShowable, Bool.and_eq_true, Bool.and_eq_true, ih, List.forall_mem_cons]

/-- Whether there is nothing in a value to go through although it counts as true: it is true, or a number other than
zero. -/
def Value.isUnlisted : Value → Bool
  | bool b => b
  | int n => n != 0
  | float x => !x.isZero
  | _ => false

theorem Value.itemsOrNone_of_isUnlisted {v : Value} (h : v.isUnlisted = true) :
    v.itemsOrNone = .error (.notIterable v.kind) := by
  cases v with
  | bool b | int n | float x => exact if_pos h
  | _ => cases h

namespace Json

/-! ## 2. Documents -/

/-- What a JSON text can hold. -/
inductive IsDocument : Value → Prop
  /-- No value. -/
  | null : IsDocument .null
  /-- A truth value. -/
  | bool (b : Bool) : IsDocument (.bool b)
  /-- An integer that can be written. -/
  | int {n : Int} (h : Decimal.isUnwritable n = false) : IsDocument (.int n)
  /-- A double. -/
  | float (x : Binary64) : IsDocument (.float x)
  /-- A text. -/
  | text (s : String) : IsDocument (.text s)
  /-- A list of documents. -/
  | list {vs : List Value} (h : ∀ v ∈ vs, IsDocument v) : IsDocument (.list vs)
  /-- Documents under texts. -/
  | map {es : Entries} (hkeys : ∀ e ∈ es, ∃ k, e.1 = .text k) (h : ∀ e ∈ es, IsDocument e.2) : IsDocument (.map es)

namespace IsDocument

variable {v : Value}

/-- The values of a map are documents. -/
theorem of_mem_map? (hv : IsDocument v) : ∀ e ∈ v.map?.getD [], IsDocument e.2 := by
  cases hv with
  | map _ h => exact h
  | _ => exact List.forall_mem_nil _

/-- A field of a map is a document, also if it is not there. -/
theorem get {es : Entries} (h : ∀ e ∈ es, IsDocument e.2) (k : String) : IsDocument (Entries.get k es) := by
  unfold Entries.get
  cases hk : Entries.get? k es with
  | none => exact .null
  | some v =>
    obtain ⟨e, he, rfl⟩ := Entries.exists_of_find? hk
    exact h e he

/-- **All of a document can be shown.** -/
theorem isShowable (hv : IsDocument v) : v.isShowable = true := by
  induction hv with
  | int h => rw [Value.isShowable, h, Bool.not_false]
  | list _ ih => exact Value.areShowable_iff.mpr ih
  | map hkeys _ ih =>
    refine Value.haveShowable_iff.mpr fun e he => ⟨?_, ih e he⟩
    obtain ⟨k, hk⟩ := hkeys e he
    rw [hk]
    rfl
  | _ => rfl

/-- Whatever else a document is, it can be gone through. -/
theorem exists_itemsOrNone (hv : IsDocument v) (h : v.isUnlisted = false) : ∃ vs, v.itemsOrNone = .ok vs := by
  unfold Value.itemsOrNone
  cases hv with
  | null => exact ⟨[], rfl⟩
  | bool b | int hn | float x => exact ⟨[], if_neg (Bool.eq_false_iff.mp h)⟩
  | text _ | list _ | map _ _ =>
    split
    · exact ⟨_, rfl⟩
    · exact ⟨[], rfl⟩

end IsDocument

/-! ## 3. Numbers -/

section Number

open Decimal

theorem ofDigits_concat (ds : List Char) (d : Char) : ofDigits (ds ++ [d]) = ofDigits ds * 10 + (d.toNat - 48) := by
  unfold ofDigits
  rw [List.foldl_append]
  rfl

/-- Digits make a number that has no more of them. -/
theorem ofDigits_lt {ds : List Char} (h : ∀ d ∈ ds, d.isDigit = true) : ofDigits ds < 10 ^ ds.length := by
  induction ds using List.reverseRecOn with
  | nil => decide
  | append_singleton ds d ih =>
    obtain ⟨hds, hd⟩ := List.forall_mem_append.mp h
    have hdigit := Char.isDigit_iff_toNat.mp (hd d (List.mem_singleton_self d))
    have hlt := ih hds
    rw [ofDigits_concat, List.length_append, List.length_singleton, Nat.pow_succ]
    grind

theorem isUnwritable_of_lt {n : Int} (h : n.natAbs < 10 ^ mostDigits) : isUnwritable n = false := by
  unfold isUnwritable
  generalize mostDigits = most at h ⊢
  exact decide_eq_false (Nat.not_le.mpr h)

theorem isDigit_of_whole? {body ds rest : List Char} (h : whole? body = some (ds, rest)) :
    ∀ d ∈ ds, d.isDigit = true := by
  unfold whole? at h
  split at h
  · cases h
    exact List.forall_mem_singleton.mpr rfl
  · split at h
    · cases h
      exact fun d hd => List.mem_takeWhile_imp hd
    · cases h
  · cases h

theorem isDocument_of_readNumber {cs rest : List Char} {v : Value} (h : readNumber cs = some (.ok (v, rest))) :
    IsDocument v := by
  unfold readNumber at h
  split at h
  rename_i neg body hsign
  split at h
  · cases h
  · rename_i ds tail hwhole
    dsimp only at h
    split at h
    · split at h
      · cases h
      · rename_i hfew
        cases h
        have hlt : ofDigits ds < 10 ^ mostDigits := calc
          ofDigits ds < 10 ^ ds.length := ofDigits_lt (isDigit_of_whole? hwhole)
          _ ≤ 10 ^ mostDigits := Nat.pow_le_pow_right (by decide) (Nat.not_lt.mp hfew)
        refine .int (isUnwritable_of_lt ?_)
        split
        · rwa [Int.natAbs_neg, Int.natAbs_natCast]
        · rwa [Int.natAbs_natCast]
    · cases h
      exact .float _

theorem isDocument_of_readWord {cs rest : List Char} {v : Value} (h : readWord cs = some (v, rest)) :
    IsDocument v := by
  obtain ⟨⟨w, v'⟩, hw, hv⟩ := List.exists_of_findSome?_eq_some h
  have hwords : ∀ e ∈ words, IsDocument e.2 := by
    simp only [words, List.forall_mem_cons]
    exact ⟨.null, .bool true, .bool false, .float _, .float _, .float _, List.forall_mem_nil _⟩
  dsimp only at hv
  split at hv
  · cases hv
    exact hwords _ hw
  · cases hv

end Number

/-! ## 4. Whatever is read -/

mutual
theorem isDocument_of_readValue : ∀ {fuel depth : Nat} {cs rest : List Char} {v : Value},
    readValue fuel depth cs = .ok (v, rest) → IsDocument v
  | 0, _, _, _, _, h => nomatch h
  | fuel + 1, depth, cs, rest, v, h => by
    unfold readValue at h
    split at h
    · obtain ⟨⟨s, after⟩, -, hs⟩ := map_eq_ok_iff.mp h
      cases hs
      exact .text s
    · split at h
      · cases h
      · split at h
        · cases h
          exact .list (List.forall_mem_nil _)
        · exact isDocument_of_readItems (List.forall_mem_nil _) h
    · split at h
      · cases h
      · split at h
        · cases h
          exact .map (List.forall_mem_nil _) (List.forall_mem_nil _)
        · exact isDocument_of_readMembers (List.forall_mem_nil _) h
    · split at h
      · rename_i r hword
        cases h
        exact isDocument_of_readWord hword
      · cases hnumber : readNumber cs with
        | none =>
          rw [hnumber] at h
          cases h
        | some r =>
          rw [hnumber] at h
          exact isDocument_of_readNumber (hnumber.trans (congrArg some h))

theorem isDocument_of_readItems : ∀ {fuel depth : Nat} {acc : List Value} {cs rest : List Char} {v : Value},
    (∀ w ∈ acc, IsDocument w) → readItems fuel depth acc cs = .ok (v, rest) → IsDocument v
  | 0, _, _, _, _, _, _, h => nomatch h
  | fuel + 1, depth, acc, cs, rest, v, hacc, h => by
    unfold readItems at h
    split at h
    · cases h
    · rename_i w after hw
      have hmore := List.forall_mem_cons.mpr ⟨isDocument_of_readValue hw, hacc⟩
      split at h
      · cases h
        exact .list fun x hx => hmore x (List.mem_reverse.mp hx)
      · exact isDocument_of_readItems hmore h
      · cases h

theorem isDocument_of_readMembers : ∀ {fuel depth : Nat} {acc : Entries} {cs rest : List Char} {v : Value},
    (∀ e ∈ acc, (∃ k, e.1 = .text k) ∧ IsDocument e.2) → readMembers fuel depth acc cs = .ok (v, rest) → IsDocument v
  | 0, _, _, _, _, _, _, h => nomatch h
  | fuel + 1, depth, acc, cs, rest, v, hacc, h => by
    unfold readMembers at h
    split at h
    · split at h
      · cases h
      · rename_i k afterKey hk
        split at h
        · split at h
          · cases h
          · rename_i w afterValue hw
            have hmore := Entries.forall_put (P := fun k => ∃ s, k = .text s) ⟨k, rfl⟩ (isDocument_of_readValue hw) hacc
            dsimp only at h
            split at h
            · cases h
              exact .map (fun e he => (hmore e he).1) fun e he => (hmore e he).2
            · exact isDocument_of_readMembers hmore h
            · cases h
        · cases h
    · cases h
end

/-- **Whatever is read is a document.** -/
theorem isDocument_of_read {s : String} {v : Value} (h : read s = .ok v) : IsDocument v := by
  have hchars := mapError_eq_ok_iff.mp h
  unfold readChars at hchars
  split at hchars
  · cases hchars
  · split at hchars
    · cases hchars
    · rename_i w rest hw
      split at hchars
      · cases hchars
        exact isDocument_of_readValue hw
      · cases hchars

end Json

end AgentLint
