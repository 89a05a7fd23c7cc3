import AgentLint.Proofs.Json.Written
import Mathlib.Data.List.Perm.Subperm

/-!
# Plain documents, and when two are the same

A document is plain if JSON tells all of it: lists, maps with text keys, each once, and scalars that read back once
they are written.  YAML has documents that are not: keys that are no texts, entries kept as lists, and texts with the
halves of a character one behind the other.

Two documents are the same if they hold the same, where a map is what it has at each key (`same_map_iff`); the order in
which the keys were written is left out.
-/

namespace AgentLint

namespace Value

/-! ## 1. Definitions -/

/-- Whether a key is a text that reads back. -/
def isPlainKey : Value → Bool
  | text s => decide (Text.Whole s)
  | _ => false

mutual
/-- Whether a document is plain. -/
def isPlain : Value → Bool
  | null | bool _ | int _ => true
  | float x => decide (x.shape ≠ .nan) && Json.checksOut (float x)
  | text s => decide (Text.Whole s)
  | list vs => arePlain vs
  | map es => havePlain es
  | _ => false

/-- Whether all items of a list are plain. -/
def arePlain : List Value → Bool
  | [] => true
  | v :: vs => isPlain v && arePlain vs

/-- Whether all entries of a map are plain and no key is repeated. -/
def havePlain : List (Value × Value) → Bool
  | [] => true
  | (k, v) :: es => isPlainKey k && (Entries.find? k es).isNone && isPlain v && havePlain es
end

mutual
/-- Whether two documents as JSON has them are the same, but for the order of maps. -/
def same : Value → Value → Bool
  | null, null => true
  | bool a, bool b => a = b
  | int a, int b => a = b
  | float a, float b => a = b
  | text a, text b => a = b
  | list vs, list ws => sameItems vs ws
  | map es, map fs => es.length = fs.length && sameEntries es fs
  | _, _ => false

/-- The same for the items of a list. -/
def sameItems : List Value → List Value → Bool
  | [], [] => true
  | v :: vs, w :: ws => same v w && sameItems vs ws
  | _, _ => false

/-- Whether a map has the same at the keys of some entries. -/
def sameEntries : List (Value × Value) → List (Value × Value) → Bool
  | [], _ => true
  | (k, v) :: es, fs => (match Entries.find? k fs with
      | some w => same v w
      | none => false) && sameEntries es fs
end

/-! ## 2. Lists and maps -/

theorem arePlain_iff {vs : List Value} : arePlain vs = true ↔ ∀ v ∈ vs, isPlain v = true := by
  induction vs with
  | nil => simp [arePlain]
  | cons v vs ih => simp [arePlain, ih]

theorem sameItems_iff {vs ws : List Value} :
    sameItems vs ws = true ↔ List.Forall₂ (fun v w => same v w = true) vs ws := by
  induction vs generalizing ws with
  | nil => cases ws <;> simp [sameItems]
  | cons v vs ih => cases ws <;> simp [sameItems, ih]

theorem sameEntries_iff {es fs : Entries} :
    sameEntries es fs = true ↔ ∀ e ∈ es, ∃ w, Entries.find? e.1 fs = some w ∧ same e.2 w = true := by
  induction es with
  | nil => simp [sameEntries]
  | cons e es ih =>
    obtain ⟨k, v⟩ := e
    rw [sameEntries, Bool.and_eq_true, ih, List.forall_mem_cons]
    cases Entries.find? k fs <;> simp

end Value

namespace Entries

open Value

/-- A plain key is a text. -/
theorem eq_text_of_isPlainKey {k : Value} (h : isPlainKey k = true) : ∃ s, k = .text s ∧ Text.Whole s := by
  cases k with
  | text s => exact ⟨s, rfl, of_decide_eq_true h⟩
  | _ => cases h

theorem find?_text_cons (s t : String) (v : Value) (es : Entries) :
    find? (.text s) ((.text t, v) :: es) = if t = s then some v else find? (.text s) es := by
  have hkey : (Value.text t).sameKey (.text s) = decide (t = s) := rfl
  rw [find?, hkey]
  simp

variable {es fs : Entries}

theorem havePlain_cons {k v : Value} : havePlain ((k, v) :: es) = true ↔
    (isPlainKey k = true ∧ find? k es = none) ∧ isPlain v = true ∧ havePlain es = true := by
  simp [havePlain, and_assoc]

/-- The parts of a plain map. -/
theorem plain_of_mem (h : havePlain es = true) {e : Value × Value} (he : e ∈ es) :
    isPlainKey e.1 = true ∧ isPlain e.2 = true := by
  induction es with
  | nil => cases he
  | cons f es ih =>
    obtain ⟨⟨hk, -⟩, hv, hes⟩ := havePlain_cons.mp h
    rcases List.mem_cons.mp he with rfl | he
    · exact ⟨hk, hv⟩
    · exact ih hes he

theorem mem_of_find? (h : havePlain es = true) {s : String} {v : Value} (hv : find? (.text s) es = some v) :
    (.text s, v) ∈ es := by
  induction es with
  | nil => cases hv
  | cons f es ih =>
    obtain ⟨k, w⟩ := f
    obtain ⟨⟨hk, -⟩, -, hes⟩ := havePlain_cons.mp h
    obtain ⟨t, rfl, -⟩ := eq_text_of_isPlainKey hk
    rw [find?_text_cons] at hv
    split at hv
    · rename_i hts
      cases hv
      rw [hts]
      exact List.mem_cons_self
    · exact List.mem_cons_of_mem _ (ih hes hv)

/-- **What stands in a plain map is found in it.** -/
theorem find?_of_mem (h : havePlain es = true) {e : Value × Value} (he : e ∈ es) : find? e.1 es = some e.2 := by
  induction es with
  | nil => cases he
  | cons f es ih =>
    obtain ⟨l, w⟩ := f
    obtain ⟨⟨hl, hnone⟩, -, hes⟩ := havePlain_cons.mp h
    obtain ⟨s, hs, -⟩ := eq_text_of_isPlainKey (plain_of_mem h he).1
    obtain ⟨t, rfl, -⟩ := eq_text_of_isPlainKey hl
    rw [hs, find?_text_cons]
    rcases List.mem_cons.mp he with heq | he
    · rw [heq] at hs ⊢
      cases hs
      simp
    · have hfound := ih hes he
      rw [hs] at hfound
      split
      · rename_i hts
        rw [hts, hfound] at hnone
        cases hnone
      · exact hfound

theorem nodup_keys (h : havePlain es = true) : (es.map Prod.fst).Nodup := by
  induction es with
  | nil => simp
  | cons f es ih =>
    obtain ⟨⟨hk, hnone⟩, -, hes⟩ := havePlain_cons.mp h
    rw [List.map_cons, List.nodup_cons]
    refine ⟨?_, ih hes⟩
    intro hmem
    obtain ⟨e, he, heq⟩ := List.mem_map.mp hmem
    have hfound := find?_of_mem hes he
    rw [heq, hnone] at hfound
    cases hfound

/-- What is the same for the keys of one map is so for those of the other, as there are as many. -/
theorem exists_of_same (hes : havePlain es = true) (hfs : havePlain fs = true)
    (h : Value.same (.map es) (.map fs) = true) {f : Value × Value} (hf : f ∈ fs) :
    ∃ v, (f.1, v) ∈ es ∧ Value.same v f.2 = true := by
  rw [Value.same, Bool.and_eq_true, decide_eq_true_eq, sameEntries_iff] at h
  obtain ⟨hlength, hall⟩ := h
  have hsub : es.map Prod.fst ⊆ fs.map Prod.fst := by
    intro k hk
    obtain ⟨e, he, rfl⟩ := List.mem_map.mp hk
    obtain ⟨s, hs, -⟩ := eq_text_of_isPlainKey (plain_of_mem hes he).1
    obtain ⟨w, hw, -⟩ := hall e he
    rw [hs] at hw ⊢
    exact List.mem_map.mpr ⟨_, mem_of_find? hfs hw, rfl⟩
  have hperm := (List.subperm_of_subset (nodup_keys hes) hsub).perm_of_length_le (by simp [hlength])
  obtain ⟨e, he, hkey⟩ := List.mem_map.mp (hperm.mem_iff.mpr (List.mem_map_of_mem hf))
  obtain ⟨w, hw, hsame⟩ := hall e he
  rw [hkey, find?_of_mem hfs hf] at hw
  cases hw
  exact ⟨e.2, hkey ▸ he, hsame⟩

end Entries

end AgentLint
