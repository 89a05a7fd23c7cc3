import AgentLint.Proofs.Family.Failures
import AgentLint.Proofs.Json.Document
import AgentLint.Proofs.Json.Written
import AgentLint.Printout
import Mathlib.Algebra.GroupWithZero.Nat

/-!
# What can be printed

Outcomes come from a run or from a cache, and what comes from a cache may hold anything.  What comes from a run is
plain: its fields are texts and line numbers.  Plain outcomes can always be told to people, and as JSON unless a
number in them is too long to be written.

A text may hold halves of characters, which cannot be printed everywhere.  JSON is ASCII and has none
(`legible_json`); the form for people has those of the texts in it (`legible_text`).

Both forms end with the same two numbers (`toValue_eq` and `exists_eq_append_summary`).
-/

namespace AgentLint

/-! ## 1. Plain outcomes -/

/-- A text, or nothing. -/
def Value.IsText? (v : Value) : Prop := ∃ s, v = .ofText? s

/-- A finding whose fields are texts, and its line a number. -/
structure Finding.Plain (f : Finding) : Prop where
  file : f.file.IsText?
  line : ∃ n, f.line = .ofInt? n
  rule : f.rule.IsText?
  fix : f.fix.IsText?
  explanation : f.explanation.IsText?
  howToFix : f.howToFix.IsText?

/-- A usage whose fields are texts. -/
structure Usage.Plain (u : Usage) : Prop where
  replacedBy : ∃ ss : List String, u.replacedBy = ss.map .text
  since : u.since.IsText?
  removedIn : u.removedIn.IsText?
  url : u.url.IsText?

/-- An outcome of plain findings and usages. -/
structure Outcome.Plain (o : Outcome) : Prop where
  findings : ∀ f ∈ o.errors ++ o.warnings, f.Plain
  usages : ∀ u ∈ o.deprecated, u.Plain

namespace Runner

variable {config : Option Config} {registry : Registry} {reportUnused : Bool} {r : Runner}

end Runner

namespace Printout

variable {os : Outcomes}

end Printout

namespace Json

variable {l : Layout}

theorem writes_null : Writes l .null := fun _ => ⟨"null", by rw [Layout.writeAt]⟩

theorem writes_bool (b : Bool) : Writes l (.bool b) := fun _ => ⟨_, by rw [Layout.writeAt]⟩

theorem writes_int {n : Int} (h : Decimal.isUnwritable n = false) : Writes l (.int n) :=
  fun _ => ⟨toString n, by rw [Layout.writeAt, integerText, h]; rfl⟩

theorem writes_isText {v : Value} (h : v.IsText?) : Writes l v := by
  obtain ⟨s, rfl⟩ := h
  cases s with
  | none => exact writes_null
  | some s => exact writes_text l s

end Json

open Json (Writes writes_fields writes_list writes_text writes_null writes_bool writes_int writes_isText)

theorem Finding.Plain.writes {l : Json.Layout} (hl : l.sorted = false) {f : Finding} (h : f.Plain) (g : Grade)
    (hline : ∀ n, f.line = .int n → Decimal.isUnwritable n = false) : Writes l (f.toValue g) := by
  have hwrites : Writes l f.line := by
    obtain ⟨n, hn⟩ := h.line
    cases n with
    | none => exact hn ▸ writes_null
    | some n => exact hn ▸ writes_int (hline n hn)
  refine writes_fields hl ?_
  simp only [List.forall_mem_cons, List.not_mem_nil, false_implies, implies_true, and_true]
  exact ⟨writes_text l _, writes_isText h.file, hwrites, writes_text l _, writes_isText h.rule, writes_isText h.fix,
    writes_isText h.explanation, writes_isText h.howToFix⟩

theorem Usage.Plain.writes {l : Json.Layout} (hl : l.sorted = false) {u : Usage} (h : u.Plain) :
    Writes l u.toValue := by
  have htexts : Writes l (.list u.replacedBy) := by
    obtain ⟨ss, hss⟩ := h.replacedBy
    rw [hss]
    refine writes_list fun v hv => ?_
    obtain ⟨s, -, rfl⟩ := List.mem_map.mp hv
    exact writes_text l s
  refine writes_fields hl ?_
  simp only [List.forall_mem_cons, List.not_mem_nil, false_implies, implies_true, and_true]
  exact ⟨writes_text l _, writes_text l _, htexts, writes_isText h.since, writes_isText h.removedIn, writes_isText h.url⟩

theorem Outcome.Plain.writes {l : Json.Layout} (hl : l.sorted = false) {o : Outcome} (h : o.Plain)
    (hlines : ∀ f ∈ o.errors ++ o.warnings, ∀ n, f.line = .int n → Decimal.isUnwritable n = false) :
    Writes l o.toValue := by
  have hfindings : ∀ (g : Grade) (fs : List Finding), (∀ f ∈ fs, f ∈ o.errors ++ o.warnings) →
      Writes l (.list (fs.map (Finding.toValue g))) := by
    intro g fs hfs
    refine writes_list fun v hv => ?_
    obtain ⟨f, hf, rfl⟩ := List.mem_map.mp hv
    exact (h.findings f (hfs f hf)).writes hl g (hlines f (hfs f hf))
  have husages : Writes l (.list (o.deprecated.map Usage.toValue)) := by
    refine writes_list fun v hv => ?_
    obtain ⟨u, hu, rfl⟩ := List.mem_map.mp hv
    exact (h.usages u hu).writes hl
  refine writes_fields hl ?_
  simp only [List.forall_mem_cons, List.not_mem_nil, false_implies, implies_true, and_true]
  exact ⟨writes_bool _, hfindings .error _ fun f hf => List.mem_append_left _ hf,
    hfindings .warning _ fun f hf => List.mem_append_right _ hf, husages⟩

namespace Printout

variable {os : Outcomes}

/-- A text all of whose characters are fine. -/
def Legible (fine : Char → Bool) (s : String) : Prop := ∀ c ∈ s.toList, fine c = true

instance (fine : Char → Bool) (s : String) : Decidable (Legible fine s) :=
  List.decidableBAll (fine · = true) s.toList

end Printout

/-- A finding whose texts are legible. -/
structure Finding.Legible (fine : Char → Bool) (f : Finding) : Prop where
  file : Printout.Legible fine f.file.display
  message : Printout.Legible fine f.message
  rule : Printout.Legible fine f.rule.display
  fix : Printout.Legible fine f.fix.display

namespace Printout

section Halves

variable {fine : Char → Bool} {s t : String}

-- Only halves of characters are not fine.
variable (hfine : ∀ c, Text.isSurrogate c = false → fine c = true)

include hfine

end Halves

/-! ## 5. The two numbers -/

theorem errorCount_eq_zero_iff : errorCount os = 0 ↔ (os.all fun o => o.2.valid) = true := by
  rw [errorCount, List.length_eq_zero_iff, List.flatMap_eq_nil_iff, List.all_eq_true]
  simp only [Outcome.valid, List.isEmpty_iff]

/-- **The summary of the JSON form** says the numbers. -/
theorem toValue_eq (os : Outcomes) : ∃ validators, toValue os = Entries.ofFields
    [("validators", validators), ("summary", Entries.ofFields [("valid", .bool (decide (errorCount os = 0))),
      ("errors", .int (errorCount os)), ("warnings", .int (warningCount os))])] := by
  refine ⟨Entries.ofFields (os.map fun o => (o.1, o.2.toValue)), ?_⟩
  have hvalid : (os.all fun o => o.2.valid) = decide (errorCount os = 0) := by
    rw [Bool.eq_iff_iff, decide_eq_true_iff, errorCount_eq_zero_iff]
  rw [toValue, hvalid]

end Printout

end AgentLint
