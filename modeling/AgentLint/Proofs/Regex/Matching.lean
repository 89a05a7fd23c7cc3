import AgentLint.Proofs.Json.Quote
import AgentLint.Regex.Match

/-!
# What parts match

`runPart` and its siblings try to match at a place and hand what is found to a continuation.  If the whole succeeds,
the part has matched some characters from that place on and the continuation has succeeded behind them; for parts that
match single characters (`Single`) this says which, and for rounds of such a part that they all are of that kind
(`runRounds_single`).  Nothing here depends on fuel: what has been found is a match,
however much was left.

The settings are the empty ones throughout.
-/

namespace AgentLint.Regex

variable {text : Array Char} {fuel i n : Nat} {caps : Captures} {k : Nat → Captures → Outcome} {r : Nat × Captures}

theorem codeOf_inj {a b : Char} (h : Text.codeOf a = Text.codeOf b) : a = b := by
  rw [← Json.ofCode_codeOf a, h, Json.ofCode_codeOf b]

/-- What is left of the text at a place. -/
def left (text : Array Char) (i : Nat) : List Char := text.toList.drop i

theorem left_eq_cons {a : Char} (h : text[i]? = some a) : left text i = a :: left text (i + 1) := by
  obtain ⟨hi, rfl⟩ := Array.getElem?_eq_some_iff.mp h
  exact List.drop_eq_getElem_cons (by simpa using hi)

/-! ## 1. Single characters -/

/-- `Single p holds`: the part matches one character, of which `holds` is true. -/
def Single (p : Part) (holds : Char → Prop) : Prop :=
  ∀ {text : Array Char} {fuel i : Nat} {caps : Captures} {k : Nat → Captures → Outcome} {r : Nat × Captures},
    runPart text fuel {} p i caps k = some r → ∃ a, left text i = a :: left text (i + 1) ∧ holds a ∧ k (i + 1) caps = some r

/-- Without fuel nothing is matched, so it is enough to look at one step. -/
theorem single_of_succ {p : Part} {holds : Char → Prop}
    (hstep : ∀ (text : Array Char) (fuel i : Nat) (caps : Captures) (k : Nat → Captures → Outcome) (r : Nat × Captures),
      runPart text (fuel + 1) {} p i caps k = some r → ∃ a, text[i]? = some a ∧ holds a ∧ k (i + 1) caps = some r) :
    Single p holds := by
  intro text fuel i caps k r h
  cases fuel with
  | zero =>
    rw [runPart] at h
    cases h
  | succ fuel =>
    obtain ⟨a, ha, hholds, hk⟩ := hstep text fuel i caps k r h
    exact ⟨a, left_eq_cons ha, hholds, hk⟩

theorem codeFits_iff {n m : Nat} : codeFits {} n m = true ↔ n = m := by
  simp [codeFits]

theorem single_code (n : Nat) : Single (.code n) (fun a => n = Text.codeOf a) := by
  refine single_of_succ fun text fuel i caps k r h => ?_
  rw [runPart] at h
  split at h
  · rename_i b hb
    split at h
    · exact ⟨b, hb, codeFits_iff.mp ‹_›, h⟩
    · cases h
  · cases h

theorem single_notCode (n : Nat) : Single (.notCode n) (fun a => n ≠ Text.codeOf a) := by
  refine single_of_succ fun text fuel i caps k r h => ?_
  rw [runPart] at h
  split at h
  · rename_i b hb
    split at h
    · cases h
    · exact ⟨b, hb, mt codeFits_iff.mpr ‹_›, h⟩
  · cases h

/-- What a set says of a character. -/
def setHolds (negated : Bool) (items : List SetItem) (a : Char) : Bool :=
  items.any (SetItem.fits {} (Text.codeOf a)) != negated

theorem single_set (negated : Bool) (items : List SetItem) :
    Single (.set negated items) (fun a => setHolds negated items a = true) := by
  refine single_of_succ fun text fuel i caps k r h => ?_
  rw [runPart] at h
  split at h
  · rename_i b hb
    split at h
    · exact ⟨b, hb, ‹_›, h⟩
    · cases h
  · cases h

/-- It is the same without repeated members. -/
theorem setHolds_eraseDups {negated : Bool} {items : List SetItem} {a : Char} :
    setHolds negated items.eraseDups a = setHolds negated items a := by
  have hany : items.eraseDups.any (SetItem.fits {} (Text.codeOf a)) = items.any (SetItem.fits {} (Text.codeOf a)) := by
    rw [Bool.eq_iff_iff, List.any_eq_true, List.any_eq_true]
    simp only [List.mem_eraseDups]
  rw [setHolds, hany, setHolds]

/-- **A set matches one of the characters it holds**, also if it has become a single code point. -/
theorem single_ofItems (negated : Bool) (items : List SetItem) :
    Single (ofItems negated items) (fun a => setHolds negated items a = true) := by
  intro text fuel i caps k r h
  unfold ofItems at h
  split at h
  · rename_i n hdups
    have hholds : ∀ a, setHolds negated items a = ((n == Text.codeOf a) != negated) := by
      intro a
      rw [← setHolds_eraseDups, hdups]
      simp [setHolds, SetItem.fits]
    cases negated with
    | true =>
      obtain ⟨a, hleft, ha, hk⟩ := single_notCode n h
      exact ⟨a, hleft, by simp [hholds, ha], hk⟩
    | false =>
      obtain ⟨a, hleft, ha, hk⟩ := single_code n h
      exact ⟨a, hleft, by simp [hholds, ha], hk⟩
  · obtain ⟨a, hleft, ha, hk⟩ := single_set negated items.eraseDups h
    exact ⟨a, hleft, setHolds_eraseDups.symm.trans ha, hk⟩

/-! ## 2. Sequences and rounds -/

theorem of_runSeq_nil {f : Flags} (h : runSeq text fuel f [] i caps k = some r) : k i caps = some r := by
  cases fuel with
  | zero =>
    rw [runSeq] at h
    cases h
  | succ fuel =>
    rw [runSeq] at h
    exact h

theorem of_runSeq_cons {f : Flags} {p : Part} {ps : List Part} (h : runSeq text fuel f (p :: ps) i caps k = some r) :
    ∃ fuel', runPart text fuel' f p i caps (fun j c => runSeq text fuel' f ps j c k) = some r := by
  cases fuel with
  | zero =>
    rw [runSeq] at h
    cases h
  | succ fuel =>
    rw [runSeq] at h
    exact ⟨fuel, h⟩

/-- **All rounds of a part that matches one character match such characters.** -/
theorem runRounds_single {p : Part} {holds : Char → Prop} (hp : Single p holds) {count : Nat} {last : Option Nat}
    (h : runRounds text fuel {} .greedy 0 none [p] count last i caps k = some r) :
    ∃ run j, left text i = run ++ left text j ∧ (∀ a ∈ run, holds a) ∧ k j caps = some r := by
  induction fuel generalizing count last i with
  | zero =>
    rw [runRounds] at h
    cases h
  | succ fuel ih =>
    have hhere : k i caps = some r → ∃ run j, left text i = run ++ left text j ∧ (∀ a ∈ run, holds a) ∧
        k j caps = some r := fun hk => ⟨[], i, rfl, by simp, hk⟩
    rw [runRounds, if_neg (Nat.not_lt_zero count)] at h
    dsimp only at h
    split at h
    · split at h
      · rename_i r' hround
        cases h
        obtain ⟨fuel', hround⟩ := of_runSeq_cons hround
        obtain ⟨a, hleft, ha, hrest⟩ := hp hround
        obtain ⟨run, j, hrun, hall, hk⟩ := ih (of_runSeq_nil hrest)
        exact ⟨a :: run, j, by rw [hleft, hrun]; rfl, List.forall_mem_cons.mpr ⟨ha, hall⟩, hk⟩
      · exact hhere h
    · exact hhere h

theorem runPart_rounds_single {p : Part} {holds : Char → Prop} (hp : Single p holds)
    (h : runPart text fuel {} (.rounds .greedy 0 none [p]) i caps k = some r) :
    ∃ run j, left text i = run ++ left text j ∧ (∀ a ∈ run, holds a) ∧ k j caps = some r := by
  cases fuel with
  | zero =>
    rw [runPart] at h
    cases h
  | succ fuel =>
    rw [runPart] at h
    · exact runRounds_single hp h
    · intro hgreedy
      cases hgreedy

end AgentLint.Regex
