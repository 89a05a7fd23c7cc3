import AgentLint.FileTree.Text
import AgentLint.Proofs.Sequencing

/-!
# What is read of a file

The bytes of a file are those of the regular file that its path leads to (`Host.readBytes_eq_ok_iff`).  They decide what
is read of it as a text, or as JSON (`Host.readText_congr`, `Host.readJson_congr`).  A text is not read if the bytes are
not, or if they are not UTF-8 (`Host.readText_eq_error_iff`).
-/

namespace AgentLint.Host

variable {h h' : Host} {path : String} {bytes : List UInt8}

/-! ## 1. Bytes -/

theorem readBytes_of_stat {p : Place} {m : Int} (hs : h.stat path = .ok (p, .file bytes m)) :
    h.readBytes path = .ok bytes := by
  rw [readBytes, hs]

/-- **What is read** is a regular file. -/
theorem readBytes_eq_ok_iff :
    h.readBytes path = .ok bytes ↔ ∃ p m, h.stat path = .ok (p, .file bytes m) := by
  refine ⟨fun hr => ?_, fun ⟨_, _, hs⟩ => readBytes_of_stat hs⟩
  unfold readBytes at hr
  split at hr
  · cases hr
  · rename_i p b m hs
    cases hr
    exact ⟨p, m, hs⟩
  · cases hr

theorem readBytes_congr (hs : h'.stat path = h.stat path) : h'.readBytes path = h.readBytes path := by
  rw [readBytes, readBytes, hs]

/-! ## 2. Texts -/

theorem readText_congr (hb : h'.readBytes path = h.readBytes path) : h'.readText path = h.readText path := by
  rw [readText, readText, hb]

theorem readJson_congr (hb : h'.readBytes path = h.readBytes path) : h'.readJson path = h.readJson path := by
  rw [readJson, readJson, readText_congr hb]

theorem readText_of_readBytes_error {e : FileFault} (hb : h.readBytes path = .error e) :
    h.readText path = .error (.file e) := by
  rw [readText, hb]

theorem readJson_of_readBytes_error {e : FileFault} (hb : h.readBytes path = .error e) :
    h.readJson path = .error (.file e) := by
  rw [readJson, readText_of_readBytes_error hb]

theorem readText_of_decode {text : String} (hb : h.readBytes path = .ok bytes) (hd : Utf8.decode bytes = .ok text) :
    h.readText path = .ok (Utf8.universalNewlines text) := by
  rw [readText, hb]
  simp only [hd]

theorem readText_of_decode_error {r : Utf8.Refusal} (hb : h.readBytes path = .ok bytes)
    (hd : Utf8.decode bytes = .error r) : h.readText path = .error (.decoding r) := by
  rw [readText, hb]
  simp only [hd]

/-- **A text** is what the bytes of a file decode to, with one kind of line end. -/
theorem readText_eq_ok_iff {text : String} : h.readText path = .ok text ↔
    ∃ bytes raw, h.readBytes path = .ok bytes ∧ Utf8.decode bytes = .ok raw ∧ Utf8.universalNewlines raw = text := by
  constructor
  · intro hr
    cases hb : h.readBytes path with
    | error e =>
      rw [readText_of_readBytes_error hb] at hr
      cases hr
    | ok bytes =>
      cases hd : Utf8.decode bytes with
      | error r =>
        rw [readText_of_decode_error hb hd] at hr
        cases hr
      | ok raw =>
        rw [readText_of_decode hb hd] at hr
        exact ⟨bytes, raw, rfl, hd, Except.ok.inj hr⟩
  · rintro ⟨bytes, raw, hb, hd, rfl⟩
    exact readText_of_decode hb hd

/-- **No text** is read of a file that is not read, or that is not UTF-8. -/
theorem readText_eq_error_iff {f : Fault} : h.readText path = .error f ↔
    (∃ e, h.readBytes path = .error e ∧ f = .file e) ∨
      ∃ bytes r, h.readBytes path = .ok bytes ∧ Utf8.decode bytes = .error r ∧ f = .decoding r := by
  constructor
  · intro hr
    cases hb : h.readBytes path with
    | error e =>
      rw [readText_of_readBytes_error hb] at hr
      exact .inl ⟨e, rfl, (Except.error.inj hr).symm⟩
    | ok bytes =>
      cases hd : Utf8.decode bytes with
      | error r =>
        rw [readText_of_decode_error hb hd] at hr
        exact .inr ⟨bytes, r, rfl, hd, (Except.error.inj hr).symm⟩
      | ok raw =>
        rw [readText_of_decode hb hd] at hr
        cases hr
  · rintro (⟨e, hb, rfl⟩ | ⟨bytes, r, hb, hd, rfl⟩)
    · exact readText_of_readBytes_error hb
    · exact readText_of_decode_error hb hd

/-- **A value** is what the text of a file is as JSON. -/
theorem readJson_eq_ok_iff {v : Value} :
    h.readJson path = .ok v ↔ ∃ text, h.readText path = .ok text ∧ Json.read text = .ok v := by
  unfold readJson
  cases h.readText path with
  | error f => exact ⟨nofun, fun ⟨_, hr, _⟩ => by cases hr⟩
  | ok text => simp [mapError_eq_ok_iff]

/-- What is read as JSON has bytes. -/
theorem exists_readBytes_of_readJson {v : Value} (hj : h.readJson path = .ok v) :
    ∃ bytes, h.readBytes path = .ok bytes := by
  obtain ⟨text, ht, -⟩ := readJson_eq_ok_iff.mp hj
  obtain ⟨bytes, -, hb, -⟩ := readText_eq_ok_iff.mp ht
  exact ⟨bytes, hb⟩

end AgentLint.Host
