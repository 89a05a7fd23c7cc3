import AgentLint.Cache.Basic
import AgentLint.Proofs.Assoc
import AgentLint.Proofs.Json.Reading
import AgentLint.Proofs.Sequencing

/-!
# What is stored is what is read

Outcomes and entries of the index have a stored form.  Reading it gives back all that was stored: for an
outcome, everything but the mended texts and the list of files (`Outcome.ofValue_toValue`); for an entry
of the index, everything (`CacheEntry.ofValue_toValue`).  An index can always be written, and its entries come
back in the order of their names (`CacheIndex.ofEntries_fields`).

An index that is written as JSON can always be read again (`CacheIndex.exists_shows`).  What comes back may
differ, but for names without surrogate pairs it is the same names with the same fingerprints
(`CacheIndex.beside_of_whole`).
-/

namespace AgentLint

open Text

/-- A finding without its mended text. -/
def Finding.unmended (f : Finding) : Finding := { f with autoFix := none }

/-- An outcome without mended texts. -/
def Outcome.unmended (o : Outcome) : Outcome :=
  { o with errors := o.errors.map Finding.unmended, warnings := o.warnings.map Finding.unmended }

theorem Finding.ofValue_toValue (g : Grade) (f : Finding) :
    Finding.ofValue (f.toValue g) = .ok f.unmended := rfl

theorem Usage.ofValue_toValue (u : Usage) : Usage.ofValue u.toValue = .ok u := by
  obtain ⟨rule, reason, replacedBy, since, removedIn, url⟩ := u
  cases replacedBy <;> rfl

/-- **A stored outcome is read back**, without mended texts and files. -/
theorem Outcome.ofValue_toValue (o : Outcome) :
    Outcome.ofValue o.toValue = .ok { o.unmended with files := [] } := by
  have heq : Outcome.ofValue o.toValue = (do
      let errors ← (o.errors.map (Finding.toValue .error)).mapM Finding.ofValue
      let warnings ← (o.warnings.map (Finding.toValue .warning)).mapM Finding.ofValue
      let deprecated ← (o.deprecated.map Usage.toValue).mapM Usage.ofValue
      pure { errors, warnings, deprecated }) := rfl
  rw [heq, mapM_map_of_ok (Finding.ofValue_toValue .error),
    mapM_map_of_ok (Finding.ofValue_toValue .warning), mapM_map_of_ok Usage.ofValue_toValue]
  simp only [List.map_id']
  rfl

/-- **An entry of the index is read back.** -/
theorem CacheEntry.ofValue_toValue (e : CacheEntry) : CacheEntry.ofValue e.toValue = .ok e := by
  obtain ⟨fingerprint, timestamp, resultFile, files⟩ := e
  have hfiles : (files.map Value.text).map Value.display = files := by
    simp [Value.display, Function.comp_def]
  have heq : CacheEntry.ofValue (toValue ⟨fingerprint, timestamp, resultFile, files⟩) =
      .ok ⟨fingerprint, timestamp, resultFile, (files.map Value.text).map Value.display⟩ := rfl
  rw [heq, hfiles]

/-- An entry as it comes back from a text: its texts with the halves of pairs joined. -/
structure CacheEntry.Resembles (e e' : CacheEntry) : Prop where
  fingerprint : e'.fingerprint = joined e.fingerprint
  resultFile : e'.resultFile = joined e.resultFile
  files : e'.files = e.files.map joined

namespace CacheEntry

/-- The stored form of an entry, written and read, is that of an entry like it, if the time returns as another. -/
theorem returns (e : CacheEntry) {y : Binary64} (hy : Json.Returns 0 (.float e.timestamp) (.float y)) :
    Json.Returns 2 e.toValue
      (toValue ⟨joined e.fingerprint, y, joined e.resultFile, e.files.map joined⟩) := by
  have hfiles : List.Forall₂ (Json.Returns 0) (e.files.map .text) ((e.files.map joined).map .text) := by
    rw [List.forall₂_map_left_iff, List.forall₂_map_right_iff, List.forall₂_map_right_iff, List.forall₂_same]
    exact fun p _ => Json.returns_text p
  have hkey : ∀ k ∈ ["hash", "timestamp", "result_file", "files"], k = joined k := by decide
  have hfields : List.Forall₂ (fun f g => g.1 = joined f.1 ∧ Json.Returns 1 f.2 g.2)
      [("hash", .text e.fingerprint), ("timestamp", .float e.timestamp), ("result_file", .text e.resultFile),
        ("files", .list (e.files.map .text))]
      [("hash", .text (joined e.fingerprint)), ("timestamp", .float y),
        ("result_file", .text (joined e.resultFile)), ("files", .list ((e.files.map joined).map .text))] :=
    .cons ⟨hkey _ (by simp), (Json.returns_text _).mono (Nat.zero_le 1)⟩
      (.cons ⟨hkey _ (by simp), hy.mono (Nat.zero_le 1)⟩
        (.cons ⟨hkey _ (by simp), (Json.returns_text _).mono (Nat.zero_le 1)⟩
          (.cons ⟨hkey _ (by simp), Json.returns_list hfiles⟩ .nil)))
  exact Json.returns_fields hfields

theorem exists_returns (e : CacheEntry) :
    ∃ e' : CacheEntry, Json.Returns 2 e.toValue e'.toValue ∧ e.Resembles e' := by
  obtain ⟨y, hy⟩ := Json.exists_returns_float e.timestamp
  exact ⟨_, e.returns hy, rfl, rfl, rfl⟩

/-- The texts of an entry are without pairs, and its time reads back. -/
structure Faithful (e : CacheEntry) : Prop where
  fingerprint : Whole e.fingerprint
  resultFile : Whole e.resultFile
  files : ∀ p ∈ e.files, Whole p
  timestamp : Json.Rereads (.float e.timestamp)

theorem Faithful.returns {e : CacheEntry} (he : e.Faithful) : Json.Returns 2 e.toValue e.toValue := by
  have hreturns := e.returns (Json.returns_float_of_rereads he.timestamp)
  rwa [joined_of_whole he.fingerprint, joined_of_whole he.resultFile, map_joined_of_whole he.files] at hreturns

end CacheEntry

namespace CacheIndex

/-- Entries in the order of their names. -/
def arranged (i : CacheIndex) : CacheIndex := i.mergeSort fun a b => a.1 ≤ b.1

theorem nodup_arranged {i : CacheIndex} (hnd : (Assoc.keys i).Nodup) : (Assoc.keys i.arranged).Nodup :=
  ((List.mergeSort_perm i _).map Prod.fst).nodup_iff.mpr hnd

theorem get?_arranged {i : CacheIndex} (hnd : (Assoc.keys i).Nodup) (name : String) :
    Assoc.get? name i.arranged = Assoc.get? name i :=
  Assoc.get?_perm (List.mergeSort_perm i _).symm hnd name

/-- Entries are read one by one behind those that have been read already. -/
theorem ofEntries_of_beside {gs : Assoc String Value} {i : CacheIndex}
    (h : Assoc.Beside (fun v e => CacheEntry.ofValue v = .ok e) gs i) :
    ∀ {acc : CacheIndex}, (Assoc.keys (acc ++ i)).Nodup →
      ofEntries acc (gs.map fun g => (.text g.1, g.2)) = .ok (acc ++ i) := by
  induction h with
  | nil =>
    intro acc _
    rw [List.map_nil, ofEntries, List.append_nil]
  | @cons g b gs i hgb _ ih =>
    intro acc hnd
    have hsplit : acc ++ b :: i = acc ++ [b] ++ i := by simp
    have hnew : b.1 ∉ Assoc.keys acc := by
      rw [Assoc.keys, List.map_append, List.nodup_append] at hnd
      exact fun hmem => hnd.2.2 b.1 hmem b.1 (by simp) rfl
    rw [hsplit] at hnd ⊢
    have hput : Assoc.put (Value.text g.1).display b.2 acc = acc ++ [b] := by
      show Assoc.put g.1 b.2 acc = _
      rw [hgb.1]
      exact Assoc.put_of_not_mem hnew b.2
    rw [List.map_cons, ofEntries, hgb.2]
    simp only [hput]
    exact ih hnd

/-- **Entries are read back** behind those that have been read already. -/
theorem ofEntries_fields {es acc : CacheIndex} (hnd : (Assoc.keys (acc ++ es)).Nodup) :
    ofEntries acc (es.map fun e => (.text e.1, e.2.toValue)) = .ok (acc ++ es) := by
  have hbeside : Assoc.Beside (fun v e => CacheEntry.ofValue v = .ok e)
      (es.map fun e => (e.1, e.2.toValue)) es := by
    rw [Assoc.Beside, List.forall₂_map_left_iff, List.forall₂_same]
    exact fun e _ => ⟨rfl, e.2.ofValue_toValue⟩
  have hread := ofEntries_of_beside hbeside hnd
  rwa [List.map_map] at hread

/-- An index can always be written. -/
theorem exists_writePretty (version : String) (i : CacheIndex) :
    ∃ text, Json.writePretty (toValue version i) = .ok text := by
  have hentry : ∀ e : CacheEntry, Json.Writes ⟨some 2, false⟩ e.toValue := by
    intro e
    refine Json.writes_fields rfl ?_
    simp only [List.forall_mem_cons, List.not_mem_nil, false_implies, implies_true, and_true]
    refine ⟨Json.writes_text _ _, Json.writes_float _ _, Json.writes_text _ _, Json.writes_list ?_⟩
    rintro v hv
    obtain ⟨path, -, rfl⟩ := List.mem_map.mp hv
    exact Json.writes_text _ path
  refine Json.writes_fields rfl ?_ 0
  simp only [List.forall_mem_cons, List.not_mem_nil, false_implies, implies_true, and_true]
  refine ⟨Json.writes_text _ _, Json.writes_fields rfl ?_⟩
  rintro f hf
  obtain ⟨e, -, rfl⟩ := List.mem_map.mp hf
  exact hentry e.2

/-! ## Written and read -/

/-- A value holds an index: its version and its entries. -/
structure Holds (w : Value) (version : String) (i : CacheIndex) : Prop where
  version : Entries.get "version" (w.map?.getD []) = .text version
  entries : ∃ es, Entries.get? "entries" (w.map?.getD []) = some (.map es) ∧ ofEntries [] es = .ok i

theorem Holds.unique {w : Value} {v v' : String} {i i' : CacheIndex} (h : Holds w v i) (h' : Holds w v' i') :
    v = v' ∧ i = i' := by
  obtain ⟨es, hes, hi⟩ := h.entries
  obtain ⟨es', hes', hi'⟩ := h'.entries
  have hsame := hes.symm.trans hes'
  simp only [Option.some.injEq, Value.map.injEq] at hsame
  subst hsame
  exact ⟨Value.text.inj (h.version.symm.trans h'.version), Except.ok.inj (hi.symm.trans hi')⟩

/-- The stored form of an index holds it, entries in order. -/
theorem holds_toValue (version : String) {i : CacheIndex} (hnd : (Assoc.keys i).Nodup) :
    Holds (toValue version i) version i.arranged := by
  have hfields : (toValue version i).map?.getD [] =
      [(.text "version", .text version),
        (.text "entries", .map (i.arranged.map fun e => (.text e.1, e.2.toValue)))] := by
    simp [toValue, Entries.ofFields, Value.map?, arranged, Function.comp_def]
  refine ⟨by rw [hfields]; rfl, _, by rw [hfields]; rfl, ?_⟩
  have hread : ofEntries [] (i.arranged.map fun e => (.text e.1, e.2.toValue)) = .ok ([] ++ i.arranged) :=
    ofEntries_fields (nodup_arranged hnd)
  exact hread

/-- Entries as they come back from a text. -/
def Likeness (i i' : CacheIndex) : Prop :=
  List.Forall₂ (fun a b => b.1 = joined a.1 ∧ a.2.Resembles b.2) i i'

theorem exists_likeness : ∀ i : CacheIndex, ∃ (gs : Assoc String Value) (bs : CacheIndex),
    List.Forall₂ (fun f g => g.1 = joined f.1 ∧ Json.Returns 2 f.2 g.2) (i.map fun e => (e.1, e.2.toValue)) gs ∧
      Assoc.Beside (fun v e => CacheEntry.ofValue v = .ok e) gs bs ∧ Likeness i bs
  | [] => ⟨[], [], .nil, .nil, .nil⟩
  | (name, e) :: i => by
    obtain ⟨gs, bs, hreturns, hbeside, hlike⟩ := exists_likeness i
    obtain ⟨e', he', hres⟩ := e.exists_returns
    exact ⟨(joined name, e'.toValue) :: gs, (joined name, e') :: bs, .cons ⟨rfl, he'⟩ hreturns,
      .cons ⟨rfl, e'.ofValue_toValue⟩ hbeside, .cons ⟨rfl, hres⟩ hlike⟩

/-- What an index is read as once it is written. -/
def Shows (version : String) (i : CacheIndex) (version' : String) (i' : CacheIndex) : Prop :=
  ∃ w, (∀ text, Json.writePretty (toValue version i) = .ok text → Json.read text = .ok w) ∧
    Holds w version' i'

/-- **A written index is read**: as entries like those in it, where of several under one name the last one stays. -/
theorem exists_shows (version : String) (i : CacheIndex) :
    ∃ bs, Likeness i.arranged bs ∧ Shows version i (joined version) (Assoc.putAll [] bs) := by
  obtain ⟨gs, bs, hreturns, hbeside, hlike⟩ := exists_likeness i.arranged
  have hkey : ∀ k ∈ ["version", "entries"], k = joined k := by decide
  have hindex : Json.Returns 4 (toValue version i) (Entries.ofFields (Assoc.putAll []
      [("version", .text (joined version)), ("entries", Entries.ofFields (Assoc.putAll [] gs))])) :=
    Json.returns_fields
      (.cons ⟨hkey _ (by simp), (Json.returns_text _).mono (Nat.zero_le 3)⟩
        (.cons ⟨hkey _ (by simp), Json.returns_fields hreturns⟩ .nil))
  refine ⟨bs, hlike, _, fun text hw => Json.read_of_returns hindex (by decide) hw, ⟨rfl, _, rfl, ?_⟩⟩
  have hnd : (Assoc.keys (Assoc.putAll [] bs)).Nodup := Assoc.nodup_keys_putAll (t := []) List.nodup_nil bs
  have hread : ofEntries [] _ = .ok ([] ++ Assoc.putAll [] bs) := ofEntries_of_beside (hbeside.putAll .nil) hnd
  exact hread

theorem Shows.unique {version v v' : String} {i j j' : CacheIndex} (h : Shows version i v j)
    (h' : Shows version i v' j') : v = v' ∧ j = j' := by
  obtain ⟨w, hw, hj⟩ := h
  obtain ⟨w', hw', hj'⟩ := h'
  obtain ⟨text, htext⟩ := exists_writePretty version i
  obtain rfl : w = w' := Except.ok.inj ((hw text htext).symm.trans (hw' text htext))
  exact hj.unique hj'

/-- An index that reads back is read as it was, entries in order. -/
theorem shows_of_rereads {version : String} {i : CacheIndex} (hnd : (Assoc.keys i).Nodup)
    (hre : Json.Rereads (toValue version i)) : Shows version i version i.arranged :=
  ⟨_, hre, holds_toValue version hnd⟩

/-- **An index of such entries reads back.** -/
theorem rereads_of_faithful {version : String} {i : CacheIndex} (hv : Whole version) (hnd : (Assoc.keys i).Nodup)
    (hi : ∀ f ∈ i, Whole f.1 ∧ f.2.Faithful) : Json.Rereads (toValue version i) := by
  have hkeys : ∀ k ∈ ["version", "entries"], Whole k := by decide
  have hentries : Json.Returns 3 (Entries.ofFields (i.arranged.map fun e => (e.1, e.2.toValue)))
      (Entries.ofFields (i.arranged.map fun e => (e.1, e.2.toValue))) := by
    refine Json.returns_fields_of_whole ?_ fun f hf => ?_
    · rw [Assoc.keys, List.map_map]
      exact nodup_arranged hnd
    · obtain ⟨e, he, rfl⟩ := List.mem_map.mp hf
      obtain ⟨hname, hfaithful⟩ := hi e ((List.mergeSort_perm i _).mem_iff.mp he)
      exact ⟨hname, hfaithful.returns⟩
  have hindex : Json.Returns 4 (toValue version i) (toValue version i) := by
    refine Json.returns_fields_of_whole (by simp [Assoc.keys]) ?_
    simp only [List.forall_mem_cons, List.not_mem_nil, false_implies, implies_true, and_true]
    exact ⟨⟨hkeys _ (by simp), (Json.returns_text_of_whole hv).mono (Nat.zero_le 3)⟩, hkeys _ (by simp), hentries⟩
  exact Json.rereads_of_returns hindex (by decide)

/-- Under names without pairs, an index is read as entries like those in it. -/
theorem beside_of_whole {i bs : CacheIndex} (h : Likeness i bs) (hnd : (Assoc.keys i).Nodup)
    (hw : ∀ name ∈ Assoc.keys i, Whole name) :
    Assoc.Beside CacheEntry.Resembles i (Assoc.putAll [] bs) := by
  have hbeside : Assoc.Beside CacheEntry.Resembles i bs := by
    clear hnd
    induction h with
    | nil => exact .nil
    | @cons a b i bs hab _ ih =>
      rw [Assoc.keys_cons, List.forall_mem_cons] at hw
      exact .cons ⟨by rw [hab.1, joined_of_whole hw.1], hab.2⟩ (ih hw.2)
  have hkeys := hbeside.keys_eq
  rw [Assoc.putAll_of_nodup (by rw [List.nil_append, ← hkeys]; exact hnd)]
  exact hbeside

end CacheIndex

end AgentLint
