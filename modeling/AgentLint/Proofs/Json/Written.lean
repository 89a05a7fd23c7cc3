import AgentLint.Proofs.FileTree.Reading
import AgentLint.Proofs.Json.Halves

/-!
# JSON in files

What `Json.writePretty` writes is ASCII without carriage returns (`safeText_writeAt`).  A file that holds
it is therefore read as the very text that was written (`readText_of_written`): decoding the bytes and
unifying line ends change nothing.

Whether the value that is read from such a text is the one that was written is a question of its own,
`Rereads`; for any one value, `checksOut` answers it by computation.
-/

namespace AgentLint

namespace Json

/-! ## 1. Numbers -/

/-- A character of which written numbers consist. -/
def IsNumeral (c : Char) : Prop := c.isDigit = true ∨ c ∈ ['-', '+', '.', 'e', 'N', 'a', 'I', 'n', 'f', 'i', 't', 'y']

instance (c : Char) : Decidable (IsNumeral c) := inferInstanceAs (Decidable (_ ∨ _))

/-- A text of such characters. -/
def Numeral (s : String) : Prop := ∀ c ∈ s.toList, IsNumeral c

instance (s : String) : Decidable (Numeral s) := List.decidableBAll IsNumeral s.toList

theorem IsNumeral.isSafe {c : Char} (h : IsNumeral c) : IsSafe c := by
  have hall : ∀ d ∈ ['-', '+', '.', 'e', 'N', 'a', 'I', 'n', 'f', 'i', 't', 'y'], IsSafe d := by simp [IsSafe]
  rcases h with h | h
  · exact isSafe_of_isDigit h
  · exact hall c h

theorem Numeral.safeText {s : String} (h : Numeral s) : SafeText s := fun c hc => (h c hc).isSafe

theorem Numeral.append {s t : String} (hs : Numeral s) (ht : Numeral t) : Numeral (s ++ t) := by
  intro c hc
  rw [String.toList_append, List.mem_append] at hc
  exact hc.elim (hs c) (ht c)

theorem numeral_ofList {cs : List Char} : Numeral (String.ofList cs) ↔ ∀ c ∈ cs, IsNumeral c := by
  rw [Numeral, String.toList_ofList]

theorem isNumeral_of_mem_decimal {n : Nat} {c : Char} (hc : c ∈ Nat.toDigits 10 n) : IsNumeral c :=
  .inl (Nat.isDigit_of_mem_toDigits (by omega) (by omega) hc)

/-- The characters of an integer: a minus sign in front of a negative one, then digits. -/
theorem toList_toString (n : Int) :
    (toString n).toList = (if n < 0 then ['-'] else []) ++ Nat.toDigits 10 n.natAbs := by
  rw [Int.toString_eq_repr, Int.repr_eq_if]
  by_cases hn : n < 0
  · have habs : (-n).toNat = n.natAbs := by omega
    rw [if_neg (by omega), if_pos hn, habs, String.toList_append, Nat.toList_repr]
    rfl
  · have habs : n.toNat = n.natAbs := by omega
    rw [if_pos (by omega), if_neg hn, habs, Nat.toList_repr, List.nil_append]

theorem numeral_toString (n : Int) : Numeral (toString n) := by
  intro c hc
  rw [toList_toString, List.mem_append] at hc
  rcases hc with hc | hc
  · split at hc
    · rw [List.mem_singleton.mp hc]
      decide
    · cases hc
  · exact isNumeral_of_mem_decimal hc

theorem numeral_integerText {n : Int} {s : String} (h : integerText n = .ok s) : Numeral s := by
  unfold integerText at h
  split at h
  · cases h
  · cases h
    exact numeral_toString n

theorem numeral_positional (keepsPoint : Bool) {ds : List Char} (hds : ∀ c ∈ ds, IsNumeral c)
    (point : Int) : Numeral (Decimal.positional keepsPoint ds point) := by
  have hzero : IsNumeral '0' := by decide
  have hpoint : IsNumeral '.' := by decide
  have hzeros : ∀ k, ∀ c ∈ List.replicate k '0', IsNumeral c := fun k c hc =>
    List.eq_of_mem_replicate hc ▸ hzero
  have htail : ∀ c ∈ (if keepsPoint then ['.', '0'] else []), IsNumeral c := by
    rw [← numeral_ofList]
    cases keepsPoint <;> decide
  unfold Decimal.positional
  simp only
  split
  · rw [numeral_ofList]
    simp only [List.cons_append, List.forall_mem_cons, List.forall_mem_append]
    exact ⟨hzero, hpoint, hzeros _, hds⟩
  · split
    · rw [numeral_ofList]
      simp only [List.forall_mem_append]
      exact ⟨⟨hds, hzeros _⟩, htail⟩
    · rw [numeral_ofList]
      simp only [List.forall_mem_append, List.forall_mem_cons]
      exact ⟨fun c hc => hds c (List.mem_of_mem_take hc), hpoint,
        fun c hc => hds c (List.mem_of_mem_drop hc)⟩

theorem numeral_scientific {ds : List Char} (hds : ∀ c ∈ ds, IsNumeral c) (point : Int) :
    Numeral (Decimal.scientific ds point) := by
  have hexp : Numeral (Decimal.exponentText (point - 1)) := by
    unfold Decimal.exponentText
    simp only
    rw [numeral_ofList]
    simp only [List.forall_mem_cons]
    refine ⟨by decide, by split <;> decide, ?_⟩
    split
    · simp only [List.forall_mem_cons]
      exact ⟨by decide, fun c hc => isNumeral_of_mem_decimal hc⟩
    · exact fun c hc => isNumeral_of_mem_decimal hc
  unfold Decimal.scientific
  refine Numeral.append ?_ hexp
  split
  · rw [numeral_ofList]
    simp only [List.forall_mem_cons] at hds ⊢
    exact ⟨hds.1, by decide, hds.2⟩
  · rw [numeral_ofList]
    exact hds

theorem isNumeral_of_mem_text (d : Decimal.Digits) : ∀ c ∈ d.text, IsNumeral c :=
  fun _ hc => isNumeral_of_mem_decimal hc

theorem numeral_laidOut {sign : String} (hsign : Numeral sign) (keepsPoint positional : Bool)
    (d : Decimal.Digits) :
    Numeral (if positional then sign ++ Decimal.positional keepsPoint d.text d.point
      else sign ++ Decimal.scientific d.text d.point) := by
  cases positional
  · exact hsign.append (numeral_scientific (isNumeral_of_mem_text d) _)
  · exact hsign.append (numeral_positional _ (isNumeral_of_mem_text d) _)

theorem numeral_render (x : Binary64) : Numeral (Decimal.render x) := by
  unfold Decimal.render Decimal.Style.render
  split
  · decide
  · split <;> decide
  · rename_i neg mant exp _
    have hsign : Numeral (if neg then "-" else "") := by
      cases neg <;> decide
    extract_lets sign
    split
    · refine hsign.append ?_
      decide
    · cases Binary64.magnitude mant exp with
      | mk num den => exact numeral_laidOut hsign _ _ _

theorem numeral_floatText (x : Binary64) : Numeral (floatText x) := by
  unfold floatText
  split
  · decide
  · split <;> decide
  · exact numeral_render x

/-! ## 2. Values -/

theorem safeText_newline (l : Layout) (level : Nat) : SafeText (l.newline level) := by
  unfold Layout.newline
  split
  · decide
  · rw [SafeText, String.toList_ofList, List.forall_mem_cons]
    exact ⟨by decide, fun c hc => List.eq_of_mem_replicate hc ▸ by decide⟩

theorem safeText_intercalate {sep : String} (hsep : SafeText sep) :
    ∀ {items : List String}, (∀ s ∈ items, SafeText s) → SafeText (sep.intercalate items)
  | [], _ => by
    rw [String.intercalate_nil]
    decide
  | [s], h => by
    rw [String.intercalate_singleton]
    exact h s List.mem_cons_self
  | s :: t :: items, h => by
    rw [String.intercalate_cons_cons]
    exact ((h s List.mem_cons_self).append hsep).append
      (safeText_intercalate hsep fun u hu => h u (List.mem_cons_of_mem s hu))

theorem safeText_wrap (l : Layout) (level : Nat) {left right : String} (hleft : SafeText left)
    (hright : SafeText right) {items : List String} (h : ∀ s ∈ items, SafeText s) :
    SafeText (l.wrap level left right items) := by
  unfold Layout.wrap
  split
  · exact hleft.append hright
  · refine (((hleft.append (safeText_newline l _)).append ?_).append
      (safeText_newline l _)).append hright
    refine safeText_intercalate ?_ h
    split
    · decide
    · refine SafeText.append ?_ (safeText_newline l _)
      decide

theorem safeText_list (l : Layout) (level : Nat) {items : List String} (h : ∀ s ∈ items, SafeText s) :
    SafeText (l.wrap level "[" "]" items) := safeText_wrap l level (by decide) (by decide) h

theorem safeText_map (l : Layout) (level : Nat) {items : List String} (h : ∀ s ∈ items, SafeText s) :
    SafeText (l.wrap level "\x7b" "\x7d" items) := safeText_wrap l level (by decide) (by decide) h

/-- With keys as they come, the fields of a map are its entries. -/
theorem arrange_of_unsorted {l : Layout} (hl : l.sorted = false)
    (entries : List (Value × Except Unwritable String)) : l.arrange entries = entries.mapM Prod.snd := by
  rw [Layout.arrange, hl]
  rfl

/-- Every key is written as a quoted text. -/
theorem exists_quote_of_keyText {name : Value → String} {k : Value} {s : String}
    (h : keyText name k = .ok s) : ∃ t, s = quote t := by
  unfold keyText at h
  split at h
  · exact ⟨_, (Except.ok.inj h).symm⟩
  · exact ⟨_, (Except.ok.inj h).symm⟩
  · exact ⟨_, (Except.ok.inj h).symm⟩
  · rename_i n
    generalize integerText n = r at h
    cases r with
    | error e => cases h
    | ok t => exact ⟨t, (Except.ok.inj h).symm⟩
  · exact ⟨_, (Except.ok.inj h).symm⟩
  · cases h

theorem safeText_keyText {name : Value → String} {k : Value} {s : String}
    (h : keyText name k = .ok s) : SafeText s := by
  obtain ⟨t, rfl⟩ := exists_quote_of_keyText h
  exact safeText_quote t

mutual
/-- **What is written with keys as they come is safe**, by recursion over the value. -/
theorem safeText_writeAt {l : Layout} (hl : l.sorted = false) :
    ∀ (v : Value) (level : Nat) (s : String), l.writeAt level v = .ok s → SafeText s
  | .null => by
    intro level s h
    rw [Layout.writeAt] at h
    cases h
    decide
  | .bool b => by
    intro level s h
    rw [Layout.writeAt] at h
    cases h
    cases b <;> decide
  | .int n => by
    intro level s h
    rw [Layout.writeAt] at h
    exact (numeral_integerText h).safeText
  | .float x => by
    intro level s h
    rw [Layout.writeAt] at h
    cases h
    exact (numeral_floatText x).safeText
  | .text t => by
    intro level s h
    rw [Layout.writeAt] at h
    cases h
    exact safeText_quote t
  | .list vs => by
    intro level s h
    rw [Layout.writeAt, map_eq_ok_iff] at h
    obtain ⟨ss, hss, rfl⟩ := h
    exact safeText_list l level (safeText_writeItems hl vs _ _ hss)
  | .pair k v => by
    intro level s h
    rw [Layout.writeAt] at h
    obtain ⟨kt, hk, h⟩ := bind_eq_ok_iff.mp h
    obtain ⟨vt, hv, h⟩ := bind_eq_ok_iff.mp h
    cases h
    refine safeText_list l level ?_
    intro t ht
    rcases List.mem_pair.mp ht with rfl | rfl
    · exact safeText_writeAt hl k _ _ hk
    · exact safeText_writeAt hl v _ _ hv
  | .map es => by
    intro level s h
    rw [Layout.writeAt, arrange_of_unsorted hl, map_eq_ok_iff] at h
    obtain ⟨ss, hss, rfl⟩ := h
    refine safeText_map l level ?_
    intro t ht
    obtain ⟨e, he, het⟩ := exists_of_mem_mapM hss ht
    exact safeText_writeEntries hl es _ e he t het
  | .bytes _ | .day _ | .moment _ | .set _ | .loop _ => by
    intro level s h
    simp [Layout.writeAt] at h

theorem safeText_writeItems {l : Layout} (hl : l.sorted = false) :
    ∀ (vs : List Value) (level : Nat) (ss : List String), l.writeItems level vs = .ok ss →
      ∀ s ∈ ss, SafeText s
  | [] => by
    intro level ss h
    rw [Layout.writeItems] at h
    cases h
    simp
  | v :: vs => by
    intro level ss h
    rw [Layout.writeItems] at h
    obtain ⟨t, ht, h⟩ := bind_eq_ok_iff.mp h
    obtain ⟨ts, hts, h⟩ := bind_eq_ok_iff.mp h
    cases h
    rw [List.forall_mem_cons]
    exact ⟨safeText_writeAt hl v _ _ ht, safeText_writeItems hl vs _ _ hts⟩

theorem safeText_writeEntries {l : Layout} (hl : l.sorted = false) :
    ∀ (es : List (Value × Value)) (level : Nat), ∀ e ∈ l.writeEntries level es,
      ∀ s, e.2 = .ok s → SafeText s
  | [] => by
    intro level e he
    rw [Layout.writeEntries] at he
    cases he
  | (k, v) :: es => by
    intro level e he s hs
    rw [Layout.writeEntries] at he
    rcases List.mem_cons.mp he with rfl | he
    · obtain ⟨kt, hk, hs⟩ := bind_eq_ok_iff.mp hs
      obtain ⟨vt, hv, rfl⟩ := map_eq_ok_iff.mp hs
      exact ((safeText_keyText hk).append (by decide)).append (safeText_writeAt hl v _ _ hv)
    · exact safeText_writeEntries hl es _ e he s hs
end

/-- A value that can be written whatever is around it. -/
def Writes (l : Layout) (v : Value) : Prop := ∀ level, ∃ text, l.writeAt level v = .ok text

theorem writes_text (l : Layout) (s : String) : Writes l (.text s) := fun _ => ⟨quote s, by rw [Layout.writeAt]⟩

theorem writes_float (l : Layout) (x : Binary64) : Writes l (.float x) :=
  fun _ => ⟨floatText x, by rw [Layout.writeAt]⟩

theorem exists_writeItems {l : Layout} : ∀ {vs : List Value}, (∀ v ∈ vs, Writes l v) → ∀ level,
    ∃ ss, l.writeItems level vs = .ok ss
  | [], _, _ => ⟨[], by rw [Layout.writeItems]⟩
  | v :: vs, h, level => by
    obtain ⟨s, hs⟩ := h v List.mem_cons_self level
    obtain ⟨ss, hss⟩ := exists_writeItems (fun w hw => h w (List.mem_cons_of_mem v hw)) level
    refine ⟨s :: ss, ?_⟩
    rw [Layout.writeItems, hs, hss]
    rfl

theorem writes_list {l : Layout} {vs : List Value} (h : ∀ v ∈ vs, Writes l v) : Writes l (.list vs) := by
  intro level
  obtain ⟨ss, hss⟩ := exists_writeItems h (level + 1)
  refine ⟨l.wrap level "[" "]" ss, ?_⟩
  rw [Layout.writeAt, hss]
  rfl

theorem exists_mapM_writeEntries {l : Layout} (level : Nat) : ∀ {fields : List (String × Value)},
    (∀ f ∈ fields, Writes l f.2) →
      ∃ ss, (l.writeEntries level (fields.map fun f => (.text f.1, f.2))).mapM Prod.snd = .ok ss
  | [], _ => ⟨[], by rw [List.map_nil, Layout.writeEntries]; rfl⟩
  | (k, v) :: fields, h => by
    obtain ⟨s, hs⟩ := h (k, v) List.mem_cons_self level
    obtain ⟨ss, hss⟩ := exists_mapM_writeEntries level fun f hf => h f (List.mem_cons_of_mem _ hf)
    refine ⟨(quote k ++ ": " ++ s) :: ss, ?_⟩
    rw [List.map_cons, Layout.writeEntries, List.mapM_cons, hss]
    simp only [keyText, hs]
    rfl

/-- Fields that can be written make a map that can be written, with keys as they come. -/
theorem writes_fields {l : Layout} (hl : l.sorted = false) {fields : List (String × Value)}
    (h : ∀ f ∈ fields, Writes l f.2) : Writes l (Entries.ofFields fields) := by
  intro level
  obtain ⟨ss, hss⟩ := exists_mapM_writeEntries (level + 1) h
  refine ⟨l.wrap level "\x7b" "\x7d" ss, ?_⟩
  rw [Entries.ofFields, Layout.writeAt, Layout.arrange, hl]
  show ((l.writeEntries (level + 1) _).mapM Prod.snd).map _ = _
  rw [hss]
  rfl

/-! ## 3. Through a file -/

theorem encode_of_safe : ∀ {cs : List Char}, (∀ c ∈ cs, IsSafe c) →
    cs.flatMap Utf8.encodeChar = cs.map fun c => UInt8.ofNat c.toNat
  | [], _ => rfl
  | c :: cs, h => by
    have hc := (h c List.mem_cons_self).1
    have hchar : Utf8.encodeChar c = [UInt8.ofNat c.toNat] := by
      rw [Utf8.encodeChar, if_pos (by omega)]
    rw [List.flatMap_cons, hchar, encode_of_safe fun d hd => h d (List.mem_cons_of_mem c hd)]
    rfl

theorem decodeAux_of_safe : ∀ {cs : List Char}, (∀ c ∈ cs, IsSafe c) → ∀ (offset : Nat)
    (acc : List Char), Utf8.decodeAux cs.length offset acc (cs.map fun c => UInt8.ofNat c.toNat) =
      .ok (acc.reverse ++ cs)
  | [], _, offset, acc => by simp [Utf8.decodeAux]
  | c :: cs, h, offset, acc => by
    have hc := (h c List.mem_cons_self).1
    have hbyte : (UInt8.ofNat c.toNat).toNat = c.toNat := by
      rw [UInt8.toNat_ofNat']
      omega
    have hlen : Utf8.lengthOf? c.toNat = some 1 := by rw [Utf8.lengthOf?, if_pos (by omega)]
    have hrest := decodeAux_of_safe (fun d hd => h d (List.mem_cons_of_mem c hd)) (offset + 1) (c :: acc)
    rw [List.map_cons, List.length_cons, Utf8.decodeAux, hbyte, hlen]
    simp only [Nat.sub_self, Utf8.tail, Utf8.lead, beq_self_eq_true, if_true, Char.ofNat_toNat, hrest]
    simp

theorem decode_encode {s : String} (h : SafeText s) : Utf8.decode (Utf8.encode s) = .ok s := by
  rw [Utf8.decode, Utf8.encode, encode_of_safe h, List.length_map, decodeAux_of_safe h]
  simp [Except.map]

theorem universalNewlines_of_safe {s : String} (h : SafeText s) : Utf8.universalNewlines s = s := by
  have hfold : ∀ cs : List Char, (∀ c ∈ cs, IsSafe c) →
      (cs.foldr Utf8.newlineStep ([], false)).1 = cs := by
    intro cs hcs
    induction cs with
    | nil => rfl
    | cons c cs ih =>
      have hc := (hcs c List.mem_cons_self).2
      rw [List.foldr_cons, Utf8.newlineStep, if_neg hc, ih fun d hd => hcs d (List.mem_cons_of_mem c hd)]
  rw [Utf8.universalNewlines, hfold s.toList h, String.ofList_toList]

/-- **A JSON text comes back from the file it was written to.** -/
theorem readText_of_written {h : Host} {path : String} {v : Value} {text : String}
    (hw : writePretty v = .ok text) (hb : h.readBytes path = .ok (Utf8.encode text)) :
    h.readText path = .ok text := by
  have hsafe : SafeText text := safeText_writeAt rfl v 0 text hw
  rw [Host.readText_of_decode hb (decode_encode hsafe), universalNewlines_of_safe hsafe]

/-! ## 4. Values that read back -/

/-- Reading undoes writing for this value. -/
def Rereads (v : Value) : Prop := ∀ text, writePretty v = .ok text → read text = .ok v

/-- A value that reads back is read from its file. -/
theorem readJson_of_written {h : Host} {v : Value} {text path : String} (hv : Rereads v)
    (hw : writePretty v = .ok text) (hb : h.readBytes path = .ok (Utf8.encode text)) :
    h.readJson path = .ok v := by
  exact Host.readJson_eq_ok_iff.mpr ⟨text, readText_of_written hw hb, hv text hw⟩

mutual
/-- Whether two documents as JSON has them are the same. -/
def alike : Value → Value → Bool
  | .null, .null => true
  | .bool a, .bool b => a = b
  | .int a, .int b => a = b
  | .float a, .float b => a = b
  | .text a, .text b => a = b
  | .list vs, .list ws => alikeItems vs ws
  | .map es, .map fs => alikeEntries es fs
  | _, _ => false

/-- The same for the items of a list. -/
def alikeItems : List Value → List Value → Bool
  | [], [] => true
  | v :: vs, w :: ws => alike v w && alikeItems vs ws
  | _, _ => false

/-- The same for the entries of a map. -/
def alikeEntries : Entries → Entries → Bool
  | [], [] => true
  | (k, v) :: es, (l, w) :: fs => alike k l && alike v w && alikeEntries es fs
  | _, _ => false
end

mutual
theorem eq_of_alike : ∀ {v w : Value}, alike v w = true → v = w
  | v, w, h => by
    unfold alike at h
    split at h
    · rfl
    · rw [of_decide_eq_true h]
    · rw [of_decide_eq_true h]
    · rw [of_decide_eq_true h]
    · rw [of_decide_eq_true h]
    · rw [eq_of_alikeItems h]
    · rw [eq_of_alikeEntries h]
    · cases h

theorem eq_of_alikeItems : ∀ {vs ws : List Value}, alikeItems vs ws = true → vs = ws
  | [], [], _ => rfl
  | v :: vs, w :: ws, h => by
    rw [alikeItems, Bool.and_eq_true] at h
    rw [eq_of_alike h.1, eq_of_alikeItems h.2]

theorem eq_of_alikeEntries : ∀ {es fs : Entries}, alikeEntries es fs = true → es = fs
  | [], [], _ => rfl
  | (k, v) :: es, (l, w) :: fs, h => by
    rw [alikeEntries, Bool.and_eq_true, Bool.and_eq_true] at h
    rw [eq_of_alike h.1.1, eq_of_alike h.1.2, eq_of_alikeEntries h.2]
end

/-- A value is read from a text if what is read is the same. -/
theorem read_of_alike {text : String} {v : Value} (h : (read text).toOption.any (alike v) = true) :
    read text = .ok v := by
  obtain ⟨w, hw, hsame⟩ := (Option.any_eq_true _ _).mp h
  rw [eq_ok_of_toOption hw, eq_of_alike hsame]

/-- Writes a value, reads it and compares. -/
def checksOut (v : Value) : Bool :=
  match writePretty v with
  | .error _ => true
  | .ok text =>
    match read text with
    | .ok w => alike w v
    | .error _ => false

theorem rereads_of_checksOut {v : Value} (h : checksOut v = true) : Rereads v := by
  intro text hw
  unfold checksOut at h
  rw [hw] at h
  simp only at h
  split at h
  · rename_i w hr
    rw [hr, eq_of_alike h]
  · cases h

end Json

end AgentLint
