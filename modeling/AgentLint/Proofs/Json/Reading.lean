import AgentLint.Proofs.Assoc
import AgentLint.Proofs.Json.Number
import AgentLint.Proofs.Json.Written

/-!
# What a written value is read as

Texts and doubles, lists and maps with text keys that are written over several lines are read again: a text with
the halves of its pairs joined, a double as some double, a list item by item, and a map field by field, where of
several fields of one key the last one stays.  `Returns` says so of one value; a list or map of values that
return does so itself (`returns_list`, `returns_fields`), as long as it is not nested too deeply
(`read_of_returns`).  What returns as it is reads back (`rereads_of_returns`), so that larger values need not be
written and read to see that.

Nesting is counted from the calls around a text on; what is read with many of them is read alike with fewer
(`readInside_of_le`).
-/

namespace AgentLint

/-- Writing a field among fields with text keys. -/
theorem Entries.put_fields (k : String) (v : Value) (t : Assoc String Value) :
    Entries.put (.text k) v (t.map fun f => (.text f.1, f.2)) =
      (Assoc.put k v t).map fun f => (.text f.1, f.2) := by
  induction t with
  | nil => rfl
  | cons e t ih =>
    have hsame : (Value.text e.1).sameKey (.text k) = decide (e.1 = k) := rfl
    rw [List.map_cons, Entries.put, Assoc.put, hsame]
    by_cases he : e.1 = k
    · simp [he]
    · simp [he, ih]

namespace Json

open Decimal Text

/-! ## 1. Blanks -/

/-- The layout over several lines. -/
def pretty : Layout := ⟨some 2, false⟩

theorem toList_newline (level : Nat) :
    (pretty.newline level).toList = '\n' :: List.replicate (2 * level) ' ' := by
  simp [pretty, Layout.newline]

theorem skip_of_head {cs : List Char} (h : ∀ c ∈ cs.head?, isSpace c = false) : skip cs = cs := by
  cases cs with
  | nil => rfl
  | cons c cs => simp [skip, h c rfl]

theorem skip_newline (level : Nat) (cs : List Char) : skip ((pretty.newline level).toList ++ cs) = skip cs := by
  have hblank : ∀ c ∈ (pretty.newline level).toList, isSpace c = true := by
    intro c hc
    rw [toList_newline] at hc
    rcases List.mem_cons.mp hc with rfl | hc
    · decide
    · rw [List.eq_of_mem_replicate hc]
      decide
  exact List.dropWhile_append_of_pos hblank

theorem endsNumber_newline (level : Nat) (cs : List Char) : EndsNumber ((pretty.newline level).toList ++ cs) := by
  rw [toList_newline]
  intro c hc
  rw [← Option.mem_some_iff.mp hc]
  decide

theorem endsNumber_comma (cs : List Char) : EndsNumber (',' :: cs) := by
  intro c hc
  rw [← Option.mem_some_iff.mp hc]
  decide

/-! ## 2. Texts of values -/

/-- A text is read as a value, whatever follows it that does not go on with a number, where `height` is how many
lists and maps are nested in it. -/
structure ReadsAs (height : Nat) (text : String) (v : Value) : Prop where
  head : ∃ c cs, text.toList = c :: cs ∧ isSpace c = false ∧ c ≠ ']'
  reads : ∀ {fuel depth : Nat} {rest : List Char}, text.toList.length ≤ fuel → depth + height ≤ deepest →
    EndsNumber rest → readValue fuel depth (text.toList ++ rest) = .ok (v, rest)

theorem ReadsAs.mono {m n : Nat} {text : String} {v : Value} (h : ReadsAs m text v) (hle : m ≤ n) :
    ReadsAs n text v := ⟨h.head, fun hf hd => h.reads hf (by omega)⟩

theorem ReadsAs.skip_eq {n : Nat} {text : String} {v : Value} (h : ReadsAs n text v) (rest : List Char) :
    skip (text.toList ++ rest) = text.toList ++ rest := by
  obtain ⟨c, cs, htext, hc, -⟩ := h.head
  rw [htext]
  exact skip_of_head fun d hd => (Option.mem_some_iff.mp hd) ▸ hc

theorem readsAs_quote (s : String) : ReadsAs 0 (quote s) (.text (joined s)) := by
  have hquote : (quote s).toList = '"' :: (s.toList.flatMap escapeChar ++ ['"']) := by
    simp [quote]
  refine ⟨⟨'"', _, hquote, by decide, by decide⟩, fun {fuel depth rest} hf _ _ => ?_⟩
  obtain ⟨n, rfl⟩ : ∃ n, fuel = n + 1 := ⟨fuel - 1, by rw [hquote] at hf; simp at hf; omega⟩
  have hread := readString_quote s rest
  rw [hquote, List.cons_append] at hread ⊢
  rw [readValue, hread]
  rfl

/-- No value starts with a blank or a closing bracket. -/
theorem head_of_readValue {cs : List Char} {r : Value × List Char} (h : readValue 1 0 cs = .ok r) :
    ∃ c rest, cs = c :: rest ∧ isSpace c = false ∧ c ≠ ']' := by
  have hstop : ∀ (c : Char) (rest : List Char), c ∈ [' ', '\t', '\n', '\r', ']'] →
      readValue 1 0 (c :: rest) = .error (.at .value (c :: rest)) := by
    intro c rest hc
    simp only [List.mem_cons, List.not_mem_nil, or_false] at hc
    rcases hc with rfl | rfl | rfl | rfl | rfl <;> rfl
  cases cs with
  | nil => cases h
  | cons c rest =>
    have hno : c ∉ [' ', '\t', '\n', '\r', ']'] := fun hc => by
      rw [hstop c rest hc] at h
      cases h
    refine ⟨c, rest, rfl, ?_, fun he => hno (by simp [he])⟩
    simp only [List.mem_cons, List.not_mem_nil, or_false, not_or] at hno
    simp [isSpace, hno.1, hno.2.1, hno.2.2.1, hno.2.2.2.1]

/-- A text that is read at any place, as no text starts with a blank. -/
theorem readsAs_of_readValue {text : String} {v : Value} (h : ∀ (fuel depth : Nat) (rest : List Char),
    EndsNumber rest → readValue (fuel + 1) depth (text.toList ++ rest) = .ok (v, rest)) : ReadsAs 0 text v := by
  have halone := h 0 0 [] endsNumber_nil
  rw [List.append_nil] at halone
  obtain ⟨c, cs, htext, hhead⟩ := head_of_readValue halone
  refine ⟨⟨c, cs, htext, hhead⟩, fun {fuel depth rest} hf _ hrest => ?_⟩
  obtain ⟨n, rfl⟩ : ∃ n, fuel = n + 1 := ⟨fuel - 1, by rw [htext] at hf; simp at hf; omega⟩
  exact h n depth rest hrest

/-- A written double is read as some double. -/
theorem exists_readsAs_floatText (x : Binary64) : ∃ y, ReadsAs 0 (floatText x) (.float y) := by
  obtain ⟨y, hy⟩ := exists_readValue_floatText x
  exact ⟨y, readsAs_of_readValue hy⟩

/-- **A written integer is read as it is.** -/
theorem readsAs_integerText {n : Int} {text : String} (h : integerText n = .ok text) : ReadsAs 0 text (.int n) := by
  unfold integerText at h
  split at h
  · cases h
  · rename_i hshort
    cases h
    have hlt : n.natAbs < 10 ^ mostDigits := by
      unfold isUnwritable at hshort
      generalize mostDigits = most at hshort ⊢
      simpa using hshort
    refine readsAs_of_readValue fun fuel depth rest hrest => readValue_of_number ?_ fuel depth
    have hsign : (if decide (n < 0) then -(n.natAbs : Int) else n.natAbs) = n := by
      by_cases hn : n < 0
      · rw [decide_eq_true hn, if_pos rfl]; omega
      · rw [decide_eq_false hn, if_neg Bool.false_ne_true]; omega
    have hread := readNumber_toDigits hlt hrest (decide (n < 0))
    rw [hsign] at hread
    rw [toList_toString, List.append_assoc]
    simpa [signChars] using hread

/-- The three words of JSON that are no numbers. -/
theorem readsAs_word :
    ReadsAs 0 "null" .null ∧ ReadsAs 0 "true" (.bool true) ∧ ReadsAs 0 "false" (.bool false) :=
  ⟨readsAs_of_readValue fun _ _ _ _ => rfl, readsAs_of_readValue fun _ _ _ _ => rfl,
    readsAs_of_readValue fun _ _ _ _ => rfl⟩

/-! ## 3. Lists -/

/-- What stands between two items. -/
def separator (level : Nat) : String := "," ++ pretty.newline (level + 1)

theorem toList_separator (level : Nat) : (separator level).toList = ',' :: (pretty.newline (level + 1)).toList := by
  simp [separator]

variable {n fuel depth level : Nat} {rest : List Char}

/-- What comes first of several items. -/
theorem exists_toList_intercalate (sep s : String) (items : List String) :
    ∃ tail, (sep.intercalate (s :: items)).toList = s.toList ++ tail := by
  cases items with
  | nil => exact ⟨[], by rw [String.intercalate_singleton, List.append_nil]⟩
  | cons t items =>
    exact ⟨sep.toList ++ (sep.intercalate (t :: items)).toList, by
      rw [String.intercalate_cons_cons, String.toList_append, String.toList_append, List.append_assoc]⟩

/-- Several items start as the first of them does. -/
theorem head_intercalate (level : Nat) {items : List String} {vs : List Value} (hne : items ≠ [])
    (h : List.Forall₂ (ReadsAs n) items vs) : ∃ c cs, ((separator level).intercalate items).toList = c :: cs ∧
      isSpace c = false ∧ c ≠ ']' := by
  cases h with
  | nil => exact absurd rfl hne
  | @cons s _ items _ hv _ =>
    obtain ⟨tail, htail⟩ := exists_toList_intercalate (separator level) s items
    obtain ⟨c, cs, hs, hc⟩ := hv.head
    exact ⟨c, cs ++ tail, by rw [htail, hs, List.cons_append], hc⟩

/-- Items are read up to the bracket. -/
theorem readItems_intercalate : ∀ {items : List String} {vs : List Value}, items ≠ [] →
    List.Forall₂ (ReadsAs n) items vs → ∀ (fuel : Nat) (acc : List Value),
      ((separator level).intercalate items).toList.length < fuel → depth + n ≤ deepest →
        readItems fuel depth acc (((separator level).intercalate items).toList ++
          ((pretty.newline level).toList ++ ']' :: rest)) = .ok (.list (acc.reverse ++ vs), rest)
  | [s], [v], _, .cons hv .nil, fuel, acc, hf, hd => by
    obtain ⟨m, rfl⟩ : ∃ m, fuel = m + 1 := ⟨fuel - 1, by omega⟩
    rw [String.intercalate_singleton] at hf ⊢
    rw [readItems, hv.reads (by omega) hd (endsNumber_newline _ _)]
    simp only [skip_newline]
    rw [skip_of_head (by simp; decide)]
    simp
  | s :: t :: items, v :: w :: vs, _, .cons hv hrest, fuel, acc, hf, hd => by
    obtain ⟨m, rfl⟩ : ∃ m, fuel = m + 1 := ⟨fuel - 1, by omega⟩
    have hitems := fun hlt => readItems_intercalate (List.cons_ne_nil t items) hrest m (v :: acc) hlt hd
    have hskip : ∀ x, skip (((separator level).intercalate (t :: items)).toList ++ x) =
        ((separator level).intercalate (t :: items)).toList ++ x := fun x => by
      obtain ⟨c, cs, htext, hc, -⟩ := head_intercalate level (List.cons_ne_nil t items) hrest
      rw [htext]
      exact skip_of_head fun d hd => (Option.mem_some_iff.mp hd) ▸ hc
    rw [String.intercalate_cons_cons, String.toList_append, String.toList_append, toList_separator] at hf ⊢
    simp only [List.length_append, List.length_cons] at hf
    simp only [List.append_assoc, List.cons_append]
    rw [readItems, hv.reads (by omega) hd (endsNumber_comma _)]
    simp only
    rw [skip_of_head (by simp; decide)]
    simp only
    rw [skip_newline, hskip, hitems (by omega)]
    simp

theorem wrap_nil (level : Nat) (left right : String) : pretty.wrap level left right [] = left ++ right := rfl

theorem toList_wrap_cons (level : Nat) (left right : String) {items : List String} (hne : items ≠ []) :
    (pretty.wrap level left right items).toList = left.toList ++ ((pretty.newline (level + 1)).toList ++
      (((separator level).intercalate items).toList ++ ((pretty.newline level).toList ++ right.toList))) := by
  have hempty : items.isEmpty = false := by simpa using hne
  simp [Layout.wrap, hempty, separator, pretty]

/-- **A list of texts of values** is read as the list of the values. -/
theorem readsAs_list {items : List String} {vs : List Value} (h : List.Forall₂ (ReadsAs n) items vs) :
    ReadsAs (n + 1) (pretty.wrap level "[" "]" items) (.list vs) := by
  by_cases hne : items = []
  · subst hne
    cases h
    rw [wrap_nil]
    refine ⟨⟨'[', [']'], rfl, by decide, by decide⟩, fun {fuel depth rest} hf hd _ => ?_⟩
    obtain ⟨m, rfl⟩ : ∃ m, fuel = m + 1 := ⟨fuel - 1, by simp at hf; omega⟩
    have hdeep : ¬ deepest ≤ depth := by omega
    show readValue (m + 1) depth ('[' :: ']' :: rest) = _
    rw [readValue, if_neg hdeep, skip_of_head (by simp; decide)]
    rfl
  · have htext : (pretty.wrap level "[" "]" items).toList = '[' :: ((pretty.newline (level + 1)).toList ++
        (((separator level).intercalate items).toList ++ ((pretty.newline level).toList ++ [']']))) :=
      toList_wrap_cons level "[" "]" hne
    refine ⟨⟨'[', _, htext, by decide, by decide⟩, fun {fuel depth rest} hf hd _ => ?_⟩
    rw [htext, List.length_cons, List.length_append, List.length_append] at hf
    obtain ⟨m, rfl⟩ : ∃ m, fuel = m + 1 := ⟨fuel - 1, by omega⟩
    have hdeep : ¬ deepest ≤ depth := by omega
    obtain ⟨c, tail, hitems, hblank, hbracket⟩ := head_intercalate level hne h
    have hread : readItems m (depth + 1) [] (((separator level).intercalate items).toList ++
        ((pretty.newline level).toList ++ ']' :: rest)) = _ :=
      readItems_intercalate hne h m [] (by rw [toList_newline, List.length_cons] at hf; omega) (by omega)
    have hskip : ∀ x, skip (((separator level).intercalate items).toList ++ x) =
        ((separator level).intercalate items).toList ++ x := fun x => by
      rw [hitems]
      exact skip_of_head fun d hd => (Option.mem_some_iff.mp hd) ▸ hblank
    rw [htext]
    simp only [List.cons_append, List.append_assoc, List.nil_append]
    rw [readValue, if_neg hdeep, skip_newline, hskip]
    rw [hitems, List.cons_append] at hread ⊢
    split
    · rename_i heq
      exact absurd (List.cons.inj heq).1 hbracket
    · exact hread

/-! ## 4. Maps -/

/-- The text of a field is read as the field. -/
def FieldReadsAs (n : Nat) (item : String) (g : String × Value) : Prop :=
  ∃ k text, item = quote k ++ ": " ++ text ∧ g.1 = joined k ∧ ReadsAs n text g.2

theorem toList_field (k text : String) :
    (quote k ++ ": " ++ text).toList = (quote k).toList ++ (':' :: ' ' :: text.toList) := by
  simp

theorem head_quote (k : String) : ∃ cs, (quote k).toList = '"' :: cs := ⟨_, by rw [quote, String.toList_ofList]; rfl⟩

/-- Several fields start with a quote. -/
theorem head_fields (level : Nat) {items : List String} {gs : List (String × Value)} (hne : items ≠ [])
    (h : List.Forall₂ (FieldReadsAs n) items gs) :
    ∃ cs, ((separator level).intercalate items).toList = '"' :: cs := by
  cases h with
  | nil => exact absurd rfl hne
  | @cons s _ items _ hg _ =>
    obtain ⟨tail, htail⟩ := exists_toList_intercalate (separator level) s items
    obtain ⟨k, text, rfl, -, -⟩ := hg
    obtain ⟨cs, hcs⟩ := head_quote k
    exact ⟨cs ++ (':' :: ' ' :: text.toList) ++ tail, by rw [htail, toList_field, hcs]; simp⟩

/-- One field is read, and what follows it decides what comes next. -/
theorem readMembers_field {k text : String} {v : Value} (hv : ReadsAs n text v) {m : Nat}
    (hf : text.toList.length ≤ m) (hd : depth + n ≤ deepest) (acc : Entries) {tail : List Char}
    (htail : EndsNumber tail) :
    readMembers (m + 1) depth acc ((quote k).toList ++ (':' :: ' ' :: (text.toList ++ tail))) =
      match skip tail with
      | '\x7d' :: rest => .ok (.map (Entries.put (.text (joined k)) v acc), rest)
      | ',' :: rest => readMembers m depth (Entries.put (.text (joined k)) v acc) (skip rest)
      | rest => .error (.at .comma rest) := by
  obtain ⟨cs, hcs⟩ := head_quote k
  have hread := readString_quote k (':' :: ' ' :: (text.toList ++ tail))
  rw [hcs, List.cons_append] at hread ⊢
  have hblank : skip (' ' :: (text.toList ++ tail)) = text.toList ++ tail := hv.skip_eq tail
  rw [readMembers, hread]
  simp only
  rw [skip_of_head (by simp; decide)]
  simp only
  rewrite [hblank, hv.reads hf hd htail]
  rfl

/-- Fields are read up to the brace. -/
theorem readMembers_intercalate : ∀ {items : List String} {gs : List (String × Value)}, items ≠ [] →
    List.Forall₂ (FieldReadsAs n) items gs → ∀ (fuel : Nat) (t : Assoc String Value),
      ((separator level).intercalate items).toList.length < fuel → depth + n ≤ deepest →
        readMembers fuel depth (t.map fun f => (.text f.1, f.2))
          (((separator level).intercalate items).toList ++ ((pretty.newline level).toList ++ '\x7d' :: rest)) =
            .ok (Entries.ofFields (Assoc.putAll t gs), rest)
  | [s], [g], _, .cons hg .nil, fuel, t, hf, hd => by
    obtain ⟨m, rfl⟩ : ∃ m, fuel = m + 1 := ⟨fuel - 1, by omega⟩
    obtain ⟨k, text, rfl, hk, hv⟩ := hg
    rw [String.intercalate_singleton, toList_field] at hf ⊢
    simp only [List.length_append, List.length_cons] at hf
    simp only [List.append_assoc, List.cons_append]
    rw [readMembers_field hv (by omega) hd _ (endsNumber_newline _ _), skip_newline, Entries.put_fields,
      skip_of_head (by simp; decide), ← hk]
    rfl
  | s :: t' :: items, g :: g' :: gs, _, .cons hg hrest, fuel, t, hf, hd => by
    obtain ⟨m, rfl⟩ : ∃ m, fuel = m + 1 := ⟨fuel - 1, by omega⟩
    obtain ⟨k, text, rfl, hk, hv⟩ := hg
    have hitems := fun hlt => readMembers_intercalate (List.cons_ne_nil t' items) hrest m
      (Assoc.put (joined k) g.2 t) hlt hd
    have hskip : ∀ x, skip (((separator level).intercalate (t' :: items)).toList ++ x) =
        ((separator level).intercalate (t' :: items)).toList ++ x := fun x => by
      obtain ⟨cs, htext⟩ := head_fields level (List.cons_ne_nil t' items) hrest
      rw [htext]
      exact skip_of_head fun d hd => (Option.mem_some_iff.mp hd) ▸ by decide
    rw [String.intercalate_cons_cons, String.toList_append, String.toList_append, toList_separator,
      toList_field] at hf ⊢
    simp only [List.length_append, List.length_cons] at hf
    simp only [List.append_assoc, List.cons_append]
    rw [readMembers_field hv (by omega) hd _ (endsNumber_comma _), skip_of_head (by simp; decide)]
    simp only
    rw [skip_newline, hskip, Entries.put_fields, hitems (by omega), ← hk]
    rfl

/-- **A map of texts of fields** is read as the map of the fields, where of several for one key the last one
stays. -/
theorem readsAs_fields {items : List String} {gs : List (String × Value)}
    (h : List.Forall₂ (FieldReadsAs n) items gs) :
    ReadsAs (n + 1) (pretty.wrap level "\x7b" "\x7d" items) (Entries.ofFields (Assoc.putAll [] gs)) := by
  by_cases hne : items = []
  · subst hne
    cases h
    rw [wrap_nil]
    refine ⟨⟨'\x7b', ['\x7d'], rfl, by decide, by decide⟩, fun {fuel depth rest} hf hd _ => ?_⟩
    obtain ⟨m, rfl⟩ : ∃ m, fuel = m + 1 := ⟨fuel - 1, by simp at hf; omega⟩
    have hdeep : ¬ deepest ≤ depth := by omega
    show readValue (m + 1) depth ('\x7b' :: '\x7d' :: rest) = _
    rw [readValue, if_neg hdeep, skip_of_head (by simp; decide)]
    rfl
  · have htext : (pretty.wrap level "\x7b" "\x7d" items).toList = '\x7b' :: ((pretty.newline (level + 1)).toList ++
        (((separator level).intercalate items).toList ++ ((pretty.newline level).toList ++ ['\x7d']))) :=
      toList_wrap_cons level "\x7b" "\x7d" hne
    refine ⟨⟨'\x7b', _, htext, by decide, by decide⟩, fun {fuel depth rest} hf hd _ => ?_⟩
    rw [htext, List.length_cons, List.length_append, List.length_append] at hf
    obtain ⟨m, rfl⟩ : ∃ m, fuel = m + 1 := ⟨fuel - 1, by omega⟩
    have hdeep : ¬ deepest ≤ depth := by omega
    obtain ⟨tail, hitems⟩ := head_fields level hne h
    have hread : readMembers m (depth + 1) [] (((separator level).intercalate items).toList ++
        ((pretty.newline level).toList ++ '\x7d' :: rest)) = _ :=
      readMembers_intercalate hne h m [] (by rw [toList_newline, List.length_cons] at hf; omega) (by omega)
    have hskip : ∀ x, skip (((separator level).intercalate items).toList ++ x) =
        ((separator level).intercalate items).toList ++ x := fun x => by
      rw [hitems]
      exact skip_of_head fun d hd => (Option.mem_some_iff.mp hd) ▸ by decide
    rw [htext]
    simp only [List.cons_append, List.append_assoc, List.nil_append]
    rw [readValue, if_neg hdeep, skip_newline, hskip]
    rw [hitems, List.cons_append] at hread ⊢
    exact hread

/-! ## 5. Values -/

/-- However deep it stands, a value that is written is read as this one. -/
def Returns (n : Nat) (v w : Value) : Prop :=
  ∀ level text, pretty.writeAt level v = .ok text → ReadsAs n text w

theorem Returns.mono {m n : Nat} {v w : Value} (h : Returns m v w) (hle : m ≤ n) : Returns n v w :=
  fun level text hw => (h level text hw).mono hle

theorem returns_text (s : String) : Returns 0 (.text s) (.text (joined s)) := by
  intro level text hw
  rw [Layout.writeAt] at hw
  exact Except.ok.inj hw ▸ readsAs_quote s

theorem exists_returns_float (x : Binary64) : ∃ y, Returns 0 (.float x) (.float y) := by
  obtain ⟨y, hy⟩ := exists_readsAs_floatText x
  refine ⟨y, fun level text hw => ?_⟩
  rw [Layout.writeAt] at hw
  exact Except.ok.inj hw ▸ hy

theorem readsAs_items {vs ws : List Value} (h : List.Forall₂ (Returns n) vs ws) :
    ∀ {level : Nat} {items : List String}, pretty.writeItems level vs = .ok items →
      List.Forall₂ (ReadsAs n) items ws := by
  induction h with
  | nil =>
    intro level items hw
    rw [Layout.writeItems] at hw
    cases hw
    exact .nil
  | @cons v w vs ws hv _ ih =>
    intro level items hw
    rw [Layout.writeItems] at hw
    obtain ⟨s, hs, hw⟩ := bind_eq_ok_iff.mp hw
    obtain ⟨ss, hss, hw⟩ := bind_eq_ok_iff.mp hw
    cases hw
    exact .cons (hv level s hs) (ih hss)

theorem returns_list {vs ws : List Value} (h : List.Forall₂ (Returns n) vs ws) :
    Returns (n + 1) (.list vs) (.list ws) := by
  intro level text hw
  rw [Layout.writeAt, map_eq_ok_iff] at hw
  obtain ⟨items, hitems, rfl⟩ := hw
  exact readsAs_list (readsAs_items h hitems)

/-- Fields whose values return. -/
theorem fieldReadsAs_entries {fields gs : List (String × Value)}
    (h : List.Forall₂ (fun f g => g.1 = joined f.1 ∧ Returns n f.2 g.2) fields gs) :
    ∀ {level : Nat} {items : List String},
      (pretty.writeEntries level (fields.map fun f => (.text f.1, f.2))).mapM Prod.snd = .ok items →
        List.Forall₂ (FieldReadsAs n) items gs := by
  induction h with
  | nil =>
    intro level items hw
    rw [List.map_nil, Layout.writeEntries] at hw
    cases hw
    exact .nil
  | @cons f g fields gs hfg _ ih =>
    intro level items hw
    rw [List.map_cons, Layout.writeEntries, List.mapM_cons] at hw
    obtain ⟨text, htext, hw⟩ := bind_eq_ok_iff.mp hw
    obtain ⟨s, hs, rfl⟩ := map_eq_ok_iff.mp htext
    obtain ⟨ss, hss, hw⟩ := bind_eq_ok_iff.mp hw
    cases hw
    exact .cons ⟨f.1, s, rfl, hfg.1, hfg.2 level s hs⟩ (ih hss)

theorem returns_fields {fields gs : List (String × Value)}
    (h : List.Forall₂ (fun f g => g.1 = joined f.1 ∧ Returns n f.2 g.2) fields gs) :
    Returns (n + 1) (Entries.ofFields fields) (Entries.ofFields (Assoc.putAll [] gs)) := by
  intro level text hw
  rw [Entries.ofFields, Layout.writeAt, map_eq_ok_iff] at hw
  obtain ⟨items, hitems, rfl⟩ := hw
  exact readsAs_fields (fieldReadsAs_entries h hitems)

/-- **A written value that returns is read.** -/
theorem read_of_returns {v w : Value} (h : Returns n v w) (hn : inUse + n ≤ deepest) {text : String}
    (hw : writePretty v = .ok text) : read text = .ok w := by
  have hreads := h 0 text hw
  obtain ⟨c, cs, htext, hblank, -⟩ := hreads.head
  have hread : readValue (2 * text.toList.length + 2) inUse (text.toList ++ []) = _ :=
    hreads.reads (by omega) hn endsNumber_nil
  have hsafe : SafeText text := safeText_writeAt rfl v 0 text hw
  have hmark : c ≠ '\uFEFF' := by
    rintro rfl
    exact absurd (hsafe '\uFEFF' (by simp [htext])).1 (by decide)
  have hskip : skip text.toList = text.toList := by
    rw [htext]
    exact skip_of_head fun d hd => (Option.mem_some_iff.mp hd) ▸ hblank
  have hchars : readChars inUse text.toList = .ok w := by
    unfold readChars
    split
    · rename_i heq
      exact absurd (List.cons.inj (htext.symm.trans heq)).1 hmark
    · rw [List.append_nil] at hread
      rw [hskip, hread]
      rfl
  rw [read, readInside, hchars]
  rfl

theorem returns_text_of_whole {s : String} (h : Whole s) : Returns 0 (.text s) (.text s) := by
  have hreturns := returns_text s
  rwa [joined_of_whole h] at hreturns

/-- A double that reads back at all returns wherever it stands. -/
theorem returns_float_of_rereads {x : Binary64} (h : Rereads (.float x)) : Returns 0 (.float x) (.float x) := by
  obtain ⟨y, hy⟩ := exists_returns_float x
  have hw : writePretty (.float x) = .ok (floatText x) := by rw [writePretty, Layout.writeAt]
  have hsame := (read_of_returns hy (by decide) hw).symm.trans (h _ hw)
  rwa [Value.float.inj (Except.ok.inj hsame)] at hy

/-- Fields under distinct keys that read back return as they are. -/
theorem returns_fields_of_whole {fields : List (String × Value)} (hnd : (Assoc.keys fields).Nodup)
    (h : ∀ f ∈ fields, Whole f.1 ∧ Returns n f.2 f.2) :
    Returns (n + 1) (Entries.ofFields fields) (Entries.ofFields fields) := by
  have hfields : List.Forall₂ (fun f g => g.1 = joined f.1 ∧ Returns n f.2 g.2) fields fields :=
    List.forall₂_same.mpr fun f hf => ⟨(joined_of_whole (h f hf).1).symm, (h f hf).2⟩
  have hreturns := returns_fields hfields
  rwa [Assoc.putAll_of_nodup (by rwa [List.nil_append]), List.nil_append] at hreturns

theorem rereads_of_returns {v : Value} (h : Returns n v v) (hn : inUse + n ≤ deepest) : Rereads v :=
  fun _ hw => read_of_returns h hn hw

/-! ## 6. Room for calls -/

mutual
/-- **What is read deep inside of something else** is read with fewer calls around it, too. -/
theorem readValue_of_le {depth depth' : Nat} (hle : depth' ≤ depth) :
    ∀ {fuel : Nat} {cs : List Char} {r : Value × List Char}, readValue fuel depth cs = .ok r →
      readValue fuel depth' cs = .ok r
  | 0, cs, r, h => by
    rw [readValue] at h
    cases h
  | fuel + 1, cs, r, h => by
    rw [readValue.eq_def] at h ⊢
    simp only at h ⊢
    split at h
    · exact h
    · split at h
      · cases h
      · rename_i hroom
        rw [if_neg (by omega)]
        split at h
        · exact h
        · exact readItems_of_le (by omega) h
    · split at h
      · cases h
      · rename_i hroom
        rw [if_neg (by omega)]
        split at h
        · exact h
        · exact readMembers_of_le (by omega) h
    · exact h

theorem readItems_of_le {depth depth' : Nat} (hle : depth' ≤ depth) :
    ∀ {fuel : Nat} {acc : List Value} {cs : List Char} {r : Value × List Char}, readItems fuel depth acc cs = .ok r →
      readItems fuel depth' acc cs = .ok r
  | 0, acc, cs, r, h => by
    rw [readItems] at h
    cases h
  | fuel + 1, acc, cs, r, h => by
    rw [readItems] at h ⊢
    cases hv : readValue fuel depth cs with
    | error e =>
      rw [hv] at h
      cases h
    | ok p =>
      rw [hv] at h
      rw [readValue_of_le hle hv]
      simp only at h ⊢
      split at h
      · exact h
      · exact readItems_of_le hle h
      · cases h

theorem readMembers_of_le {depth depth' : Nat} (hle : depth' ≤ depth) :
    ∀ {fuel : Nat} {acc : Entries} {cs : List Char} {r : Value × List Char}, readMembers fuel depth acc cs = .ok r →
      readMembers fuel depth' acc cs = .ok r
  | 0, acc, cs, r, h => by
    rw [readMembers] at h
    cases h
  | fuel + 1, acc, cs, r, h => by
    rw [readMembers.eq_def] at h ⊢
    simp only at h ⊢
    split at h
    · split at h
      · cases h
      · split at h
        · rename_i rest' _
          cases hv : readValue fuel depth (skip rest') with
          | error e =>
            rw [hv] at h
            cases h
          | ok p =>
            rw [hv] at h
            rw [readValue_of_le hle hv]
            simp only at h ⊢
            split at h
            · exact h
            · exact readMembers_of_le hle h
            · cases h
        · cases h
    · cases h
end

/-- **A text that is read** is read wherever there is more room for calls. -/
theorem readInside_of_le {around around' : Nat} (hle : around' ≤ around) {s : String} {v : Value}
    (h : readInside around s = .ok v) : readInside around' s = .ok v := by
  have hchars : readChars around s.toList = .ok v := mapError_eq_ok_iff.mp h
  refine mapError_eq_ok_iff.mpr ?_
  unfold readChars at hchars ⊢
  split at hchars
  · cases hchars
  · rename_i cs hmark
    cases hv : readValue (2 * s.toList.length + 2) around (skip s.toList) with
    | error e =>
      rw [hv] at hchars
      cases hchars
    | ok p =>
      rw [hv] at hchars
      rw [readValue_of_le hle hv]
      exact hchars

end Json

end AgentLint
