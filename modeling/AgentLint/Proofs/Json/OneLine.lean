import AgentLint.Proofs.Json.Reading
import AgentLint.Proofs.Order
import AgentLint.Proofs.Value

/-!
# What a value on one line tells

Written on one line, a value tells where it ends: `behind` goes through a text and counts the brackets that are open,
and before what may follow an item it stops (`IsItem.cancel`).  So the items of a list, or the fields of a map, are told
apart by the text of all of them (`intercalate_cancel`).

A plain document then tells all that it holds.  Two plain documents with one text are the same, but for the order in
which their maps were written (`same_of_writeAt`).  The keys are sorted by a comparison that need not be an order for
all keys; here it is enough that sorting rearranges them.
-/

namespace AgentLint.Json

open Decimal Text

/-! ## 1. The layout -/

/-- All on one line, with sorted keys. -/
def line : Layout := ⟨none, true⟩

theorem toList_wrap_line (level : Nat) (left right : String) (items : List String) :
    (line.wrap level left right items).toList =
      left.toList ++ [',', ' '].intercalate (items.map String.toList) ++ right.toList := by
  cases items with
  | nil => simp [Layout.wrap]
  | cons s items =>
    have hsep : ", ".toList = [',', ' '] := rfl
    simp [Layout.wrap, Layout.newline, line, String.toList_intercalate, hsep]

mutual
/-- **On one line the level of nesting does not show.** -/
theorem writeAt_level : ∀ (v : Value) (level level' : Nat),
    line.writeAt level v = line.writeAt level' v
  | .list vs, level, level' => by
    simp only [Layout.writeAt, writeItems_level vs (level + 1) (level' + 1)]
    rfl
  | .pair k v, level, level' => by
    simp only [Layout.writeAt, writeAt_level k (level + 1) (level' + 1),
      writeAt_level v (level + 1) (level' + 1)]
    rfl
  | .map es, level, level' => by
    simp only [Layout.writeAt, writeEntries_level es (level + 1) (level' + 1)]
    rfl
  | .null, _, _ | .bool _, _, _ | .int _, _, _ | .float _, _, _ | .text _, _, _ | .bytes _, _, _
  | .day _, _, _ | .moment _, _, _ | .set _, _, _ | .loop _, _, _ => by
    simp only [Layout.writeAt]

theorem writeItems_level : ∀ (vs : List Value) (level level' : Nat),
    line.writeItems level vs = line.writeItems level' vs
  | [], _, _ => by simp only [Layout.writeItems]
  | v :: vs, level, level' => by
    simp only [Layout.writeItems, writeAt_level v level level', writeItems_level vs level level']

theorem writeEntries_level : ∀ (es : List (Value × Value)) (level level' : Nat),
    line.writeEntries level es = line.writeEntries level' es
  | [], _, _ => by simp only [Layout.writeEntries]
  | (k, v) :: es, level, level' => by
    simp only [Layout.writeEntries, writeAt_level v level level',
      writeEntries_level es level level']
end

/-- What writing an entry comes to. -/
def entryText (level : Nat) (e : Value × Value) : Except Unwritable String :=
  (keyText line.keyName e.1).bind fun kt => (line.writeAt level e.2).map fun vt => kt ++ ": " ++ vt

theorem writeEntries_eq_map (level : Nat) (es : Entries) :
    line.writeEntries level es = es.map fun e => (e.1, entryText level e) := by
  induction es with
  | nil => rw [Layout.writeEntries, List.map_nil]
  | cons e es ih =>
    obtain ⟨k, v⟩ := e
    rw [Layout.writeEntries, ih]
    rfl

theorem writeItems_eq_mapM (level : Nat) (vs : List Value) : line.writeItems level vs = vs.mapM (line.writeAt level) := by
  induction vs with
  | nil =>
    rw [Layout.writeItems]
    rfl
  | cons v vs ih =>
    rw [Layout.writeItems, ih, List.mapM_cons]

/-- **The fields of a map** are as many as its entries, and those are they. -/
theorem arrange_eq_ok {level : Nat} {es : Entries} {ss : List String}
    (h : line.arrange (line.writeEntries level es) = .ok ss) :
    ss.length = es.length ∧ (∀ e ∈ es, ∃ s ∈ ss, entryText level e = .ok s) ∧
      ∀ s ∈ ss, ∃ e ∈ es, entryText level e = .ok s := by
  unfold Layout.arrange at h
  obtain ⟨sorted, hsorted, htexts⟩ := bind_eq_ok_iff.mp h
  have hperm : sorted.Perm (es.map fun e => (e.1, entryText level e)) := by
    rw [← writeEntries_eq_map]
    exact Order.sortM_perm hsorted
  have hall := forall₂_of_mapM htexts
  refine ⟨?_, ?_, ?_⟩
  · rw [← hall.length_eq, hperm.length_eq, List.length_map]
  · intro e he
    have hmem : (e.1, entryText level e) ∈ sorted := hperm.mem_iff.mpr (List.mem_map.mpr ⟨e, he, rfl⟩)
    obtain ⟨s, hs, hes⟩ := exists_of_mem_forall₂ hall.flip hmem
    exact ⟨s, hs, hes⟩
  · intro s hs
    obtain ⟨x, hx, hxs⟩ := exists_of_mem_forall₂ hall hs
    obtain ⟨e, he, rfl⟩ := List.mem_map.mp (hperm.mem_iff.mp hx)
    exact ⟨e, he, hxs⟩

/-! ## 2. Where an item ends -/

/-- Where in a text one is. -/
inductive Mode where
  /-- Outside of strings. -/
  | bare
  /-- In a string. -/
  | quoted
  /-- In a string behind a backslash. -/
  | escaped

/-- What follows an item, where `depth` counts the brackets that are open. -/
def behind : Mode → (depth : Nat) → List Char → List Char
  | _, _, [] => []
  | .escaped, depth, _ :: cs => behind .quoted depth cs
  | .quoted, depth, c :: cs =>
    if c = '\\' then behind .escaped depth cs
    else if c = '"' then behind .bare depth cs
    else behind .quoted depth cs
  | .bare, depth, c :: cs =>
    if c = '"' then behind .quoted depth cs
    else if c = '[' ∨ c = '\x7b' then behind .bare (depth + 1) cs
    else if depth = 0 ∧ (c = ',' ∨ c = ']' ∨ c = '\x7d') then c :: cs
    else if c = ']' ∨ c = '\x7d' then behind .bare (depth - 1) cs
    else behind .bare depth cs

/-- A text that leaves no bracket or string open. -/
def Passes (cs : List Char) : Prop :=
  ∀ depth rest, behind .bare depth (cs ++ rest) = behind .bare depth rest

/-- The same within brackets. -/
def PassesInside (cs : List Char) : Prop :=
  ∀ depth rest, behind .bare (depth + 1) (cs ++ rest) = behind .bare (depth + 1) rest

theorem Passes.inside {cs : List Char} (h : Passes cs) : PassesInside cs := fun depth rest => h (depth + 1) rest

theorem Passes.append {cs ds : List Char} (hc : Passes cs) (hd : Passes ds) : Passes (cs ++ ds) := by
  intro depth rest
  rw [List.append_assoc, hc, hd]

theorem PassesInside.append {cs ds : List Char} (hc : PassesInside cs) (hd : PassesInside ds) :
    PassesInside (cs ++ ds) := by
  intro depth rest
  rw [List.append_assoc, hc, hd]

/-- A character without a meaning for where an item ends. -/
def IsBare (c : Char) : Prop := c ∉ ['"', '[', '\x7b', ',', ']', '\x7d']

instance (c : Char) : Decidable (IsBare c) := inferInstanceAs (Decidable (¬ _))

theorem passes_of_isBare {cs : List Char} (h : ∀ c ∈ cs, IsBare c) : Passes cs := by
  intro depth rest
  induction cs with
  | nil => rfl
  | cons c cs ih =>
    rw [List.forall_mem_cons] at h
    have hc := h.1
    simp only [IsBare, List.mem_cons, List.not_mem_nil, or_false, not_or] at hc
    rw [List.cons_append, behind, ih h.2]
    simp [hc]

theorem IsNumeral.isBare {c : Char} (h : IsNumeral c) : IsBare c := by
  have hall : ∀ d ∈ ['"', '[', '\x7b', ',', ']', '\x7d'], ¬ IsNumeral d := by simp [IsNumeral, Char.isDigit]
  intro hc
  exact hall c hc h

theorem passes_numeral {s : String} (h : Numeral s) : Passes s.toList :=
  passes_of_isBare fun c hc => (h c hc).isBare

theorem behind_quoted {c : Char} (hback : c ≠ '\\') (hquote : c ≠ '"') (depth : Nat) (rest : List Char) :
    behind .quoted depth (c :: rest) = behind .quoted depth rest := by
  simp [behind, hback, hquote]

theorem behind_hex (depth : Nat) (rest : List Char) {cs : List Char} (h : ∀ c ∈ cs, Text.IsHexDigit c) :
    behind .quoted depth (cs ++ rest) = behind .quoted depth rest := by
  induction cs with
  | nil => rfl
  | cons c cs ih =>
    rw [List.forall_mem_cons] at h
    have hdigit := h.1
    unfold Text.IsHexDigit at hdigit
    have hback : c ≠ '\\' := by
      rintro rfl
      exact absurd hdigit (by decide)
    have hquote : c ≠ '"' := by
      rintro rfl
      exact absurd hdigit (by decide)
    rw [List.cons_append, behind_quoted hback hquote, ih h.2]

theorem behind_unitEscape (depth u : Nat) (rest : List Char) :
    behind .quoted depth (unitEscape u ++ rest) = behind .quoted depth rest := by
  rw [unitEscape, List.cons_append, List.cons_append, behind, if_pos rfl, behind]
  exact behind_hex depth rest fun c hc => Text.isHexDigit_of_mem_hex hc

/-- An escaped character leaves the string open. -/
theorem behind_escapeChar (depth : Nat) (c : Char) (rest : List Char) :
    behind .quoted depth (escapeChar c ++ rest) = behind .quoted depth rest := by
  rcases escapeChar_cases c with ⟨e, he, -⟩ | ⟨he, -, -, hquote, hback⟩ | ⟨-, he⟩ | ⟨-, he⟩
  · rw [he, List.cons_append, behind, if_pos rfl, List.cons_append, behind, List.nil_append]
  · rw [he, List.singleton_append, behind_quoted hback hquote]
  · rw [he, behind_unitEscape]
  · rw [he, List.append_assoc, behind_unitEscape, behind_unitEscape]

theorem passes_quote (s : String) : Passes (quote s).toList := by
  intro depth rest
  have hquote : (quote s).toList ++ rest = '"' :: (s.toList.flatMap escapeChar ++ '"' :: rest) := by
    simp [quote]
  have hbody : ∀ cs : List Char, behind .quoted depth (cs.flatMap escapeChar ++ '"' :: rest) = behind .bare depth rest := by
    intro cs
    induction cs with
    | nil => simp [behind]
    | cons c cs ih => rw [List.flatMap_cons, List.append_assoc, behind_escapeChar, ih]
  rw [hquote, behind, if_pos rfl, hbody]

/-! ## 3. Items -/

/-- A text of a value or a field. -/
structure IsItem (cs : List Char) : Prop where
  passes : Passes cs
  ne_nil : cs ≠ []

/-- What may follow an item: a comma, a bracket or nothing. -/
def EndsItem (rest : List Char) : Prop := ∀ c ∈ rest.head?, c = ',' ∨ c = ']' ∨ c = '\x7d'

theorem behind_of_endsItem {rest : List Char} (h : EndsItem rest) : behind .bare 0 rest = rest := by
  cases rest with
  | nil => rfl
  | cons c rest =>
    rcases h c rfl with rfl | rfl | rfl <;> simp [behind]

/-- **An item tells what it is and where it ends.** -/
theorem Passes.cancel {a b x y : List Char} (ha : Passes a) (hb : Passes b) (hx : EndsItem x) (hy : EndsItem y)
    (h : a ++ x = b ++ y) : a = b ∧ x = y := by
  have hrest : x = y := by
    calc
      x = behind .bare 0 x := (behind_of_endsItem hx).symm
      _ = behind .bare 0 (a ++ x) := (ha 0 x).symm
      _ = behind .bare 0 (b ++ y) := by rw [h]
      _ = behind .bare 0 y := hb 0 y
      _ = y := behind_of_endsItem hy
  subst hrest
  exact ⟨List.append_cancel_right h, rfl⟩

theorem endsItem_comma (rest : List Char) : EndsItem (',' :: rest) := by
  intro c hc
  exact .inl (Option.mem_some_iff.mp hc).symm

theorem passesInside_separator : PassesInside [',', ' '] := by
  intro depth rest
  simp [behind]

theorem passesInside_intercalate {items : List (List Char)} (h : ∀ cs ∈ items, Passes cs) :
    PassesInside ([',', ' '].intercalate items) := by
  induction items with
  | nil =>
    intro depth rest
    rfl
  | cons cs items ih =>
    rw [List.forall_mem_cons] at h
    cases items with
    | nil =>
      rw [List.intercalate_singleton]
      exact h.1.inside
    | cons ds items =>
      rw [List.intercalate_cons_cons]
      exact (h.1.inside.append passesInside_separator).append (ih h.2)

/-- What stands behind the first of several items. -/
theorem exists_tail {close : Char} (hclose : close = ']' ∨ close = '\x7d') (cs : List Char) (items : List (List Char))
    (x : List Char) : ∃ tail, [',', ' '].intercalate (cs :: items) ++ close :: x = cs ++ tail ∧ EndsItem tail ∧
      (items = [] ∧ tail = close :: x ∨
        items ≠ [] ∧ tail = ',' :: ' ' :: ([',', ' '].intercalate items ++ close :: x)) := by
  cases items with
  | nil =>
    refine ⟨close :: x, by rw [List.intercalate_singleton], ?_, .inl ⟨rfl, rfl⟩⟩
    intro c hc
    rw [← Option.mem_some_iff.mp hc]
    exact .inr hclose
  | cons ds items =>
    refine ⟨_, ?_, endsItem_comma _, .inr ⟨List.cons_ne_nil _ _, rfl⟩⟩
    rw [List.intercalate_cons_cons, List.append_assoc, List.append_assoc]
    rfl

/-- A list without items is told from one with them, as no item is empty. -/
theorem nil_ne_item {close : Char} (hclose : close = ']' ∨ close = '\x7d') {cs tail x : List Char} (hcs : IsItem cs)
    (htail : EndsItem tail) : close :: x ≠ cs ++ tail := by
  intro h
  have hnil : Passes [] := fun _ _ => rfl
  have hends : EndsItem (close :: x) := by
    intro c hc
    rw [← Option.mem_some_iff.mp hc]
    exact .inr hclose
  exact hcs.ne_nil (hnil.cancel hcs.passes hends htail h).1.symm

/-- **Items are told apart** by the text of all of them, up to the bracket that ends them. -/
theorem intercalate_cancel {close : Char} (hclose : close = ']' ∨ close = '\x7d') {items others : List (List Char)}
    (hi : ∀ cs ∈ items, IsItem cs) (ho : ∀ cs ∈ others, IsItem cs) {x y : List Char}
    (h : [',', ' '].intercalate items ++ close :: x = [',', ' '].intercalate others ++ close :: y) :
    items = others ∧ x = y := by
  have hcomma : close ≠ ',' := by
    rcases hclose with rfl | rfl <;> decide
  induction items generalizing others with
  | nil =>
    cases others with
    | nil => exact ⟨rfl, (List.cons.inj h).2⟩
    | cons ds others =>
      obtain ⟨tail, heq, hends, -⟩ := exists_tail hclose ds others y
      exact absurd (h.trans heq) (nil_ne_item hclose (ho ds List.mem_cons_self) hends)
  | cons cs items ih =>
    rw [List.forall_mem_cons] at hi
    obtain ⟨tail, heq, hends, htail⟩ := exists_tail hclose cs items x
    cases others with
    | nil => exact absurd (h.symm.trans heq) (nil_ne_item hclose hi.1 hends)
    | cons ds others =>
      rw [List.forall_mem_cons] at ho
      obtain ⟨tail', heq', hends', htail'⟩ := exists_tail hclose ds others y
      obtain ⟨rfl, rfl⟩ := hi.1.passes.cancel ho.1.passes hends hends' (heq.symm.trans (h.trans heq'))
      -- Either both end here, or a comma follows in both.
      rcases htail with ⟨rfl, htail⟩ | ⟨-, htail⟩ <;> rcases htail' with ⟨rfl, htail'⟩ | ⟨-, htail'⟩
      · exact ⟨rfl, (List.cons.inj (htail.symm.trans htail')).2⟩
      · exact absurd (List.cons.inj (htail.symm.trans htail')).1 hcomma
      · exact absurd (List.cons.inj (htail.symm.trans htail')).1.symm hcomma
      · obtain ⟨hrest, hxy⟩ := ih hi.2 ho.2 (List.cons.inj (List.cons.inj (htail.symm.trans htail')).2).2
        rw [hrest]
        exact ⟨rfl, hxy⟩

theorem passes_wrap {openly close : Char} (hopen : openly = '[' ∨ openly = '\x7b') (hclose : close = ']' ∨ close = '\x7d')
    {inner : List Char} (h : PassesInside inner) : Passes (openly :: (inner ++ [close])) := by
  intro depth rest
  have hfirst : behind .bare depth (openly :: (inner ++ (close :: rest))) =
      behind .bare (depth + 1) (inner ++ (close :: rest)) := by
    rcases hopen with rfl | rfl <;> simp [behind]
  have hlast : behind .bare (depth + 1) (close :: rest) = behind .bare depth rest := by
    rcases hclose with rfl | rfl <;> simp [behind]
  rw [List.cons_append, List.append_assoc, List.singleton_append, hfirst, h, hlast]

theorem isItem_wrap {openly close : Char} (hopen : openly = '[' ∨ openly = '\x7b')
    (hclose : close = ']' ∨ close = '\x7d') {items : List String} (h : ∀ s ∈ items, IsItem s.toList) :
    IsItem (openly :: ([',', ' '].intercalate (items.map String.toList) ++ [close])) := by
  refine ⟨passes_wrap hopen hclose (passesInside_intercalate ?_), List.cons_ne_nil _ _⟩
  intro cs hcs
  obtain ⟨s, hs, rfl⟩ := List.mem_map.mp hcs
  exact (h s hs).passes

/-! ## 4. Values are items -/

theorem toList_list (level : Nat) (items : List String) : (line.wrap level "[" "]" items).toList =
    '[' :: ([',', ' '].intercalate (items.map String.toList) ++ [']']) := by
  rw [toList_wrap_line]
  rfl

theorem toList_map (level : Nat) (items : List String) : (line.wrap level "\x7b" "\x7d" items).toList =
    '\x7b' :: ([',', ' '].intercalate (items.map String.toList) ++ ['\x7d']) := by
  rw [toList_wrap_line]
  rfl

theorem isItem_list (level : Nat) {items : List String} (h : ∀ s ∈ items, IsItem s.toList) :
    IsItem (line.wrap level "[" "]" items).toList := by
  rw [toList_list]
  exact isItem_wrap (.inl rfl) (.inl rfl) h

theorem isItem_map (level : Nat) {items : List String} (h : ∀ s ∈ items, IsItem s.toList) :
    IsItem (line.wrap level "\x7b" "\x7d" items).toList := by
  rw [toList_map]
  exact isItem_wrap (.inr rfl) (.inr rfl) h

theorem isItem_quote (s : String) : IsItem (quote s).toList := ⟨passes_quote s, by simp [quote]⟩

theorem isItem_integerText {n : Int} {s : String} (h : integerText n = .ok s) : IsItem s.toList := by
  obtain ⟨c, cs, htext, -⟩ := (readsAs_integerText h).head
  exact ⟨passes_numeral (numeral_integerText h), by rw [htext]; exact List.cons_ne_nil c cs⟩

theorem isItem_floatText (x : Binary64) : IsItem (floatText x).toList := by
  obtain ⟨y, hy⟩ := exists_readsAs_floatText x
  obtain ⟨c, cs, htext, -⟩ := hy.head
  exact ⟨passes_numeral (numeral_floatText x), by rw [htext]; exact List.cons_ne_nil c cs⟩

theorem isItem_word {s : String} (h : s ∈ ["null", "true", "false"]) : IsItem s.toList := by
  have hall : ∀ t ∈ ["null", "true", "false"], (∀ c ∈ t.toList, IsBare c) ∧ t.toList ≠ [] := by simp [IsBare]
  exact ⟨passes_of_isBare (hall s h).1, (hall s h).2⟩

/-- The text of an entry is that of its key, a colon and that of its value. -/
theorem entryText_eq_ok_iff {level : Nat} {e : Value × Value} {s : String} : entryText level e = .ok s ↔
    ∃ kt vt, keyText line.keyName e.1 = .ok kt ∧ line.writeAt level e.2 = .ok vt ∧ s = kt ++ ": " ++ vt := by
  unfold entryText
  cases keyText line.keyName e.1 with
  | error f => simp [Except.bind]
  | ok kt => cases line.writeAt level e.2 <;> simp [Except.bind, Except.map, eq_comm]

theorem isItem_field {k vt : String} (h : IsItem vt.toList) : IsItem (quote k ++ ": " ++ vt).toList := by
  have hcolon : Passes ": ".toList := passes_of_isBare (by simp [IsBare])
  have hchars : (quote k ++ ": " ++ vt).toList = (quote k).toList ++ ": ".toList ++ vt.toList := by
    rw [String.toList_append, String.toList_append]
  rw [hchars]
  refine ⟨((passes_quote k).append hcolon).append h.passes, ?_⟩
  simp [quote]

mutual
/-- **Every written value is an item**, by recursion over the value. -/
theorem isItem_writeAt : ∀ (v : Value) (level : Nat) (s : String), line.writeAt level v = .ok s → IsItem s.toList
  | .null => by
    intro level s h
    rw [Layout.writeAt] at h
    cases h
    exact isItem_word (by decide)
  | .bool b => by
    intro level s h
    rw [Layout.writeAt] at h
    cases h
    exact isItem_word (by cases b <;> decide)
  | .int n => by
    intro level s h
    rw [Layout.writeAt] at h
    exact isItem_integerText h
  | .float x => by
    intro level s h
    rw [Layout.writeAt] at h
    cases h
    exact isItem_floatText x
  | .text t => by
    intro level s h
    rw [Layout.writeAt] at h
    cases h
    exact isItem_quote t
  | .list vs => by
    intro level s h
    rw [Layout.writeAt, map_eq_ok_iff] at h
    obtain ⟨ss, hss, rfl⟩ := h
    exact isItem_list level (isItem_writeItems vs _ _ hss)
  | .pair k v => by
    intro level s h
    rw [Layout.writeAt] at h
    obtain ⟨kt, hk, h⟩ := bind_eq_ok_iff.mp h
    obtain ⟨vt, hv, h⟩ := bind_eq_ok_iff.mp h
    cases h
    refine isItem_list level ?_
    intro t ht
    rcases List.mem_pair.mp ht with rfl | rfl
    · exact isItem_writeAt k _ _ hk
    · exact isItem_writeAt v _ _ hv
  | .map es => by
    intro level s h
    rw [Layout.writeAt, map_eq_ok_iff] at h
    obtain ⟨ss, hss, rfl⟩ := h
    refine isItem_map level ?_
    intro t ht
    obtain ⟨e, he, het⟩ := (arrange_eq_ok hss).2.2 t ht
    exact isItem_writeEntries es _ e he t het
  | .bytes _ | .day _ | .moment _ | .set _ | .loop _ => by
    intro level s h
    simp [Layout.writeAt] at h

theorem isItem_writeItems : ∀ (vs : List Value) (level : Nat) (ss : List String),
    line.writeItems level vs = .ok ss → ∀ s ∈ ss, IsItem s.toList
  | [] => by
    intro level ss h
    rw [Layout.writeItems] at h
    cases h
    simp
  | v :: vs => by
    intro level ss h
    rw [Layout.writeItems] at h
    obtain ⟨s, hs, h⟩ := bind_eq_ok_iff.mp h
    obtain ⟨ss, hss, h⟩ := bind_eq_ok_iff.mp h
    cases h
    rw [List.forall_mem_cons]
    exact ⟨isItem_writeAt v _ _ hs, isItem_writeItems vs _ _ hss⟩

theorem isItem_writeEntries : ∀ (es : List (Value × Value)) (level : Nat), ∀ e ∈ es, ∀ s,
    entryText level e = .ok s → IsItem s.toList
  | [] => by
    intro level e he
    cases he
  | (k, v) :: es => by
    intro level e he s h
    rcases List.mem_cons.mp he with rfl | he
    · obtain ⟨kt, vt, hk, hv, rfl⟩ := entryText_eq_ok_iff.mp h
      obtain ⟨t, rfl⟩ := exists_quote_of_keyText hk
      exact isItem_field (isItem_writeAt v _ _ hv)
    · exact isItem_writeEntries es _ e he s h
end

/-! ## 5. Plain documents -/

/-- The text of a plain scalar is read as this scalar. -/
theorem readsAs_scalar {v : Value} (hv : v.isPlain = true) (hscalar : v.isScalar = true) {level : Nat} {s : String}
    (h : line.writeAt level v = .ok s) : ReadsAs 0 s v := by
  cases v with
  | null =>
    rw [Layout.writeAt] at h
    cases h
    exact readsAs_word.1
  | bool b =>
    rw [Layout.writeAt] at h
    cases h
    cases b
    · exact readsAs_word.2.2
    · exact readsAs_word.2.1
  | int n =>
    rw [Layout.writeAt] at h
    exact readsAs_integerText h
  | float x =>
    rw [Layout.writeAt] at h
    rw [Value.isPlain, Bool.and_eq_true] at hv
    have hreturns := returns_float_of_rereads (rereads_of_checksOut hv.2)
    exact hreturns level s (by rw [Layout.writeAt, h])
  | text t =>
    rw [Layout.writeAt] at h
    rw [Value.isPlain, decide_eq_true_eq] at hv
    cases h
    have hreads := readsAs_quote t
    rwa [joined_of_whole hv] at hreads
  | _ => simp [Value.isScalar, Value.isPlain] at hscalar hv

/-- A text is read as one value only. -/
theorem ReadsAs.unique {v w : Value} {s : String} (hv : ReadsAs 0 s v) (hw : ReadsAs 0 s w) : v = w := by
  have hread := hv.reads (Nat.le_refl s.toList.length) (Nat.zero_le deepest) endsNumber_nil
  rw [hw.reads (Nat.le_refl s.toList.length) (Nat.zero_le deepest) endsNumber_nil] at hread
  exact (Prod.mk.inj (Except.ok.inj hread)).1.symm

/-- What is read however deep it stands opens no bracket. -/
theorem ReadsAs.ne_bracket {v : Value} {s : String} (h : ReadsAs 0 s v) {c : Char} (hc : c = '[' ∨ c = '\x7b')
    (cs : List Char) : s.toList ≠ c :: cs := by
  intro hs
  have hread : readValue s.toList.length deepest (s.toList ++ []) = .ok (v, []) :=
    h.reads (Nat.le_refl _) (Nat.le_refl _) endsNumber_nil
  rw [List.append_nil, hs, List.length_cons] at hread
  rcases hc with rfl | rfl
  · rw [readValue, if_pos (Nat.le_refl deepest)] at hread
    cases hread
  · rw [readValue, if_pos (Nat.le_refl deepest)] at hread
    cases hread

/-- A plain value that is no scalar opens a bracket. -/
theorem exists_bracket {v : Value} (hv : v.isPlain = true) (hscalar : v.isScalar = false) {level : Nat} {s : String}
    (h : line.writeAt level v = .ok s) : ∃ c cs, (c = '[' ∨ c = '\x7b') ∧ s.toList = c :: cs := by
  cases v with
  | list vs =>
    rw [Layout.writeAt, map_eq_ok_iff] at h
    obtain ⟨ss, -, rfl⟩ := h
    exact ⟨'[', _, .inl rfl, toList_list level ss⟩
  | map es =>
    rw [Layout.writeAt, map_eq_ok_iff] at h
    obtain ⟨ss, -, rfl⟩ := h
    exact ⟨'\x7b', _, .inr rfl, toList_map level ss⟩
  | _ => simp [Value.isScalar, Value.isPlain] at hscalar hv

theorem same_self_of_scalar {v : Value} (hv : v.isPlain = true) (hscalar : v.isScalar = true) :
    Value.same v v = true := by
  cases v <;> simp [Value.isScalar, Value.isPlain, Value.same] at hscalar hv ⊢

/-- A plain scalar is told from all other plain values. -/
theorem same_of_scalar {v w : Value} (hv : v.isPlain = true) (hw : w.isPlain = true)
    (hscalar : v.isScalar = true ∨ w.isScalar = true) {level level' : Nat} {s : String}
    (h : line.writeAt level v = .ok s) (h' : line.writeAt level' w = .ok s) : Value.same v w = true := by
  cases hvs : v.isScalar with
  | false =>
    rw [hvs] at hscalar
    have hreads := readsAs_scalar hw (hscalar.resolve_left Bool.false_ne_true) h'
    obtain ⟨c, cs, hc, hs⟩ := exists_bracket hv hvs h
    exact absurd hs (hreads.ne_bracket hc cs)
  | true =>
    have hreads := readsAs_scalar hv hvs h
    cases hws : w.isScalar with
    | false =>
      obtain ⟨c, cs, hc, hs⟩ := exists_bracket hw hws h'
      exact absurd hs (hreads.ne_bracket hc cs)
    | true =>
      obtain rfl := hreads.unique (readsAs_scalar hw hws h')
      exact same_self_of_scalar hv hvs

/-- Lists with one text have items with one text each. -/
theorem items_eq_of_wrap {openly close : Char} (hclose : close = ']' ∨ close = '\x7d')
    {ss ts : List String} (hs : ∀ s ∈ ss, IsItem s.toList) (ht : ∀ t ∈ ts, IsItem t.toList)
    (h : openly :: ([',', ' '].intercalate (ss.map String.toList) ++ [close]) =
      openly :: ([',', ' '].intercalate (ts.map String.toList) ++ [close])) : ss = ts := by
  have hitem : ∀ {us : List String}, (∀ u ∈ us, IsItem u.toList) → ∀ cs ∈ us.map String.toList, IsItem cs := by
    intro us hus cs hcs
    obtain ⟨u, hu, rfl⟩ := List.mem_map.mp hcs
    exact hus u hu
  obtain ⟨hmap, -⟩ := intercalate_cancel hclose (hitem hs) (hitem ht) (List.cons.inj h).2
  exact List.map_injective_iff.mpr (fun _ _ => String.toList_injective) hmap

theorem writeItems_length {level : Nat} {vs : List Value} {ss : List String} (h : line.writeItems level vs = .ok ss) :
    vs.length = ss.length := by
  rw [writeItems_eq_mapM] at h
  exact (forall₂_of_mapM h).length_eq

/-- The key of a plain field shows in its text. -/
theorem key_eq_of_entryText {e f : Value × Value} (he : Value.isPlainKey e.1 = true)
    (hf : Value.isPlainKey f.1 = true) {level level' : Nat} {s : String} (h : entryText level e = .ok s)
    (h' : entryText level' f = .ok s) :
    e.1 = f.1 ∧ ∃ vt, line.writeAt level e.2 = .ok vt ∧ line.writeAt level' f.2 = .ok vt := by
  obtain ⟨kt, vt, hk, hv, rfl⟩ := entryText_eq_ok_iff.mp h
  obtain ⟨lt, wt, hl, hw, hs⟩ := entryText_eq_ok_iff.mp h'
  obtain ⟨k, hek, hkwhole⟩ := Entries.eq_text_of_isPlainKey he
  obtain ⟨l, hfl, hlwhole⟩ := Entries.eq_text_of_isPlainKey hf
  rw [hek] at hk ⊢
  rw [hfl] at hl ⊢
  cases hk
  cases hl
  have hchars := congrArg String.toList hs
  simp only [String.toList_append, List.append_assoc] at hchars
  obtain ⟨rfl, hrest⟩ := quote_append_cancel hkwhole hlwhole hchars
  obtain rfl := String.toList_injective (List.append_cancel_left hrest)
  exact ⟨rfl, vt, hv, hw⟩

/-- Lists with one text are written from the same items. -/
theorem items_of_writeAt_list {vs ws : List Value} {level level' : Nat} {s : String}
    (h : line.writeAt level (.list vs) = .ok s) (h' : line.writeAt level' (.list ws) = .ok s) :
    ∃ ss, line.writeItems (level + 1) vs = .ok ss ∧ line.writeItems (level' + 1) ws = .ok ss := by
  rw [Layout.writeAt, map_eq_ok_iff] at h h'
  obtain ⟨ss, hss, rfl⟩ := h
  obtain ⟨ts, hts, htext⟩ := h'
  have hchars := congrArg String.toList htext
  rw [toList_list, toList_list] at hchars
  obtain rfl := items_eq_of_wrap (.inl rfl) (isItem_writeItems ws _ _ hts) (isItem_writeItems vs _ _ hss) hchars
  exact ⟨ts, hss, hts⟩

theorem isItem_arrange {level : Nat} {es : Entries} {ss : List String}
    (h : line.arrange (line.writeEntries level es) = .ok ss) : ∀ s ∈ ss, IsItem s.toList := by
  intro s hs
  obtain ⟨e, he, hes⟩ := (arrange_eq_ok h).2.2 s hs
  exact isItem_writeEntries es _ e he s hes

/-- Maps with one text have as many entries, and each entry of one has the text of an entry of the other. -/
theorem entries_of_writeAt_map {es fs : Entries} {level level' : Nat} {s : String}
    (h : line.writeAt level (.map es) = .ok s) (h' : line.writeAt level' (.map fs) = .ok s) :
    es.length = fs.length ∧
      ∀ e ∈ es, ∃ f ∈ fs, ∃ t, entryText (level + 1) e = .ok t ∧ entryText (level' + 1) f = .ok t := by
  rw [Layout.writeAt, map_eq_ok_iff] at h h'
  obtain ⟨ss, hss, rfl⟩ := h
  obtain ⟨ts, hts, htext⟩ := h'
  have hchars := congrArg String.toList htext
  rw [toList_map, toList_map] at hchars
  obtain rfl := items_eq_of_wrap (.inr rfl) (isItem_arrange hts) (isItem_arrange hss) hchars
  obtain ⟨hlength, hall, -⟩ := arrange_eq_ok hss
  obtain ⟨hlength', -, heach'⟩ := arrange_eq_ok hts
  refine ⟨hlength.symm.trans hlength', fun e he => ?_⟩
  obtain ⟨t, ht, het⟩ := hall e he
  obtain ⟨f, hf, hft⟩ := heach' t ht
  exact ⟨f, hf, t, het, hft⟩

/-- A list and a map open different brackets. -/
theorem writeAt_list_ne_map {vs : List Value} {es : Entries} {level level' : Nat} {s : String}
    (h : line.writeAt level (.list vs) = .ok s) : line.writeAt level' (.map es) ≠ .ok s := by
  intro h'
  rw [Layout.writeAt, map_eq_ok_iff] at h
  obtain ⟨ss, -, rfl⟩ := h
  rw [Layout.writeAt, map_eq_ok_iff] at h'
  obtain ⟨ts, -, htext⟩ := h'
  have hchars := congrArg String.toList htext
  rw [toList_list, toList_map] at hchars
  exact absurd (List.cons.inj hchars).1 (by decide)

mutual
/-- **Plain documents with one text are the same**, but for the order of their maps; by recursion over one of
them. -/
theorem same_of_writeAt : ∀ v : Value, v.isPlain = true → ∀ w : Value, w.isPlain = true →
    ∀ (level level' : Nat) (s : String), line.writeAt level v = .ok s → line.writeAt level' w = .ok s →
      Value.same v w = true
  | .null => fun hv w hw _ _ _ h h' => same_of_scalar hv hw (.inl rfl) h h'
  | .bool _ => fun hv w hw _ _ _ h h' => same_of_scalar hv hw (.inl rfl) h h'
  | .int _ => fun hv w hw _ _ _ h h' => same_of_scalar hv hw (.inl rfl) h h'
  | .float _ => fun hv w hw _ _ _ h h' => same_of_scalar hv hw (.inl rfl) h h'
  | .text _ => fun hv w hw _ _ _ h h' => same_of_scalar hv hw (.inl rfl) h h'
  | .list vs => by
    intro hv w hw level level' s h h'
    cases hscalar : w.isScalar with
    | true => exact same_of_scalar hv hw (.inr hscalar) h h'
    | false =>
      cases w with
      | list ws =>
        obtain ⟨ss, hss, hts⟩ := items_of_writeAt_list h h'
        rw [Value.isPlain] at hv hw
        rw [Value.same]
        exact sameItems_of_writeItems vs hv ws hw _ _ _ hss hts
      | map fs => exact absurd h' (writeAt_list_ne_map h)
      | _ => simp [Value.isScalar, Value.isPlain] at hscalar hw
  | .map es => by
    intro hv w hw level level' s h h'
    cases hscalar : w.isScalar with
    | true => exact same_of_scalar hv hw (.inr hscalar) h h'
    | false =>
      cases w with
      | map fs =>
        obtain ⟨hlength, heach⟩ := entries_of_writeAt_map h h'
        rw [Value.isPlain] at hv hw
        rw [Value.same, Bool.and_eq_true, decide_eq_true_eq, Value.sameEntries_iff]
        refine ⟨hlength, fun e he => ?_⟩
        obtain ⟨f, hf, t, het, hft⟩ := heach e he
        obtain ⟨hkey, vt, hvt, hwt⟩ := key_eq_of_entryText (Entries.plain_of_mem hv he).1
          (Entries.plain_of_mem hw hf).1 het hft
        refine ⟨f.2, by rw [hkey, Entries.find?_of_mem hw hf], ?_⟩
        exact same_of_writeEntries es hv e he f.2 (Entries.plain_of_mem hw hf).2 _ _ vt hvt hwt
      | list ws => exact absurd h (writeAt_list_ne_map h')
      | _ => simp [Value.isScalar, Value.isPlain] at hscalar hw
  | .bytes _ | .day _ | .moment _ | .pair _ _ | .set _ | .loop _ => by
    intro hv
    simp [Value.isPlain] at hv

theorem sameItems_of_writeItems : ∀ vs : List Value, Value.arePlain vs = true → ∀ ws : List Value,
    Value.arePlain ws = true → ∀ (level level' : Nat) (ss : List String), line.writeItems level vs = .ok ss →
      line.writeItems level' ws = .ok ss → Value.sameItems vs ws = true
  | [] => by
    intro hvs ws hws level level' ss h h'
    have hlength := (writeItems_length h).trans (writeItems_length h').symm
    rw [List.eq_nil_of_length_eq_zero hlength.symm]
    rfl
  | v :: vs => by
    intro hvs ws hws level level' ss h h'
    have hlength := (writeItems_length h).trans (writeItems_length h').symm
    cases ws with
    | nil => cases hlength
    | cons w ws =>
      rw [Value.arePlain, Bool.and_eq_true] at hvs hws
      rw [Layout.writeItems] at h h'
      obtain ⟨s, hs, h⟩ := bind_eq_ok_iff.mp h
      obtain ⟨ss, hss, h⟩ := bind_eq_ok_iff.mp h
      cases h
      obtain ⟨t, ht, h'⟩ := bind_eq_ok_iff.mp h'
      obtain ⟨ts, hts, h'⟩ := bind_eq_ok_iff.mp h'
      cases h'
      rw [Value.sameItems, Bool.and_eq_true]
      exact ⟨same_of_writeAt v hvs.1 w hws.1 _ _ _ hs ht, sameItems_of_writeItems vs hvs.2 ws hws.2 _ _ _ hss hts⟩

theorem same_of_writeEntries : ∀ es : List (Value × Value), Value.havePlain es = true → ∀ e ∈ es, ∀ w : Value,
    w.isPlain = true → ∀ (level level' : Nat) (s : String), line.writeAt level e.2 = .ok s →
      line.writeAt level' w = .ok s → Value.same e.2 w = true
  | [] => by
    intro _ e he
    cases he
  | (k, v) :: es => by
    intro hes e he w hw level level' s h h'
    obtain ⟨-, hv, hes⟩ := Entries.havePlain_cons.mp hes
    rcases List.mem_cons.mp he with rfl | he
    · exact same_of_writeAt v hv w hw _ _ s h h'
    · exact same_of_writeEntries es hes e he w hw _ _ s h h'
end

end AgentLint.Json
