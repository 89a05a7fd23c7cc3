import AgentLint.Cache.Basic
import AgentLint.Proofs.Json.OneLine
import AgentLint.Proofs.Path

/-!
# What a fingerprint stands for

The material of a fingerprint is a JSON text with the configuration, the files and their times of change,
and the names of the validator and the version.  Two runs of one validator with one configuration have the
same material only if they have the same files with the same times of change (`stamps_eq_of_material`).
The proof takes the two texts apart from the left: what is common to both is dropped, a quoted path tells
where it ends, and a time of change ends at the bracket after it.

The fingerprint itself is a word of hexadecimal digits, so that it can name a file.
-/

namespace AgentLint

/-! ## 1. Digests as names -/

namespace Sha256

theorem isHexDigit_of_mem_hex {s : String} {c : Char} (hc : c ∈ (hex s).toList) :
    Text.IsHexDigit c := by
  rw [hex, String.toList_ofList] at hc
  obtain ⟨w, -, hw⟩ := List.mem_flatMap.mp hc
  exact Text.isHexDigit_of_mem_hex hw

/-- A digest with an ending is a name, and an ordinary one. -/
theorem isName_hex_json (s : String) :
    Path.IsName (hex s ++ ".json") ∧ hex s ++ ".json" ≠ ".." := by
  refine Path.isName_append (fun hc => ?_) (by decide) (by decide)
  have hhex := isHexDigit_of_mem_hex hc
  unfold Text.IsHexDigit at hhex
  exact absurd hhex (by decide)

theorem safeText_hex (s : String) : Json.SafeText (hex s) := fun _ hc =>
  Json.isSafe_of_isHexDigit (isHexDigit_of_mem_hex hc)

end Sha256

/-! ## 2. Files in order -/

namespace Order

/-- Files in order, each once. -/
def Sorted (files : List String) : Prop := files.Pairwise (· < ·)

theorem eraseDups_of_nodup : ∀ {xs : List String}, xs.Nodup → xs.eraseDups = xs
  | [], _ => rfl
  | x :: xs, h => by
    rw [List.nodup_cons] at h
    have hfilter : (xs.filter fun b => !b == x) = xs := by
      rw [List.filter_eq_self]
      rintro y hy
      simp only [Bool.not_eq_true', beq_eq_false_iff_ne]
      rintro rfl
      exact h.1 hy
    rw [List.eraseDups_cons, hfilter, eraseDups_of_nodup h.2]

theorem Sorted.nodup {files : List String} (h : Sorted files) : files.Nodup :=
  List.Pairwise.imp (fun hlt heq => absurd (heq ▸ hlt) (String.lt_irrefl _)) h

theorem Sorted.sortedDistinct_eq {files : List String} (h : Sorted files) :
    sortedDistinct files = files := by
  rw [sortedDistinct, eraseDups_of_nodup h.nodup]
  refine List.mergeSort_of_pairwise (List.Pairwise.imp (fun hlt => ?_) h)
  exact decide_eq_true (String.not_lt.mp (String.lt_asymm hlt))

/-- Two such lists of the same files are the same. -/
theorem Sorted.eq_of_mem_iff {xs ys : List String} (hx : Sorted xs) (hy : Sorted ys)
    (h : ∀ p, p ∈ xs ↔ p ∈ ys) : xs = ys := by
  have hperm : xs.Perm ys := (List.perm_ext_iff_of_nodup hx.nodup hy.nodup).mpr h
  refine hperm.eq_of_pairwise ?_ hx hy
  intro a b _ _ hab hba
  exact absurd hba (String.lt_asymm hab)

end Order

namespace Cache

/-! ## 3. Files with their times of change -/

/-- A file and its time of change as they stand in the material. -/
def trackedAs (x : String × Option Int) : Value := .list [.text x.1, .ofInt? x.2]

theorem trackedValue_eq_ok {h : Host} {path : String} {v : Value}
    (hv : trackedValue h path = .ok v) : ∃ t, h.mtime? path = .ok t ∧ v = trackedAs (path, t) := by
  unfold trackedValue at hv
  obtain ⟨t, ht, hv⟩ := bind_eq_ok_iff.mp hv
  exact ⟨t, mapError_eq_ok_iff.mp ht, (Except.ok.inj hv).symm⟩

/-- The files of a run with their times of change. -/
theorem tracked_eq_ok {h : Host} : ∀ {files : List String} {vs : List Value},
    files.mapM (trackedValue h) = .ok vs →
      ∃ xs : List (String × Option Int), vs = xs.map trackedAs ∧ xs.map Prod.fst = files ∧
        ∀ x ∈ xs, h.mtime? x.1 = .ok x.2 := by
  intro files vs hvs
  have hall := forall₂_of_mapM hvs
  clear hvs
  induction hall with
  | nil => exact ⟨[], rfl, rfl, by simp⟩
  | cons hv _ ih =>
    obtain ⟨t, ht, rfl⟩ := trackedValue_eq_ok hv
    obtain ⟨xs, rfl, rfl, hxs⟩ := ih
    exact ⟨(_, t) :: xs, rfl, rfl, List.forall_mem_cons.mpr ⟨ht, hxs⟩⟩

/-! ## 4. Their texts -/

/-- The characters of a time of change. -/
def stampChars : Option Int → List Char
  | none => ['n', 'u', 'l', 'l']
  | some n => (toString n).toList

/-- The characters of a file with its time of change. -/
def itemChars (x : String × Option Int) : List Char :=
  '[' :: (Json.quote x.1).toList ++ ',' :: ' ' :: stampChars x.2 ++ [']']

theorem isDigit_or_minus_of_mem_toString {n : Int} {c : Char} (hc : c ∈ (toString n).toList) :
    c = '-' ∨ c.isDigit := by
  rw [Json.toList_toString, List.mem_append] at hc
  rcases hc with hc | hc
  · split at hc
    · exact .inl (List.mem_singleton.mp hc)
    · cases hc
  · exact .inr (Nat.isDigit_of_mem_toDigits (by omega) (by omega) hc)

theorem bracket_not_mem_stampChars (s : Option Int) : ']' ∉ stampChars s := by
  cases s with
  | none => decide
  | some n =>
    intro hc
    rcases isDigit_or_minus_of_mem_toString hc with h | h
    · exact absurd h (by decide)
    · exact absurd h (by decide)

/-- The digits of a natural number tell which one it is. -/
theorem toDigits_injective {m n : Nat} (h : Nat.toDigits 10 m = Nat.toDigits 10 n) : m = n := by
  rw [← Nat.ofDigitChars_ten_toDigits (n := m), h, Nat.ofDigitChars_ten_toDigits]

theorem minus_not_mem_toDigits (n : Nat) : '-' ∉ Nat.toDigits 10 n := by
  intro hc
  exact absurd (Nat.isDigit_of_mem_toDigits (by omega) (by omega) hc) (by decide)

/-- So do the characters of an integer. -/
theorem toList_toString_injective {m n : Int} (h : (toString m).toList = (toString n).toList) :
    m = n := by
  rw [Json.toList_toString, Json.toList_toString] at h
  by_cases hm : m < 0 <;> by_cases hn : n < 0
  · rw [if_pos hm, if_pos hn] at h
    have habs := toDigits_injective (List.append_cancel_left h)
    omega
  · rw [if_pos hm, if_neg hn, List.nil_append] at h
    exact absurd (h ▸ List.mem_cons_self) (minus_not_mem_toDigits n.natAbs)
  · rw [if_neg hm, if_pos hn, List.nil_append] at h
    exact absurd (h.symm ▸ List.mem_cons_self) (minus_not_mem_toDigits m.natAbs)
  · rw [if_neg hm, if_neg hn, List.nil_append, List.nil_append] at h
    have habs := toDigits_injective h
    omega

theorem stampChars_injective {s t : Option Int} (h : stampChars s = stampChars t) : s = t := by
  have hnull : ∀ n : Int, stampChars (some n) ≠ ['n', 'u', 'l', 'l'] := by
    intro n hn
    have hc : 'n' ∈ (toString n).toList := by
      rw [show (toString n).toList = ['n', 'u', 'l', 'l'] from hn]
      decide
    rcases isDigit_or_minus_of_mem_toString hc with h | h
    · exact absurd h (by decide)
    · exact absurd h (by decide)
  cases s with
  | none =>
    cases t with
    | none => rfl
    | some n => exact absurd h.symm (hnull n)
  | some m =>
    cases t with
    | none => exact absurd h (hnull m)
    | some n => rw [toList_toString_injective h]

/-- Two texts that end at the first bracket are the same if they are so with what follows. -/
theorem append_stop_cancel {stop : Char} : ∀ {xs ys r r' : List Char}, stop ∉ xs → stop ∉ ys →
    xs ++ stop :: r = ys ++ stop :: r' → xs = ys ∧ r = r'
  | [], [], _, _, _, _, h => ⟨rfl, (List.cons.inj h).2⟩
  | [], y :: ys, _, _, _, hy, h => absurd ((List.cons.inj h).1 ▸ List.mem_cons_self) hy
  | x :: xs, [], _, _, hx, _, h => absurd ((List.cons.inj h).1 ▸ List.mem_cons_self) hx
  | x :: xs, y :: ys, _, _, hx, hy, h => by
    obtain ⟨rfl, htail⟩ := List.cons.inj h
    obtain ⟨rfl, hr⟩ := append_stop_cancel (fun hm => hx (List.mem_cons_of_mem x hm))
      (fun hm => hy (List.mem_cons_of_mem x hm)) htail
    exact ⟨rfl, hr⟩

/-- A file with its time of change tells what it is and where it ends. -/
theorem itemChars_append_cancel {x y : String × Option Int} (hx : Text.Whole x.1) (hy : Text.Whole y.1)
    {r r' : List Char}
    (h : itemChars x ++ r = itemChars y ++ r') : x = y ∧ r = r' := by
  simp only [itemChars, List.cons_append, List.append_assoc, List.nil_append, List.cons.injEq,
    true_and] at h
  obtain ⟨hpath, hrest⟩ := Json.quote_append_cancel hx hy h
  simp only [List.cons.injEq, true_and] at hrest
  obtain ⟨hstamp, hr⟩ := append_stop_cancel (bracket_not_mem_stampChars x.2)
    (bracket_not_mem_stampChars y.2) hrest
  exact ⟨Prod.ext hpath (stampChars_injective hstamp), hr⟩

/-- The characters of the files, up to the bracket that ends them. -/
def itemsChars (xs : List (String × Option Int)) : List Char := [',', ' '].intercalate (xs.map itemChars)

theorem itemsChars_cons (x : String × Option Int) (xs : List (String × Option Int)) :
    itemsChars (x :: xs) =
      itemChars x ++ if xs = [] then [] else ',' :: ' ' :: itemsChars xs := by
  cases xs with
  | nil => simp [itemsChars]
  | cons y ys => simp [itemsChars, List.intercalate_cons_cons]

theorem itemsChars_append_cancel : ∀ {xs ys : List (String × Option Int)},
    (∀ x ∈ xs, Text.Whole x.1) → (∀ y ∈ ys, Text.Whole y.1) → ∀ {r r' : List Char},
    itemsChars xs ++ ']' :: r = itemsChars ys ++ ']' :: r' → xs = ys
  | [], [], _, _, _, _, _ => rfl
  | [], y :: ys, _, _, r, r', h => by
    rw [itemsChars_cons] at h
    exact absurd (List.cons.inj h).1 (by decide)
  | x :: xs, [], _, _, r, r', h => by
    rw [itemsChars_cons] at h
    exact absurd (List.cons.inj h).1 (by decide)
  | x :: xs, y :: ys, hx, hy, r, r', h => by
    rw [List.forall_mem_cons] at hx hy
    rw [itemsChars_cons, itemsChars_cons, List.append_assoc, List.append_assoc] at h
    obtain ⟨rfl, hrest⟩ := itemChars_append_cancel hx.1 hy.1 h
    -- Either both lists end here, or a comma follows in both.
    by_cases hxs : xs = [] <;> by_cases hys : ys = []
    · rw [hxs, hys]
    · rw [if_pos hxs, if_neg hys] at hrest
      exact absurd (List.cons.inj hrest).1 (by decide)
    · rw [if_neg hxs, if_pos hys] at hrest
      exact absurd (List.cons.inj hrest).1 (by decide)
    · rw [if_neg hxs, if_neg hys] at hrest
      simp only [List.cons_append, List.cons.injEq, true_and] at hrest
      rw [itemsChars_append_cancel hx.2 hy.2 hrest]

/-! ## 5. The material -/

/-- On one line with sorted keys. -/
def materialLayout : Json.Layout := ⟨none, true⟩

theorem toList_wrap (level : Nat) (left right : String) (items : List String) :
    (materialLayout.wrap level left right items).toList =
      left.toList ++ [',', ' '].intercalate (items.map String.toList) ++ right.toList :=
  Json.toList_wrap_line level left right items

theorem toList_writeAt_tracked {level : Nat} {x : String × Option Int} {s : String}
    (h : materialLayout.writeAt level (trackedAs x) = .ok s) : s.toList = itemChars x := by
  obtain ⟨path, t⟩ := x
  have hstamp : ∃ st : String, st.toList = stampChars t ∧
      s = materialLayout.wrap level "[" "]" [Json.quote path, st] := by
    simp only [trackedAs, Json.Layout.writeAt, Json.Layout.writeItems] at h
    cases t with
    | none =>
      simp only [Value.ofInt?, Json.Layout.writeAt] at h
      exact ⟨"null", rfl, (Except.ok.inj h).symm⟩
    | some n =>
      simp only [Value.ofInt?, Json.Layout.writeAt, Json.integerText] at h
      split at h
      · cases h
      · exact ⟨toString n, rfl, (Except.ok.inj h).symm⟩
  obtain ⟨st, hst, rfl⟩ := hstamp
  rw [toList_wrap]
  simp [itemChars, ← hst, List.intercalate_cons_cons]

theorem toList_writeItems {level : Nat} : ∀ {xs : List (String × Option Int)} {ss : List String},
    materialLayout.writeItems level (xs.map trackedAs) = .ok ss →
      ss.map String.toList = xs.map itemChars
  | [], ss, h => by
    rw [List.map_nil, Json.Layout.writeItems] at h
    cases h
    rfl
  | x :: xs, ss, h => by
    rw [List.map_cons, Json.Layout.writeItems] at h
    obtain ⟨s, hx, h⟩ := bind_eq_ok_iff.mp h
    obtain ⟨ss', hxs, h⟩ := bind_eq_ok_iff.mp h
    cases h
    rw [List.map_cons, List.map_cons, toList_writeAt_tracked hx, toList_writeItems hxs]

theorem toList_writeAt_files {level : Nat} {xs : List (String × Option Int)} {s : String}
    (h : materialLayout.writeAt level (.list (xs.map trackedAs)) = .ok s) :
    s.toList = '[' :: (itemsChars xs ++ [']']) := by
  rw [Json.Layout.writeAt, map_eq_ok_iff] at h
  obtain ⟨ss, hxs, rfl⟩ := h
  rw [toList_wrap, toList_writeItems hxs, itemsChars]
  rfl

theorem keyLess_fields :
    Json.keyLess (.text "validator") (.text "version") = .ok true ∧
    Json.keyLess (.text "config") (.text "validator") = .ok true ∧
    Json.keyLess (.text "files") (.text "config") = .ok false ∧
    Json.keyLess (.text "files") (.text "validator") = .ok true := by
  simp only [Json.keyLess, Except.ok.injEq]
  decide +kernel

/-- The order of the four fields. -/
theorem sortM_fields {α : Type} (a b c d : α) :
    Order.sortM (fun x y => Json.keyLess x.1 y.1)
        [(Value.text "version", a), (.text "validator", b), (.text "config", c), (.text "files", d)] =
      .ok [(Value.text "config", c), (.text "files", d), (.text "validator", b),
        (.text "version", a)] := by
  obtain ⟨h₁, h₂, h₃, h₄⟩ := keyLess_fields
  simp [Order.sortM, Order.sortRuns, Order.firstRun, Order.runLength, Order.leastRun,
    Order.insertAll, Order.place, Order.addRun, Order.mergeAll, h₁, h₂, h₃, h₄, bind, Except.bind,
    pure, Except.pure, Except.map]

/-- The value that stands for a configuration in the material. -/
def configValue : Option Config → Value
  | none => .null
  | some c => c.toValue

/-- A field of the material. -/
def fieldText (key text : String) : String := Json.quote key ++ ": " ++ text

theorem writeSorted_fields (version name : String) (config files : Value) :
    Json.writeSorted (Entries.ofFields [("version", .text version), ("validator", .text name),
        ("config", config), ("files", files)]) = (do
      let ct ← materialLayout.writeAt 1 config
      let ft ← materialLayout.writeAt 1 files
      pure (materialLayout.wrap 0 "\x7b" "\x7d" [fieldText "config" ct, fieldText "files" ft,
        fieldText "validator" (Json.quote name), fieldText "version" (Json.quote version)])) := by
  have hl : (⟨none, true⟩ : Json.Layout) = materialLayout := rfl
  have hsorted : materialLayout.sorted = true := rfl
  rw [Json.writeSorted, hl, Entries.ofFields, Json.Layout.writeAt]
  simp only [List.map_cons, List.map_nil, Json.Layout.writeEntries, Json.keyText, Json.Layout.arrange,
    hsorted, if_true, sortM_fields, Json.Layout.writeAt]
  cases materialLayout.writeAt 1 config with
  | error e => rfl
  | ok ct =>
    cases materialLayout.writeAt 1 files with
    | error e => rfl
    | ok ft => rfl

/-- What the material holds, once everything in it can be written. -/
theorem material_eq_ok {c : Cache} {h : Host} {name : String} {config : Option Config}
    {files : List String} {m : String} (hm : c.material h name config files = .ok m) :
    ∃ (xs : List (String × Option Int)) (ct ft : String),
      xs.map Prod.fst = Order.sortedDistinct files ∧ (∀ x ∈ xs, h.mtime? x.1 = .ok x.2) ∧
      materialLayout.writeAt 1 (configValue config) = .ok ct ∧
      materialLayout.writeAt 1 (.list (xs.map trackedAs)) = .ok ft ∧
      m = materialLayout.wrap 0 "\x7b" "\x7d" [fieldText "config" ct, fieldText "files" ft,
        fieldText "validator" (Json.quote name), fieldText "version" (Json.quote c.version)] := by
  unfold material at hm
  obtain ⟨vs, htracked, hm⟩ := bind_eq_ok_iff.mp hm
  obtain ⟨xs, rfl, hfiles, hstamps⟩ := tracked_eq_ok htracked
  have hw : (Json.writeSorted (Entries.ofFields
      [("version", .text c.version), ("validator", .text name), ("config", configValue config),
        ("files", .list (xs.map trackedAs))])).mapError Fault.unwritable = .ok m := by
    rw [← hm]
    cases config <;> rfl
  rw [writeSorted_fields, mapError_eq_ok_iff] at hw
  obtain ⟨ct, hct, hw⟩ := bind_eq_ok_iff.mp hw
  obtain ⟨ft, hft, hw⟩ := bind_eq_ok_iff.mp hw
  exact ⟨xs, ct, ft, hfiles, hstamps, hct, hft, (Except.ok.inj hw).symm⟩

/-- Paths without first halves of surrogate pairs, as all paths of files are. -/
def Nameable (files : List String) : Prop := ∀ p ∈ files, ∀ c ∈ p.toList, Json.NoFirstHalf c

/-- **Material tells files and times of change.** -/
theorem stamps_eq_of_material {c c' : Cache} (hv : c'.version = c.version) {h h' : Host}
    {name : String} {config : Option Config} {files files' : List String}
    (hn : Nameable (Order.sortedDistinct files)) (hn' : Nameable (Order.sortedDistinct files'))
    {m : String} (hm : c.material h name config files = .ok m)
    (hm' : c'.material h' name config files' = .ok m) :
    Order.sortedDistinct files' = Order.sortedDistinct files ∧
      ∀ p ∈ Order.sortedDistinct files, h'.mtime? p = h.mtime? p := by
  obtain ⟨xs, ct, ft, hfiles, hstamps, hct, hft, rfl⟩ := material_eq_ok hm
  obtain ⟨ys, ct', ft', hfiles', hstamps', hct', hft', heq⟩ := material_eq_ok hm'
  obtain rfl : ct = ct' := Except.ok.inj (hct.symm.trans hct')
  have hchars : ft.toList = ft'.toList := by
    have h := congrArg String.toList heq
    rw [toList_wrap, toList_wrap, hv] at h
    simpa [fieldText, List.intercalate_cons_cons] using h
  rw [toList_writeAt_files hft, toList_writeAt_files hft'] at hchars
  have hnames : ∀ x ∈ xs, Text.Whole x.1 := fun x hx =>
    Text.whole_of_noFirstHalf (hn x.1 (hfiles ▸ List.mem_map_of_mem hx))
  have hnames' : ∀ y ∈ ys, Text.Whole y.1 := fun y hy =>
    Text.whole_of_noFirstHalf (hn' y.1 (hfiles' ▸ List.mem_map_of_mem hy))
  obtain rfl := itemsChars_append_cancel hnames hnames' (List.cons.inj hchars).2
  refine ⟨hfiles'.symm.trans hfiles, fun p hp => ?_⟩
  obtain ⟨x, hx, rfl⟩ := List.mem_map.mp (hfiles ▸ hp)
  rw [hstamps x hx, hstamps' x hx]

end Cache

end AgentLint
