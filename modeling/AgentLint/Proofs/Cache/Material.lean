import AgentLint.Proofs.Cache.Fingerprint

/-!
# Material read from its end

A configuration can be any JSON text, and where it ends in the material is not easily seen from the left.  From
the right it is: what follows the configuration are files in a known order with their times of change, and the
names of the validator and the version.  So two materials for the same validator, version and files agree in the
configuration and in the times of change (`config_eq_of_material`).  Equal materials are of one version
(`version_eq_of_material`), and then of one validator (`name_eq_of_material`).

The name is recognised by its opening quote: a quote inside a quoted text has a backslash before it, and this one
has a blank.
-/

namespace AgentLint

namespace Json

/-! ## 1. Quotes inside a quoted text -/

theorem quote_not_mem_unitEscape (u : Nat) : '"' ∉ unitEscape u := by
  intro h
  rcases List.mem_cons.mp h with h | h
  · exact absurd h (by decide)
  rcases List.mem_cons.mp h with h | h
  · exact absurd h (by decide)
  have hhex := Text.isHexDigit_of_mem_hex h
  unfold Text.IsHexDigit at hhex
  exact absurd hhex (by decide)

/-- A quote stands in the text of a character only behind a backslash. -/
theorem escapeChar_eq_append {c : Char} {a b : List Char} (h : escapeChar c = a ++ '"' :: b) : a = ['\\'] := by
  have hmem : '"' ∈ escapeChar c := by
    rw [h]
    simp
  rcases escapeChar_cases c with ⟨e, he, -⟩ | ⟨he, -, -, hquote, -⟩ | ⟨-, he⟩ | ⟨-, he⟩
  · rw [he] at h
    match a, h with
    | [], h => exact absurd (List.cons.inj h).1 (by decide)
    | [x], h => rw [(List.cons.inj h).1]
    | x :: y :: a, h => simp at h
  · rw [he, List.mem_singleton] at hmem
    exact absurd hmem.symm hquote
  · rw [he] at hmem
    exact absurd hmem (quote_not_mem_unitEscape _)
  · rw [he] at hmem
    rcases List.mem_append.mp hmem with hmem | hmem <;> exact absurd hmem (quote_not_mem_unitEscape _)

/-- **Inside a quoted text a quote stands only behind a backslash.** -/
theorem flatMap_escapeChar_eq_append : ∀ {cs a b : List Char}, cs.flatMap escapeChar = a ++ '"' :: b →
    ∃ a', a = a' ++ ['\\']
  | [], a, b, h => by simp at h
  | c :: cs, a, b, h => by
    rw [List.flatMap_cons, List.append_eq_append_iff] at h
    rcases h with ⟨a', rfl, hrest⟩ | ⟨e, hchar, hrest⟩
    · obtain ⟨a'', rfl⟩ := flatMap_escapeChar_eq_append hrest
      exact ⟨escapeChar c ++ a'', by rw [List.append_assoc]⟩
    · cases e with
      | nil =>
        obtain ⟨a'', hnil⟩ := flatMap_escapeChar_eq_append (a := []) (b := b) (by simpa using hrest.symm)
        simp at hnil
      | cons x e =>
        obtain rfl : '"' = x := (List.cons.inj hrest).1
        exact ⟨[], escapeChar_eq_append hchar⟩

/-- A quoted text does not start inside another one, as what stands there behind a blank is no quote. -/
theorem eq_nil_of_flatMap_escapeChar {cs x y e b : List Char}
    (hstart : y ++ [' ', '"'] = x ++ [' ', '"'] ++ e) (hbody : cs.flatMap escapeChar = e ++ b) : e = [] := by
  rcases List.eq_nil_or_concat e with he | ⟨f, z, rfl⟩
  · exact he
  · have hsplit : (y ++ [' ']) ++ ['"'] = (x ++ [' ', '"'] ++ f) ++ [z] := by
      simpa using hstart
    obtain ⟨hfront, hz⟩ := List.append_inj' hsplit rfl
    obtain rfl : '"' = z := (List.cons.inj hz).1
    obtain ⟨f', rfl⟩ := flatMap_escapeChar_eq_append (a := f) (b := b) (by simpa using hbody)
    rw [← List.append_assoc] at hfront
    have hblank := (List.append_inj' hfront rfl).2
    exact absurd (List.cons.inj hblank).1 (by decide)

/-- **Behind a blank, a quoted text is recognised from its end.** -/
theorem append_quote_cancel {s t : String} {x y : List Char}
    (h : x ++ ' ' :: (quote s).toList = y ++ ' ' :: (quote t).toList) : quote s = quote t := by
  have hbodies : (x ++ [' ', '"']) ++ s.toList.flatMap escapeChar =
      (y ++ [' ', '"']) ++ t.toList.flatMap escapeChar := by
    have hquotes : (x ++ [' ', '"'] ++ s.toList.flatMap escapeChar) ++ ['"'] =
        (y ++ [' ', '"'] ++ t.toList.flatMap escapeChar) ++ ['"'] := by
      simpa [quote] using h
    exact List.append_cancel_right hquotes
  have hsame : s.toList.flatMap escapeChar = t.toList.flatMap escapeChar := by
    rcases List.append_eq_append_iff.mp hbodies with ⟨e, hstart, hbody⟩ | ⟨e, hstart, hbody⟩
    · rw [hbody, eq_nil_of_flatMap_escapeChar hstart hbody, List.nil_append]
    · rw [hbody, eq_nil_of_flatMap_escapeChar hstart hbody, List.nil_append]
  rw [quote, quote, hsame]

/-- Texts that read back are told apart by their quoted form. -/
theorem quote_injective {s t : String} (hs : Rereads (.text s)) (ht : Rereads (.text t))
    (h : quote s = quote t) : s = t := by
  have hwrite : ∀ u : String, writePretty (.text u) = .ok (quote u) := fun u => by
    rw [writePretty, Layout.writeAt]
  have hread := hs _ (hwrite s)
  rw [h, ht _ (hwrite t)] at hread
  exact (Value.text.inj (Except.ok.inj hread)).symm

end Json

namespace Cache

/-! ## 2. Files in a known order -/

theorem blank_not_mem_stampChars (s : Option Int) : ' ' ∉ stampChars s := by
  cases s with
  | none => decide
  | some n =>
    intro hc
    rcases isDigit_or_minus_of_mem_toString hc with h | h
    · exact absurd h (by decide)
    · exact absurd h (by decide)

/-- A file with its time of change, read from the right: the time starts behind the last blank. -/
theorem append_itemChars_cancel {x y : String × Option Int} (hpath : x.1 = y.1) {a b : List Char}
    (h : a ++ itemChars x = b ++ itemChars y) : a = b ∧ x = y := by
  obtain ⟨p, s⟩ := x
  obtain ⟨q, t⟩ := y
  obtain rfl : p = q := hpath
  have hsplit : (a ++ '[' :: (Json.quote p).toList ++ [',']) ++ ' ' :: stampChars s =
      (b ++ '[' :: (Json.quote p).toList ++ [',']) ++ ' ' :: stampChars t := by
    have hbracket : (a ++ '[' :: (Json.quote p).toList ++ [',']) ++ ' ' :: stampChars s ++ [']'] =
        (b ++ '[' :: (Json.quote p).toList ++ [',']) ++ ' ' :: stampChars t ++ [']'] := by
      simpa [itemChars] using h
    exact List.append_cancel_right hbracket
  have hreverse := congrArg List.reverse hsplit
  simp only [List.reverse_append, List.reverse_cons, List.append_assoc, List.singleton_append] at hreverse
  obtain ⟨hstamp, hrest⟩ := append_stop_cancel
    (by rw [List.mem_reverse]; exact blank_not_mem_stampChars s)
    (by rw [List.mem_reverse]; exact blank_not_mem_stampChars t) hreverse
  obtain rfl := stampChars_injective (List.reverse_injective hstamp)
  refine ⟨?_, rfl⟩
  simpa using hrest

/-- **The same files with their times of change, read from the right.** -/
theorem append_itemsChars_cancel : ∀ {xs ys : List (String × Option Int)},
    xs.map Prod.fst = ys.map Prod.fst → ∀ {a b : List Char},
      a ++ itemsChars xs = b ++ itemsChars ys → a = b ∧ xs = ys
  | [], [], _, a, b, h => ⟨List.append_cancel_right h, rfl⟩
  | x :: xs, y :: ys, hpaths, a, b, h => by
    obtain ⟨hpath, hrest⟩ := List.cons.inj hpaths
    have hempty : xs = [] ↔ ys = [] := by
      rw [← List.map_eq_nil_iff (f := Prod.fst), hrest, List.map_eq_nil_iff]
    rw [itemsChars_cons, itemsChars_cons] at h
    by_cases hxs : xs = []
    · obtain rfl := hempty.mp hxs
      subst hxs
      simp only [if_true, List.append_nil] at h
      obtain ⟨hab, rfl⟩ := append_itemChars_cancel hpath h
      exact ⟨hab, rfl⟩
    · rw [if_neg hxs, if_neg (mt hempty.mpr hxs)] at h
      have hsplit : (a ++ itemChars x ++ [',', ' ']) ++ itemsChars xs =
          (b ++ itemChars y ++ [',', ' ']) ++ itemsChars ys := by
        simpa using h
      obtain ⟨hfront, rfl⟩ := append_itemsChars_cancel hrest hsplit
      obtain ⟨hab, rfl⟩ := append_itemChars_cancel hpath (List.append_cancel_right hfront)
      exact ⟨hab, rfl⟩

/-! ## 3. The material -/

/-- What stands before the files. -/
def opening (config : String) : List Char :=
  '\x7b' :: (Json.quote "config").toList ++ [':', ' '] ++ config.toList ++ [',', ' '] ++
    (Json.quote "files").toList ++ [':', ' ', '[']

/-- What stands between the files and the name of the validator, up to a blank. -/
def beforeName : List Char := [']', ',', ' '] ++ (Json.quote "validator").toList ++ [':']

/-- What stands behind the name. -/
def ending (version : String) : List Char :=
  [',', ' '] ++ (Json.quote "version").toList ++ [':', ' '] ++ (Json.quote version).toList ++ ['\x7d']

/-- The characters of material. -/
theorem toList_material {c : Cache} {h : Host} {name : String} {config : Option Config}
    {files : List String} {m : String} (hm : c.material h name config files = .ok m) :
    ∃ (xs : List (String × Option Int)) (ct : String),
      xs.map Prod.fst = Order.sortedDistinct files ∧ (∀ x ∈ xs, h.mtime? x.1 = .ok x.2) ∧
      Json.writeSorted (configValue config) = .ok ct ∧
      m.toList = opening ct ++ itemsChars xs ++ beforeName ++ ' ' :: (Json.quote name).toList ++
        ending c.version := by
  obtain ⟨xs, ct, ft, hfiles, hstamps, hct, hft, rfl⟩ := material_eq_ok hm
  refine ⟨xs, ct, hfiles, hstamps, (Json.writeAt_level _ 0 1).trans hct, ?_⟩
  have hcolon : ": ".toList = [':', ' '] := rfl
  have hleft : "\x7b".toList = ['\x7b'] := rfl
  have hright : "\x7d".toList = ['\x7d'] := rfl
  rw [toList_wrap]
  simp only [List.map_cons, List.map_nil, List.intercalate_cons_cons, List.intercalate_singleton, fieldText,
    String.toList_append, toList_writeAt_files hft, hcolon, hleft, hright, opening, beforeName, ending, List.cons_append,
    List.nil_append, List.append_assoc]

/-- **Material tells the configuration and the times of change**, for the same validator and files. -/
theorem config_eq_of_material {c c' : Cache} (hv : c'.version = c.version) {h h' : Host} {name : String}
    {config config' : Option Config} {files : List String} {m : String}
    (hm : c.material h name config files = .ok m) (hm' : c'.material h' name config' files = .ok m) :
    (∃ text, Json.writeSorted (configValue config) = .ok text ∧
      Json.writeSorted (configValue config') = .ok text) ∧
      ∀ p ∈ Order.sortedDistinct files, h'.mtime? p = h.mtime? p := by
  obtain ⟨xs, ct, hfiles, hstamps, hct, hchars⟩ := toList_material hm
  obtain ⟨ys, ct', hfiles', hstamps', hct', hchars'⟩ := toList_material hm'
  rw [hchars, hv] at hchars'
  have hfront := List.append_cancel_right (List.append_cancel_right (List.append_cancel_right hchars'))
  obtain ⟨hopen, rfl⟩ := append_itemsChars_cancel (hfiles.trans hfiles'.symm) hfront
  obtain rfl : ct = ct' := String.toList_injective (by simpa [opening] using hopen)
  refine ⟨⟨ct, hct, hct'⟩, fun p hp => ?_⟩
  obtain ⟨x, hx, rfl⟩ := List.mem_map.mp (hfiles ▸ hp)
  rw [hstamps x hx, hstamps' x hx]

/-- Material as far as the version that it ends with. -/
theorem exists_before_version {c : Cache} {h : Host} {name : String} {config : Option Config}
    {files : List String} {m : String} (hm : c.material h name config files = .ok m) :
    ∃ front, m.toList = front ++ ' ' :: (Json.quote c.version).toList ++ ['\x7d'] := by
  obtain ⟨xs, ct, -, -, -, hchars⟩ := toList_material hm
  refine ⟨opening ct ++ itemsChars xs ++ beforeName ++ ' ' :: (Json.quote name).toList ++ [',', ' '] ++
    (Json.quote "version").toList ++ [':'], ?_⟩
  simp only [hchars, ending, List.append_assoc, List.cons_append, List.nil_append]

/-- **Material tells the version.** -/
theorem version_eq_of_material {c c' : Cache} {h h' : Host} {name name' : String}
    {config config' : Option Config} {files files' : List String} {m : String}
    (hm : c.material h name config files = .ok m) (hm' : c'.material h' name' config' files' = .ok m) :
    Json.quote c'.version = Json.quote c.version := by
  obtain ⟨front, hchars⟩ := exists_before_version hm
  obtain ⟨front', hchars'⟩ := exists_before_version hm'
  rw [hchars] at hchars'
  exact (Json.append_quote_cancel (List.append_cancel_right hchars')).symm

/-- **Material tells the validator.** -/
theorem name_eq_of_material {c c' : Cache} (hv : Json.quote c'.version = Json.quote c.version) {h h' : Host}
    {name name' : String} {config config' : Option Config} {files files' : List String} {m : String}
    (hm : c.material h name config files = .ok m) (hm' : c'.material h' name' config' files' = .ok m) :
    Json.quote name = Json.quote name' := by
  obtain ⟨xs, ct, -, -, -, hchars⟩ := toList_material hm
  obtain ⟨ys, ct', -, -, -, hchars'⟩ := toList_material hm'
  rw [hchars, ending, ending, hv] at hchars'
  exact Json.append_quote_cancel (List.append_cancel_right hchars')

end Cache

end AgentLint
