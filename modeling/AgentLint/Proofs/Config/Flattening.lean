import AgentLint.Proofs.Assoc
import AgentLint.Proofs.Config.Extending

/-!
# A configuration as a pile of files

What a file extends may itself extend other files, and each of them is loaded as a whole before it is put below
the file.  Putting one configuration over another is associative, though (`over_over`), so nothing is lost if
they are put one over the other file by file.  `PostOrder` lists the files, each behind those that it extends.
`load_eq_pile` says what is loaded in terms of that list alone, field by field.
-/

namespace AgentLint

namespace Config

/-! ## 1. Patterns -/

theorem addPatterns_cons (old : List String) (p : String) (more : List String) :
    addPatterns old (p :: more) = addPatterns (if p ∈ old then old else old ++ [p]) more := rfl

theorem mem_addPatterns {x : String} : ∀ {more old : List String},
    x ∈ addPatterns old more ↔ x ∈ old ∨ x ∈ more
  | [], old => by simp [addPatterns]
  | p :: more, old => by
    rw [addPatterns_cons, mem_addPatterns, List.mem_cons]
    split
    · rename_i hp
      constructor
      · rintro (h | h)
        · exact .inl h
        · exact .inr (.inr h)
      · rintro (h | rfl | h)
        · exact .inl h
        · exact .inl hp
        · exact .inr h
    · rw [List.mem_append, List.mem_singleton, or_assoc]

/-- **Adding patterns that were added to others.** -/
theorem addPatterns_addPatterns : ∀ (more old front : List String),
    addPatterns front (addPatterns old more) = addPatterns (addPatterns front old) more
  | [], _, _ => rfl
  | p :: more, old, front => by
    rw [addPatterns_cons, addPatterns_cons, addPatterns_addPatterns more]
    congr 1
    by_cases hp : p ∈ old
    · rw [if_pos hp, if_pos (mem_addPatterns.mpr (.inr hp))]
    · rw [if_neg hp, addPatterns, List.foldl_append]
      rfl

/-- What is added are the patterns that are not there, each where it comes first. -/
theorem addPatterns_eq : ∀ (more old : List String),
    addPatterns old more = old ++ (more.filter (· ∉ old)).eraseDups
  | [], old => by simp [addPatterns]
  | p :: more, old => by
    rw [addPatterns_cons, addPatterns_eq more]
    by_cases hp : p ∈ old
    · rw [if_pos hp, List.filter_cons_of_neg (by simpa using hp)]
    · rw [if_neg hp, List.filter_cons_of_pos (by simpa using hp), List.eraseDups_cons, List.filter_filter,
        List.append_assoc, List.singleton_append]
      congr 3
      refine List.filter_congr fun q _ => ?_
      by_cases hq : q = p
      · simp [hq]
      · simp [hq, List.mem_append]

theorem addPatterns_nil_left (more : List String) : addPatterns [] more = more.eraseDups := by
  rw [addPatterns_eq, List.nil_append]
  congr 1
  exact List.filter_eq_self.mpr fun _ _ => by simp

/-! ## 2. One over the other -/

theorem over_empty (a : Loaded) : a.over ({}, {}) = a := by
  obtain ⟨⟨rules, overrides, ignored, report, limit⟩, ⟨kr, km⟩⟩ := a
  simp [Loaded.over, merge, ScalarKeys.union, Assoc.putAll, addPatterns]

/-- **Putting one over the other is associative**, if the rules in the middle are distinct. -/
theorem over_over {b : Loaded} (hb : (Assoc.keys b.1.rules).Nodup) (a c : Loaded) :
    a.over (b.over c) = (a.over b).over c := by
  obtain ⟨⟨ar, ao, ai, au, am⟩, ⟨aku, akm⟩⟩ := a
  obtain ⟨⟨br, bo, bi, bu, bm⟩, ⟨bku, bkm⟩⟩ := b
  obtain ⟨⟨cr, co, ci, cu, cm⟩, ⟨cku, ckm⟩⟩ := c
  have hrules : Assoc.putAll ar (Assoc.putAll br cr) = Assoc.putAll (Assoc.putAll ar br) cr :=
    Assoc.putAll_putAll hb ar cr
  simp only [Loaded.over, merge, ScalarKeys.union, hrules, addPatterns_addPatterns, List.append_assoc,
    Bool.or_assoc, Prod.mk.injEq, Config.mk.injEq, true_and, and_true]
  cases bku <;> cases cku <;> cases bkm <;> cases ckm <;> simp

theorem nodup_foldl_over : ∀ {rs : List Loaded} {a : Loaded}, (Assoc.keys a.1.rules).Nodup →
    (Assoc.keys (rs.foldl Loaded.over a).1.rules).Nodup
  | [], _, ha => ha
  | r :: rs, a, ha => by
    have hr : (Assoc.keys (a.over r).1.rules).Nodup := Assoc.nodup_keys_putAll ha r.1.rules
    rw [List.foldl_cons]
    exact nodup_foldl_over hr

theorem nodup_stack (rs : List Loaded) : (Assoc.keys (stack rs).1.rules).Nodup := by
  have hnil : (Assoc.keys (({}, {}) : Loaded).1.rules).Nodup := List.nodup_nil
  exact nodup_foldl_over hnil

theorem over_foldl : ∀ {rs : List Loaded} {b : Loaded}, (Assoc.keys b.1.rules).Nodup → ∀ a : Loaded,
    a.over (rs.foldl Loaded.over b) = rs.foldl Loaded.over (a.over b)
  | [], _, _, _ => rfl
  | r :: rs, b, hb, a => by
    have hr : (Assoc.keys (b.over r).1.rules).Nodup := Assoc.nodup_keys_putAll hb r.1.rules
    rw [List.foldl_cons, List.foldl_cons, over_foldl hr, over_over hb]

/-- A pile is put over something one by one. -/
theorem over_stack (a : Loaded) (rs : List Loaded) : a.over (stack rs) = rs.foldl Loaded.over a := by
  have hnil : (Assoc.keys (({}, {}) : Loaded).1.rules).Nodup := List.nodup_nil
  rw [stack, over_foldl hnil, over_empty]

/-! ## 3. Field by field -/

theorem rules_foldl_over (id : String) : ∀ {rs : List Loaded} (a : Loaded),
    (∀ r ∈ rs, (Assoc.keys r.1.rules).Nodup) →
      Assoc.get? id (rs.foldl Loaded.over a).1.rules =
        (rs.reverse.findSome? fun r => Assoc.get? id r.1.rules).or (Assoc.get? id a.1.rules)
  | [], _, _ => rfl
  | r :: rs, a, hrs => by
    have hr : Assoc.get? id (a.over r).1.rules = (Assoc.get? id r.1.rules).or (Assoc.get? id a.1.rules) :=
      Assoc.get?_putAll_of_nodup (hrs r List.mem_cons_self) a.1.rules id
    have hlast : ([r].findSome? fun r => Assoc.get? id r.1.rules) = Assoc.get? id r.1.rules := by
      rw [List.findSome?_cons]
      cases Assoc.get? id r.1.rules <;> rfl
    rw [List.foldl_cons, rules_foldl_over id (a.over r) fun r' hr' => hrs r' (List.mem_cons_of_mem r hr'), hr,
      List.reverse_cons, List.findSome?_append, hlast, Option.or_assoc]

theorem overrides_foldl_over : ∀ (rs : List Loaded) (a : Loaded),
    (rs.foldl Loaded.over a).1.overrides = a.1.overrides ++ rs.flatMap fun r => r.1.overrides
  | [], a => (List.append_nil a.1.overrides).symm
  | r :: rs, a => by
    have hr : (a.over r).1.overrides = a.1.overrides ++ r.1.overrides := rfl
    rw [List.foldl_cons, overrides_foldl_over rs, hr, List.flatMap_cons, List.append_assoc]

theorem ignorePatterns_foldl_over : ∀ (rs : List Loaded) (a : Loaded),
    (rs.foldl Loaded.over a).1.ignorePatterns =
      addPatterns a.1.ignorePatterns (rs.flatMap fun r => r.1.ignorePatterns)
  | [], _ => rfl
  | r :: rs, a => by
    have hr : (a.over r).1.ignorePatterns = addPatterns a.1.ignorePatterns r.1.ignorePatterns := rfl
    rw [List.foldl_cons, ignorePatterns_foldl_over rs, hr, List.flatMap_cons, addPatterns, addPatterns, addPatterns,
      List.foldl_append]

/-- **A single value** is that of the last one that sets it. -/
theorem scalar_foldl_over {γ : Type} {value : Config → γ} {sets : ScalarKeys → Bool}
    (hover : ∀ a b : Loaded, value (a.over b).1 = if sets b.2 then value b.1 else value a.1) :
    ∀ (rs : List Loaded) (a : Loaded), value (rs.foldl Loaded.over a).1 =
      ((rs.reverse.find? fun r => sets r.2).map fun r => value r.1).getD (value a.1)
  | [], _ => rfl
  | r :: rs, a => by
    rw [List.foldl_cons, scalar_foldl_over hover rs, hover, List.reverse_cons, List.find?_append]
    cases rs.reverse.find? fun r => sets r.2 with
    | some r' => rfl
    | none =>
      rw [Option.none_or, List.find?_cons]
      cases hr : sets r.2 <;> rfl

/-! ## 4. Files in post-order -/

/-- `PostOrder h ps L`: `L` lists the files that the paths `ps` lead to and those that they extend, each file behind
what it extends, in the order in which it is written.  A file comes as often as there are ways to it. -/
inductive PostOrder (h : Host) : List Path → List Path → Prop where
  /-- No paths. -/
  | nil : PostOrder h [] []
  /-- What the first file extends, that file, and the others. -/
  | cons {p f : Path} {ps A B : List Path} (resolved : h.resolve p = .ok f)
    (extended : PostOrder h (parentPaths h f) A) (rest : PostOrder h ps B) : PostOrder h (p :: ps) (A ++ f :: B)

variable {h : Host} {path f : Path} {ps L L' : List Path}

/-- There is one list at most. -/
theorem PostOrder.unique (hL : PostOrder h ps L) (hL' : PostOrder h ps L') : L = L' := by
  induction hL generalizing L' with
  | nil =>
    cases hL'
    rfl
  | cons hf _ _ ihA ihB =>
    cases hL' with
    | cons hf' hA hB =>
      obtain rfl := Except.ok.inj (hf.symm.trans hf')
      rw [ihA hA, ihB hB]

/-- Loaded as a list of files: something that it is put over cannot tell the two. -/
structure Listed (h : Host) (path : Path) (L : List Path) (r : Loaded) : Prop where
  order : PostOrder h [path] L
  sound : ∀ g ∈ L, Sound h g
  pile : ∀ a : Loaded, a.over r = (L.map (own h)).foldl Loaded.over a

/-- What is loaded of several files, each with its list. -/
theorem exists_postOrder_of_forall₂ {next : Path → Except Fault Loaded}
    (hnext : ∀ p r, next p = .ok r → ∃ L, Listed h p L r) : ∀ {ps : List Path} {rs : List Loaded},
      List.Forall₂ (fun p r => next p = .ok r) ps rs →
        ∃ A, PostOrder h ps A ∧ (∀ g ∈ A, Sound h g) ∧
          ∀ a : Loaded, rs.foldl Loaded.over a = (A.map (own h)).foldl Loaded.over a
  | [], _, hrs => by
    cases hrs
    exact ⟨[], .nil, nofun, fun _ => rfl⟩
  | p :: ps, _, hrs => by
    cases hrs with
    | cons hp hrs =>
      obtain ⟨L, hL⟩ := hnext p _ hp
      obtain ⟨B, hB, hsound, hfold⟩ := exists_postOrder_of_forall₂ hnext hrs
      cases hL.order with
      | @cons _ g _ A _ hg hA hnil =>
        cases hnil
        have hlist : A ++ g :: B = A ++ [g] ++ B := by rw [List.append_assoc, List.singleton_append]
        refine ⟨A ++ g :: B, .cons hg hA hB, fun q hq => ?_, fun a => ?_⟩
        · rw [hlist, List.mem_append] at hq
          rcases hq with hq | hq
          · exact hL.sound q hq
          · exact hsound q hq
        · rw [List.foldl_cons, hL.pile a, hfold, ← List.foldl_append, ← List.map_append, hlist]

/-- **What is loaded is a pile of files**, by induction on the depth of the calls. -/
theorem exists_listed_of_loadAux : ∀ (fuel : Nat) (path : Path) (chain : List Path) (r : Loaded),
    loadAux h .ample fuel path chain = .ok r → ∃ L, Listed h path L r ∧
      ∀ f, h.resolve path = .ok f → extension h f ≠ .null → r = stack (L.map (own h))
  | 0, _, _, _, hr => by cases hr
  | fuel + 1, path, chain, r, hr => by
    rw [loadAux_succ] at hr
    obtain ⟨f, hf, -, hs, rs, hrs, rfl⟩ := loadStep_eq_ok_iff.mp hr
    have hnext : ∀ p r, loadAux h .ample fuel p (chain ++ [f]) = .ok r → ∃ L, Listed h p L r := fun p r hp => by
      obtain ⟨L, hL, -⟩ := exists_listed_of_loadAux fuel p _ r hp
      exact ⟨L, hL⟩
    obtain ⟨A, hA, hsound, hfold⟩ := exists_postOrder_of_forall₂ hnext hrs
    refine ⟨A ++ [f], ⟨.cons hf hA .nil, fun g hg => ?_, fun a => ?_⟩, fun g hg hx => ?_⟩
    · rcases List.mem_append.mp hg with hg | hg
      · exact hsound g hg
      · rw [List.mem_singleton.mp hg]
        exact hs
    · rw [List.map_append, List.foldl_append, ← hfold]
      by_cases hnil : rs = []
      · rw [hnil, assembled_nil]
        rfl
      · rw [assembled_of_ne_nil h f hnil, over_over (nodup_stack rs), over_stack]
        rfl
    · obtain rfl := Except.ok.inj (hf.symm.trans hg)
      have hnil : rs ≠ [] := mt (eq_nil_iff_of_forall₂ hrs).mp (hs.extending.resolve_left hx)
      rw [assembled_of_ne_nil h f hnil, stack, stack, List.map_append, List.foldl_append, ← hfold]
      rfl

/-! ## 5. The rules of a file are distinct -/

theorem nodup_parseEntries {place : String} : ∀ {es : Entries} {acc rules : RuleSettings},
    (Assoc.keys acc).Nodup → parseEntries place acc es = .ok rules → (Assoc.keys rules).Nodup
  | [], acc, _, hacc, h => by
    cases h
    exact hacc
  | (k, v) :: es, acc, rules, hacc, h => by
    rw [parseEntries] at h
    split at h
    · cases h
    · rename_i rule _
      split at h
      · cases h
      · rename_i s _
        exact nodup_parseEntries (Assoc.nodup_keys_put hacc rule s) h

theorem nodup_parseRules {place : String} {v : Value} {rules : RuleSettings}
    (h : parseRules place v = .ok rules) : (Assoc.keys rules).Nodup := by
  unfold parseRules at h
  split at h
  · cases h
    exact List.nodup_nil
  · have hnil : (Assoc.keys ([] : RuleSettings)).Nodup := List.nodup_nil
    exact nodup_parseEntries hnil h
  · cases h

/-- No rule is set twice in what is read. -/
theorem nodup_parse {source : String} {v : Value} {c : Config} (h : parse source v = .ok c) :
    (Assoc.keys c.rules).Nodup := by
  unfold parse at h
  split at h
  · simp only [bind_eq_ok_iff] at h
    obtain ⟨_, -, _, -, rules, hrules, _, -, _, -, hc⟩ := h
    cases hc
    exact nodup_parseRules hrules
  · cases h

theorem Sound.nodup_own (hs : Sound h f) : (Assoc.keys (own h f).1.rules).Nodup :=
  nodup_parse (hs.parse_eq f.text)

/-! ## 6. What is loaded -/

/-- `c` is what the files of `L` come to, if each is put over those before it. -/
structure IsPile (h : Host) (L : List Path) (c : Config) : Prop where
  /-- One over the other, each with the single values that it sets by itself. -/
  merged : c = L.foldl (fun below f => below.merge (own h f).1 (ScalarKeys.ofFields (fields h f))) {}
  /-- A rule is set by the last file that mentions it. -/
  rules : ∀ id, Assoc.get? id c.rules = L.reverse.findSome? fun f => Assoc.get? id (own h f).1.rules
  /-- The overrides of all files, one after the other. -/
  overrides : c.overrides = L.flatMap fun f => (own h f).1.overrides
  /-- The patterns of all files, each where it comes first. -/
  ignorePatterns : c.ignorePatterns = (L.flatMap fun f => (own h f).1.ignorePatterns).eraseDups
  /-- The last file that says so decides whether unused directives are reported; they are by default. -/
  reportUnused : c.reportUnused =
    ((L.reverse.find? fun f => Entries.has "reportUnusedDisableDirectives" (fields h f)).map
      fun f => (own h f).1.reportUnused).getD true
  /-- The last file that says so decides on the limit, even if it says that there is none. -/
  maxWarnings : c.maxWarnings =
    ((L.reverse.find? fun f => Entries.has "maxWarnings" (fields h f)).map
      fun f => (own h f).1.maxWarnings).getD none

theorem fst_foldl_over (h : Host) : ∀ (L : List Path) (a : Loaded),
    ((L.map (own h)).foldl Loaded.over a).1 =
      L.foldl (fun below f => below.merge (own h f).1 (ScalarKeys.ofFields (fields h f))) a.1
  | [], _ => rfl
  | f :: L, a => by
    rw [List.map_cons, List.foldl_cons, fst_foldl_over h L]
    rfl

/-- A pile of files, field by field. -/
theorem isPile_stack (hL : ∀ g ∈ L, Sound h g) : IsPile h L (stack (L.map (own h))).1 := by
  have hnodup : ∀ r ∈ L.map (own h), (Assoc.keys r.1.rules).Nodup := fun r hr => by
    obtain ⟨g, hg, rfl⟩ := List.mem_map.mp hr
    exact (hL g hg).nodup_own
  constructor
  · rw [stack, fst_foldl_over]
  · intro id
    rw [stack, rules_foldl_over id _ hnodup, ← List.map_reverse, List.findSome?_map]
    exact Option.or_none
  · rw [stack, overrides_foldl_over, List.flatMap_map]
    rfl
  · rw [stack, ignorePatterns_foldl_over, List.flatMap_map]
    exact addPatterns_nil_left _
  · have hover : ∀ a b : Loaded, (a.over b).1.reportUnused =
        if b.2.reportUnused then b.1.reportUnused else a.1.reportUnused := fun _ _ => rfl
    rw [stack, scalar_foldl_over hover, ← List.map_reverse, List.find?_map, Option.map_map]
    rfl
  · have hover : ∀ a b : Loaded, (a.over b).1.maxWarnings =
        if b.2.maxWarnings then b.1.maxWarnings else a.1.maxWarnings := fun _ _ => rfl
    rw [stack, scalar_foldl_over hover, ← List.map_reverse, List.find?_map, Option.map_map]
    rfl

/-- **A configuration that extends others is the pile of its files.**  There is one list of them in post-order; all
of them are sound, and what is loaded is what they come to one over the other, whatever was merged on the way. -/
theorem load_eq_pile {c : Config} (hf : h.resolve path = .ok f) (hx : extension h f ≠ .null)
    (hl : load h path = .ok c) :
    ∃ L, (∀ L', PostOrder h [path] L' ↔ L' = L) ∧ (∀ g ∈ L, Sound h g) ∧ IsPile h L c := by
  unfold load at hl
  cases hr : loadAux h .ample (h.tree.length + 2) path [] with
  | error e =>
    rw [hr] at hl
    cases hl
  | ok r =>
    rw [hr] at hl
    cases hl
    obtain ⟨L, hL, hstack⟩ := exists_listed_of_loadAux _ path [] r hr
    refine ⟨L, fun L' => ⟨fun hL' => hL'.unique hL.order, ?_⟩, hL.sound, ?_⟩
    · rintro rfl
      exact hL.order
    · rw [hstack f hf hx]
      exact isPile_stack hL.sound

/-- Patterns that come in on two ways are there once, and the limit that is set at the bottom is lifted by a null at
the top. -/
theorem load_diamond :
    diamond.resolve (.ofString "a.json") = .ok ⟨1, ["a.json"]⟩ ∧ extension diamond ⟨1, ["a.json"]⟩ ≠ .null ∧
      ∃ c, load diamond (.ofString "a.json") = .ok c ∧ c.ignorePatterns = ["x", "y"] ∧ c.maxWarnings = none ∧
        ∃ L, (∀ L', PostOrder diamond [.ofString "a.json"] L' ↔ L' = L) ∧ (∀ g ∈ L, Sound diamond g) ∧
          IsPile diamond L c := by
  have hf : diamond.resolve (.ofString "a.json") = .ok ⟨1, ["a.json"]⟩ := by decide +kernel
  have hx : extension diamond ⟨1, ["a.json"]⟩ ≠ .null := fun hnull => by
    have hentries : (entries diamond ⟨1, ["a.json"]⟩).isEmpty = false := by decide +kernel
    rw [entries_of_null hnull] at hentries
    cases hentries
  obtain ⟨c, hc, hvalues⟩ := Option.map_eq_some_iff.mp load_diamond_shows
  rw [Prod.mk.injEq] at hvalues
  have hl := eq_ok_of_toOption hc
  exact ⟨hf, hx, c, hl, hvalues.1, hvalues.2, load_eq_pile hf hx hl⟩

end Config

end AgentLint
