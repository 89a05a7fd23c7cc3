import AgentLint.Proofs.Rule.Parts
import AgentLint.Proofs.Rule.Records
import AgentLint.Proofs.Text.Naming

/-!
# Names that rules accept

Two rules check names: one the names of environment variables, the other one the name of a skill, which has to be that
of its directory too.  What such a check reports depends neither on the views that are there nor on what was reported
before, so it can be told as a list (`Check.Gives`).

The rules accept the names of their form, and these with one line feed after them and nothing else (`names_accepted`).
-/

namespace AgentLint

/-! ## 1. What a check reports -/

namespace Check

variable {content : String} {α β γ : Type} {m : Check content α} {x : Except Fault α} {rs : List Report}

/-- The check ends with the outcome and adds the reports, whatever it starts from, where nobody has changed the fields
of the header; and it does not change them. -/
def Gives (m : Check content α) (x : Except Fault α) (rs : List Report) : Prop :=
  ∀ t, t.fields? = none →
    (exec m t).1 = x ∧ (exec m t).2.reports = t.reports ++ rs ∧ (exec m t).2.fields? = none

namespace Gives

theorem pure (a : α) : Gives (Pure.pure a : Check content α) (.ok a) [] :=
  fun t ht => ⟨rfl, (List.append_nil t.reports).symm, ht⟩

theorem report (r : Report) : Gives (Check.report r : Check content Unit) (.ok ()) [r] :=
  fun _ ht => ⟨rfl, rfl, ht⟩

theorem frontmatter {f : Frontmatter} (h : Frontmatter.read content = .ok f) :
    Gives (Check.frontmatter : Check content Frontmatter) (.ok f) [] := by
  intro t ht
  have hlike := like_frontmatter t
  refine ⟨?_, hlike.reports.trans (List.append_nil t.reports).symm, hlike.fields.trans ht⟩
  have hseen : t.seen f = f := by rw [Shared.seen, ht]
  rw [exec_frontmatter_fst, h, Except.map, hseen]
  rfl

theorem shown {v : Value} : Gives (Check.shown v : Check content String)
    (if v.isShowable then .ok v.display else .error .unshowable) [] := by
  unfold Check.shown Value.display?
  cases v.isShowable with
  | true => exact pure v.display
  | false => exact fun t ht => ⟨rfl, (List.append_nil t.reports).symm, ht⟩

theorem bind_ok {k : α → Check content β} {a : α} {y : Except Fault β} {ss : List Report} (hm : Gives m (.ok a) rs)
    (hk : Gives (k a) y ss) : Gives (m >>= k) y (rs ++ ss) := by
  intro t ht
  obtain ⟨hend, hreports, hfields⟩ := hm t ht
  rw [exec_bind]
  cases hrun : exec m t with
  | mk r u =>
    rw [hrun] at hend hreports hfields
    obtain rfl : r = .ok a := hend
    obtain ⟨hend', hreports', hfields'⟩ := hk u hfields
    exact ⟨hend', by rw [hreports', hreports, List.append_assoc], hfields'⟩

theorem bind_error {k : α → Check content β} {e : Fault} (hm : Gives m (.error e) rs) :
    Gives (m >>= k) (.error e) rs := by
  intro t ht
  obtain ⟨hend, hafter⟩ := hm t ht
  rw [exec_bind]
  cases hrun : exec m t with
  | mk r u =>
    rw [hrun] at hend hafter
    obtain rfl : r = .error e := hend
    exact ⟨rfl, hafter⟩

theorem ite {p : Prop} [Decidable p] {n : Check content α} {ss : List Report} (hm : p → Gives m x rs)
    (hn : ¬ p → Gives n x ss) : Gives (if p then m else n) x (if p then rs else ss) := by
  split
  · exact hm ‹p›
  · exact hn ‹¬ p›

theorem exists_bind {k : α → Check content β} {a : α} {y : Except Fault β} {P : List Report → Prop}
    (hm : Gives m (.ok a) []) (hk : ∃ ss, Gives (k a) y ss ∧ P ss) : ∃ ss, Gives (m >>= k) y ss ∧ P ss :=
  let ⟨ss, hss, hP⟩ := hk
  ⟨ss, hm.bind_ok hss, hP⟩

/-- A check of many things reports what it reports on each of them, in order. -/
theorem forM {f : γ → Check content Unit} {g : γ → List Report} : ∀ {xs : List γ},
    (∀ x ∈ xs, Gives (f x) (.ok ()) (g x)) → Gives (xs.forM f) (.ok ()) (xs.flatMap g)
  | [], _ => pure ()
  | x :: _, h => (h x List.mem_cons_self).bind_ok (forM fun y hy => h y (List.mem_cons_of_mem x hy))

end Gives

end Check

/-- A rule ends and reports as its check does. -/
theorem Rule.run_of_gives {rule : Rule} {c : Context} {x : Except Fault Unit} {rs : List Report}
    (h : Check.Gives (rule.check c) x rs) (views : Views c.content) :
    (rule.run c views).1 = x ∧ (rule.run c views).2.reports = rs := by
  obtain ⟨hend, hreports, -⟩ := h ⟨⟨views, none⟩, []⟩ rfl
  exact ⟨hend, hreports⟩

namespace Builtin

open Check Json Text

/-! ## 2. Names of environment variables -/

/-- The report about the name of an environment variable. -/
def namingReport (key : String) : Report where
  message := "Environment variable name should be uppercase with underscores: " ++ key

/-- The report about an environment variable without value. -/
def emptyReport (key : String) : Report where
  message := "Empty value for environment variable: " ++ key

/-- The report about a secret that is written out. -/
def secretReport (key : String) : Report where
  message := "Possible hardcoded secret in environment variable: " ++ key
  howToFix := some "Reference the value with $\x7bVAR\x7d expansion instead"

/-- The reports about the value of an environment variable. -/
def valueReports (key : String) (value : Value) : List Report :=
  match filled? value with
  | none => [emptyReport key]
  | some s => if looksSecret key s then [secretReport key] else []

/-- The reports about an environment variable. -/
def settingReports (key : String) (value : Value) : List Report :=
  (if isConstantName key.toList then [] else [namingReport key]) ++ valueReports key value

theorem gives_checkSetting {content : String} (key : String) (value : Value) :
    Gives (checkSetting key value : Check content Unit) (.ok ()) (settingReports key value) := by
  unfold checkSetting settingReports valueReports
  -- The value is looked at with or without a report on the name.
  cases filled? value with
  | none =>
    cases isConstantName key.toList with
    | true => exact Gives.report _
    | false => exact (Gives.report _).bind_ok (Gives.report _)
  | some s =>
    have hsecret : Gives (if looksSecret key s then Check.report (secretReport key) else pure () : Check content Unit)
        (.ok ()) (if looksSecret key s then [secretReport key] else []) :=
      .ite (fun _ => .report _) fun _ => .pure ()
    cases isConstantName key.toList with
    | true => exact hsecret
    | false => exact (Gives.report _).bind_ok hsecret

theorem gives_checkSettings {c : Context} {v : Value} {env : Entries} (hread : Json.read c.content = .ok v)
    (henv : Entries.get "env" (v.map?.getD []) = .map env) :
    Gives (checkSettings c) (.ok ()) (env.flatMap fun e => settingReports (keyOf e) e.2) := by
  have hfields : Gives (fieldsOf c) (.ok (v.map?.getD [])) [] := by
    unfold fieldsOf
    rw [hread]
    exact Gives.pure _
  have hloop : Gives (env.forM fun e => checkSetting (keyOf e) e.2 : Check c.content Unit) (.ok ())
      (env.flatMap fun e => settingReports (keyOf e) e.2) := Gives.forM fun e _ => gives_checkSetting (keyOf e) e.2
  refine hfields.bind_ok ?_
  rw [henv]
  exact hloop

theorem message_namingReport_inj {key other : String} :
    (namingReport key).message = (namingReport other).message ↔ key = other := String.append_right_inj _

/-- No report about a value can be taken for one about a name. -/
theorem message_ne_of_mem_valueReports {key other : String} {value : Value} {r : Report}
    (h : r ∈ valueReports key value) : r.message ≠ (namingReport other).message := by
  have hsecond : ∀ {s t : String}, 1 < s.toList.length → (s ++ t).toList[1]? = s.toList[1]? := fun {s t} hs => by
    rw [String.toList_append, List.getElem?_append_left hs]
  have hnaming : (namingReport other).message.toList[1]? = some 'n' := hsecond (by decide)
  intro heq
  rw [← heq] at hnaming
  unfold valueReports at h
  split at h
  · obtain rfl := List.mem_singleton.mp h
    exact absurd ((hsecond (by decide)).symm.trans hnaming) (by decide)
  · split at h
    · obtain rfl := List.mem_singleton.mp h
      exact absurd ((hsecond (by decide)).symm.trans hnaming) (by decide)
    · cases h

/-- **A name is reported** if it is that of a variable and the check does not accept it. -/
theorem naming_reported_iff {env : Entries} {key : String} :
    (∃ r ∈ env.flatMap fun e => settingReports (keyOf e) e.2, r.message = (namingReport key).message) ↔
      (∃ e ∈ env, keyOf e = key) ∧ isConstantName key.toList = false := by
  constructor
  · rintro ⟨r, hr, hmessage⟩
    obtain ⟨e, he, hr⟩ := List.mem_flatMap.mp hr
    rcases List.mem_append.mp hr with hname | hvalue
    · split at hname
      · cases hname
      · rename_i hconstant
        obtain rfl := List.mem_singleton.mp hname
        obtain rfl := message_namingReport_inj.mp hmessage
        exact ⟨⟨e, he, rfl⟩, Bool.eq_false_iff.mpr hconstant⟩
    · exact absurd hmessage (message_ne_of_mem_valueReports hvalue)
  · rintro ⟨⟨e, he, rfl⟩, hconstant⟩
    refine ⟨namingReport (keyOf e), List.mem_flatMap.mpr ⟨e, he, ?_⟩, rfl⟩
    rw [settingReports, hconstant]
    exact List.mem_append_left _ (List.mem_singleton_self _)

/-- The keys of settings are texts. -/
theorem keyOf_eq_iff_of_read {c : Context} {v : Value} {env : Entries} (hread : Json.read c.content = .ok v)
    (henv : Entries.get "env" (v.map?.getD []) = .map env) {e : Value × Value} (he : e ∈ env) {key : String} :
    keyOf e = key ↔ e.1 = .text key := by
  have hdocument : Json.IsDocument (.map env) :=
    henv ▸ Json.IsDocument.get (Json.isDocument_of_read hread).of_mem_map? "env"
  cases hdocument with
  | map hkeys _ =>
    obtain ⟨k, hk⟩ := hkeys e he
    rw [keyOf, hk, Value.display, Value.text.injEq]

/-! ## 3. Names of skills -/

/-- A value is a text of a form, and the name of the directory if that has one. -/
def MayName (form : List Char → Prop) (directory : String) (name : Value) : Prop :=
  ∃ s, name = .text s ∧ form s.toList ∧ (directory = "" ∨ s = directory)

theorem isSkillName_iff {name : Value} :
    isSkillName name = true ↔ ∃ s, name = .text s ∧ UpToLineFeed IsKebab s.toList := by
  cases name with
  | text s => simp [isSkillName, isHyphenated_iff]
  | _ => simp [isSkillName]

/-- The empty text is no name. -/
theorem truthy_of_kebab {s : String} (h : UpToLineFeed IsKebab s.toList) : (Value.text s).truthy = true := by
  rw [Value.truthy, Bool.not_eq_true', String.isEmpty_eq_false_iff]
  rintro rfl
  exact absurd (isHyphenated_iff.mpr h) (by decide)

/-- Only what counts as true holds integers that cannot be shown. -/
theorem isShowable_of_not_truthy {v : Value} (h : v.truthy = false) : v.isShowable = true := by
  cases v with
  | int n =>
    obtain rfl : n = 0 := by simpa [Value.truthy] using h
    have hzero := Json.isUnwritable_of_lt (n := 0) (Nat.pow_pos (by decide))
    rw [Value.isShowable, hzero]
    rfl
  | list vs | set vs =>
    obtain rfl : vs = [] := by simpa [Value.truthy] using h
    rfl
  | map es =>
    obtain rfl : es = [] := by simpa [Value.truthy] using h
    rfl
  | pair => cases h
  | _ => rfl

/-- **The name of a skill** is reported unless it is one, or holds an integer that cannot be shown; then showing it
ends the check. -/
theorem gives_checkSkillName {c : Context} {f : Frontmatter} {fields : Entries} {name : Value}
    (hfile : isSkillFile c = true) (hread : Frontmatter.read c.content = .ok f) (hfields : f.data? = some fields)
    (hname : Entries.get "name" fields = name) :
    ∃ rs, Gives (checkSkillName c) (if name.isShowable then .ok () else .error .unshowable) rs ∧
      (rs = [] ↔ name.isShowable = false ∨
        MayName (UpToLineFeed IsKebab) (Path.ofString c.path).parent.name name) := by
  have hskill : Gives (skillFields c) (.ok (some fields)) [] := by
    unfold skillFields
    rw [hfile]
    exact hfields ▸ (Gives.frontmatter hread).bind_ok (Gives.pure f.data?)
  refine Gives.exists_bind hskill ?_
  dsimp only
  rw [hname]
  generalize (Path.ofString c.path).parent.name = directory
  cases hform : isSkillName name with
  | false =>
    have hnot : ¬ MayName (UpToLineFeed IsKebab) directory name := fun ⟨s, hs, hkebab, _⟩ =>
      Bool.eq_false_iff.mp hform (isSkillName_iff.mpr ⟨s, hs, hkebab⟩)
    cases htruthy : name.truthy with
    | false =>
      rw [isShowable_of_not_truthy htruthy]
      exact ⟨[_], .report _, by simp [hnot]⟩
    | true =>
      have hshown : Gives (Check.shown name : Check c.content String)
          (if name.isShowable then .ok name.display else .error .unshowable) [] := Gives.shown
      cases hshow : name.isShowable with
      | false => exact ⟨[], (hshow ▸ hshown).bind_error, by simp⟩
      | true => exact ⟨[_], (hshow ▸ hshown).bind_ok (.report _), by simp [hnot]⟩
  | true =>
    obtain ⟨s, rfl, hkebab⟩ := isSkillName_iff.mp hform
    have htruthy : (Value.text s).truthy = true := truthy_of_kebab hkebab
    rw [htruthy]
    have hmay : MayName (UpToLineFeed IsKebab) directory (.text s) ↔
        (!directory.isEmpty && (Value.text s).display ≠ directory) = false := by
      rw [Bool.and_eq_false_iff, Bool.not_eq_false', String.isEmpty_iff, decide_eq_false_iff_not, not_not]
      simp [MayName, hkebab, Value.display]
    rw [hmay]
    cases !directory.isEmpty && (Value.text s).display ≠ directory with
    | true => exact ⟨[_], .report _, by simp [Value.isShowable]⟩
    | false => exact ⟨[], .pure (), by simp⟩

/-- A skill has the fields that are read from its text. -/
theorem fields_of_alike {content : String} {fields : Entries}
    (h : ((Frontmatter.read content).toOption.bind Frontmatter.data?).any (alikeEntries fields) = true) :
    ∃ f, Frontmatter.read content = .ok f ∧ f.data? = some fields := by
  obtain ⟨es, hes, hsame⟩ := (Option.any_eq_true _ _).mp h
  obtain ⟨f, hf, hdata⟩ := Option.bind_eq_some_iff.mp hes
  exact ⟨f, eq_ok_of_toOption hf, eq_of_alikeEntries hsame ▸ hdata⟩

/-! ## 4. Both rules -/

theorem mem_rules_of_settings {rule : Rule} (hrule : rule ∈ settingRules) : rule ∈ rules :=
  mem_rules_of_records (List.mem_append_right _ hrule)

theorem mem_rules_of_skills {rule : Rule} (hrule : rule ∈ skillRules) : rule ∈ rules := by
  simp only [rules, List.mem_append]
  exact .inl (.inl (.inl (.inr hrule)))

/-- **Names that are accepted.**  For settings with environment variables the rule ends well, and it reports the name
of a variable exactly if that is no name of the form, nor one with a line feed after it.  For a skill with fields the
rule reports nothing exactly if its name is one of the form, or one with a line feed after it, and that of the directory
if there is a directory; only a name that cannot be shown ends the rule, without a report. -/
theorem names_accepted {rule : Rule} (hrule : rule ∈ rules) (c : Context) (views : Views c.content) :
    (rule.info.id = "settings-invalid-env-var" → ∀ (v : Value) (env : Entries), Json.read c.content = .ok v →
      Entries.get "env" (v.map?.getD []) = .map env →
        (rule.run c views).1 = .ok () ∧
        ∀ key, (∃ r ∈ (rule.run c views).2.reports,
            r.message = "Environment variable name should be uppercase with underscores: " ++ key) ↔
          (∃ e ∈ env, e.1 = .text key) ∧ ¬ UpToLineFeed IsConstant key.toList) ∧
    (rule.info.id = "skill-name" → ∀ (f : Frontmatter) (fields : Entries), (Path.ofString c.path).name = "SKILL.md" →
      Frontmatter.read c.content = .ok f → f.data? = some fields →
        let name := Entries.get "name" fields
        let directory := (Path.ofString c.path).parent.name
        (rule.run c views).1 = (if name.isShowable then .ok () else .error .unshowable) ∧
        ((rule.run c views).2.reports = [] ↔
          name.isShowable = false ∨ MayName (UpToLineFeed IsKebab) directory name)) := by
  constructor
  · intro hid v env hread henv
    have hmem : settingRules[1] ∈ rules := mem_rules_of_settings (List.getElem_mem _)
    obtain rfl := eq_of_id_eq hrule hmem hid
    have hgives : Gives (settingRules[1].check c) (.ok ()) _ := gives_checkSettings hread henv
    obtain ⟨hend, hreports⟩ := Rule.run_of_gives hgives views
    refine ⟨hend, fun key => ?_⟩
    have hkeys : (∃ e ∈ env, keyOf e = key) ↔ ∃ e ∈ env, e.1 = .text key :=
      exists_congr fun e => and_congr_right fun he => keyOf_eq_iff_of_read hread henv he
    rw [hreports, ← isConstantName_iff, Bool.not_eq_true, ← hkeys]
    exact naming_reported_iff
  · intro hid f fields hfile hread hfields
    have hmem : skillRules[1] ∈ rules := mem_rules_of_skills (List.getElem_mem _)
    obtain rfl := eq_of_id_eq hrule hmem hid
    obtain ⟨rs, hgives, hsilent⟩ := gives_checkSkillName (decide_eq_true hfile) hread hfields rfl
    have hgives' : Gives (skillRules[1].check c) _ rs := hgives
    obtain ⟨hend, hreports⟩ := Rule.run_of_gives hgives' views
    exact ⟨hend, hreports ▸ hsilent⟩

/-- A name in small letters is reported for a variable, and accepted for a skill in a directory of that name. -/
theorem names_accepted_small :
    let host : Host := ⟨[], [], "/", [], 0⟩
    let settings := settingRules[1]
    let skill := skillRules[1]
    let c : Context := ⟨settings.info.id, "settings.json", "\x7b\"env\": \x7b\"deploy\": \"x\"\x7d\x7d", [], host⟩
    let d : Context := ⟨skill.info.id, "deploy/SKILL.md", "---\nname: deploy\n---\n", [], host⟩
    let env : Entries := [(.text "deploy", .text "x")]
    settings ∈ rules ∧ skill ∈ rules ∧ Json.read c.content = .ok (.map [(.text "env", .map env)]) ∧
      (∃ f, Frontmatter.read d.content = .ok f ∧ f.data? = some [(.text "name", .text "deploy")]) ∧
      (∃ r ∈ (settings.run c .unread).2.reports,
        r.message = "Environment variable name should be uppercase with underscores: deploy") ∧
      (skill.run d .unread).1 = .ok () ∧ (skill.run d .unread).2.reports = [] := by
  intro host settings skill c d env
  have hsettings : settings ∈ rules := mem_rules_of_settings (List.getElem_mem _)
  have hskill : skill ∈ rules := mem_rules_of_skills (List.getElem_mem _)
  have hread : Json.read c.content = .ok (.map [(.text "env", .map env)]) := read_of_alike (by decide +kernel)
  have hfields : ∃ f, Frontmatter.read d.content = .ok f ∧ f.data? = some [(.text "name", .text "deploy")] :=
    fields_of_alike (by decide +kernel)
  have hreported := ((names_accepted hsettings c .unread).1 rfl _ env hread rfl).2 "deploy"
  obtain ⟨f, hf, hdata⟩ := hfields
  obtain ⟨hend, hsilent⟩ := (names_accepted hskill d .unread).2 rfl f _ (by decide) hf hdata
  refine ⟨hsettings, hskill, hread, ⟨f, hf, hdata⟩, hreported.mpr ⟨⟨_, List.mem_cons_self, rfl⟩, ?_⟩, hend, ?_⟩
  · rw [← isConstantName_iff]
    decide
  · exact hsilent.mpr (.inr ⟨"deploy", rfl, isHyphenated_iff.mp (by decide), .inr (by decide)⟩)

/-- **A line feed after a name goes unreported.**  Neither the variable nor the skill has a name of its form here, and
nothing is reported. -/
theorem line_feed_unreported :
    let host : Host := ⟨[], [], "/", [], 0⟩
    let settings := settingRules[1]
    let skill := skillRules[1]
    let c : Context := ⟨settings.info.id, "settings.json", "\x7b\"env\": \x7b\"A\\n\": \"x\"\x7d\x7d", [], host⟩
    let d : Context := ⟨skill.info.id, "SKILL.md", "---\nname: \"deploy\\n\"\n---\n", [], host⟩
    Json.read c.content = .ok (.map [(.text "env", .map [(.text "A\n", .text "x")])]) ∧
      ¬ IsConstant "A\n".toList ∧ (settings.run c .unread).2.reports = [] ∧
      (Path.ofString d.path).name = "SKILL.md" ∧
      (∃ f, Frontmatter.read d.content = .ok f ∧ f.data? = some [(.text "name", .text "deploy\n")]) ∧
      ¬ MayName IsKebab (Path.ofString d.path).parent.name (.text "deploy\n") ∧
      (skill.run d .unread).1 = .ok () ∧ (skill.run d .unread).2.reports = [] := by
  intro host settings skill c d
  have hname : ¬ MayName IsKebab (Path.ofString d.path).parent.name (.text "deploy\n") := by
    rintro ⟨s, hs, hkebab, -⟩
    cases hs
    exact hkebab.no_feed (by decide)
  obtain ⟨f, hf, hdata⟩ : ∃ f, Frontmatter.read d.content = .ok f ∧ f.data? = some [(.text "name", .text "deploy\n")] :=
    fields_of_alike (by decide +kernel)
  obtain ⟨rs, hgives, hsilent⟩ := gives_checkSkillName (c := d) (by decide) hf hdata rfl
  have hskill : Gives (skill.check d) _ rs := hgives
  obtain ⟨hend, hreports⟩ := Rule.run_of_gives hskill .unread
  have hnone : rs = [] := hsilent.mpr (.inr ⟨"deploy\n", rfl, isHyphenated_iff.mp (by decide), .inl (by decide)⟩)
  exact ⟨read_of_alike (by decide +kernel), fun h => h.no_feed (by decide), by decide +kernel, by decide,
    ⟨f, hf, hdata⟩, hname, hend, hreports.trans hnone⟩

end Builtin

end AgentLint
