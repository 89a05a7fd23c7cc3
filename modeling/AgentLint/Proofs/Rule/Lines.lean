import AgentLint.Proofs.Markdown.Blocks
import AgentLint.Proofs.Markdown.Numbering
import AgentLint.Proofs.Rule.Imports
import AgentLint.Proofs.Rule.Parts

/-!
# The lines that reports name

A report may name a line, and a directive on that line or above it is to cover the report.  So the number has to be
that of a line of the text.  The built-in rules get their numbers from four places: the lines inside blocks, the lines
of the text without code, the lines of a header that was cut out, and the first line of a text, which is always there.
All four number the lines of the text as it is (`hasAtSign_of_mem_tokens`, `hasAtSign_of_mem_imports`,
`onLine_fieldLine`), so no built-in rule names a line that is not there (`line_of_report`).  Where imports are looked
for there is an at sign on the line.
-/

namespace AgentLint

open Text

/-! ## 1. Lines with an at sign -/

namespace Text

theorem splitWhere_cons (stop : Char → Bool) (c : Char) (cs : List Char) : splitWhere stop (c :: cs) =
    if stop c then [] :: splitWhere stop cs else (splitWhere stop cs).modifyHead (c :: ·) := by
  unfold splitWhere splitStep
  rw [List.foldr_cons]
  split <;> rfl

/-- The pieces of a split hold characters of the text. -/
theorem subset_of_mem_splitWhere {stop : Char → Bool} : ∀ {cs p : List Char}, p ∈ splitWhere stop cs → p ⊆ cs
  | [], p, h => by
    obtain rfl := List.mem_singleton.mp h
    exact List.Subset.refl _
  | c :: cs, p, h => by
    rw [splitWhere_cons] at h
    split at h
    · rcases List.mem_cons.mp h with rfl | h
      · exact List.nil_subset _
      · exact List.subset_cons_of_subset c (subset_of_mem_splitWhere h)
    · cases hs : splitWhere stop cs with
      | nil => simp [hs] at h
      | cons q qs =>
        have hall : ∀ q' ∈ q :: qs, q' ⊆ cs := fun q' hq' => subset_of_mem_splitWhere (hs ▸ hq')
        rw [hs, List.modifyHead_cons] at h
        rcases List.mem_cons.mp h with rfl | h
        · exact List.cons_subset_cons c (hall q List.mem_cons_self)
        · exact List.subset_cons_of_subset c (hall p (List.mem_cons_of_mem q h))

/-- The words of a line hold characters of the line. -/
theorem subset_of_mem_words {cs w : List Char} (h : w ∈ words cs) : w ⊆ cs :=
  subset_of_mem_splitWhere (List.mem_of_mem_filter h)

end Text

namespace Markdown

variable {content : String} {line : List Char} {n : Nat}

/-- Joining pieces between backticks brings in nothing but backticks. -/
theorem mem_of_mem_dropPaired {c : Char} {ps : List (List Char)} (h : c ∈ dropPaired ps) :
    c = '`' ∨ ∃ p ∈ ps, c ∈ p := by
  fun_induction dropPaired ps with
  | case1 => cases h
  | case2 p => exact .inr ⟨p, List.mem_cons_self, h⟩
  | case3 p q =>
    rcases List.mem_append.mp h with h | h
    · exact .inr ⟨p, List.mem_cons_self, h⟩
    · exact (List.mem_cons.mp h).imp_right fun h => ⟨q, List.mem_cons_of_mem p List.mem_cons_self, h⟩
  | case4 p q r rest ih =>
    rcases List.mem_append.mp h with h | h
    · exact .inr ⟨p, List.mem_cons_self, h⟩
    · exact (ih h).imp_right fun ⟨p', hp', h⟩ => ⟨p', List.mem_cons_of_mem p (List.mem_cons_of_mem q hp'), h⟩

theorem at_mem_of_imported? {w : List Char} {path : String} (h : imported? w = some path) : '@' ∈ w := by
  unfold imported? at h
  split at h
  · exact List.mem_cons_self
  · cases h

/-- A line with a role is a line of the text, by the same number. -/
theorem numbered_of_roles {role : Role} {k : Nat} (h : (roles content.toList)[k]? = some (role, line)) :
    (k + 1, line) ∈ numberFrom 1 (splitLines content.toList) := by
  refine mem_numberFrom_one_iff.mpr ⟨k, rfl, ?_⟩
  rw [← map_snd_rolesFrom none (splitLines content.toList), List.getElem?_map]
  exact congrArg (Option.map Prod.snd) h

/-- The line of a number has an at sign. -/
def HasAtSign (content : String) (n : Nat) : Prop :=
  ∃ line, (n, line) ∈ numberFrom 1 (splitLines content.toList) ∧ '@' ∈ line

/-- **An import** stands on a line with an at sign. -/
theorem hasAtSign_of_mem_imports {i : Import} (hi : i ∈ imports content) : HasAtSign content i.line := by
  obtain ⟨⟨n, line⟩, hline, himport⟩ := List.mem_flatMap.mp hi
  obtain ⟨path, hpath, rfl⟩ := List.mem_map.mp himport
  obtain ⟨w, hw, hfound⟩ := List.mem_filterMap.mp hpath
  have hat : '@' ∈ line := by
    rcases mem_of_mem_dropPaired (subset_of_mem_words hw (at_mem_of_imported? hfound)) with h | ⟨p, hp, h⟩
    · exact absurd h (by decide)
    · exact (infix_of_mem_splitOn hp).subset h
  obtain ⟨k, rfl, hget⟩ := mem_numberFrom_one_iff.mp hline
  rw [splitLines_withoutCode, proseLines_eq, List.getElem?_map, Option.map_eq_some_iff] at hget
  obtain ⟨⟨role, original⟩, hrole, rfl⟩ := hget
  by_cases hprose : role = .prose
  · rw [if_pos hprose] at hat
    exact ⟨original, numbered_of_roles hrole, hat⟩
  · rw [if_neg hprose] at hat
    cases hat

/-- **What looks like an import inside a block** stands on a line with an at sign. -/
theorem hasAtSign_of_mem_tokens {text path : String} (hcode : (n, text) ∈ codeLines content)
    (hpath : path ∈ tokens text) : HasAtSign content n := by
  obtain ⟨k, line, rfl, hrole, rfl⟩ := mem_codeLines_iff.mp hcode
  obtain ⟨w, hw, hfound⟩ := List.mem_filterMap.mp hpath
  rw [String.toList_ofList] at hw
  refine ⟨line, numbered_of_roles hrole, subset_of_mem_words hw ?_⟩
  exact (List.dropWhile_suffix _).subset (at_mem_of_imported? hfound)

/-- A numbered line is one of those that are counted. -/
theorem le_lineCount_of_numbered (h : (n, line) ∈ numberFrom 1 (splitLines content.toList)) :
    1 ≤ n ∧ n ≤ lineCount content := by
  obtain ⟨i, rfl, hget⟩ := mem_numberFrom_one_iff.mp h
  exact ⟨Nat.le_add_left 1 i, (List.getElem?_eq_some_iff.mp hget).1⟩

/-- Every text has a first line. -/
theorem one_le_lineCount (content : String) : 1 ≤ lineCount content :=
  List.length_pos_of_ne_nil (splitOn_ne_nil _ _)

end Markdown

/-! ## 2. Reports on lines -/

/-- A report names no line, or one of the lines of the text. -/
def Report.OnLine (content : String) (r : Report) : Prop :=
  r.line = none ∨ ∃ n : Nat, r.line = some n ∧ 1 ≤ n ∧ n ≤ Markdown.lineCount content

/-- A report names a line of the text with an at sign. -/
def Report.OnAtSign (content : String) (r : Report) : Prop :=
  ∃ n : Nat, r.line = some n ∧ Markdown.HasAtSign content n

namespace Builtin

open Check Report

variable {content : String} {r : Report}

theorem onLine_of_none (h : r.line = none) : r.OnLine content := .inl h

theorem onLine_first (h : r.line = some 1) : r.OnLine content :=
  .inr ⟨1, h, le_rfl, Markdown.one_le_lineCount content⟩

theorem onLine_of_onAtSign (h : r.OnAtSign content) : r.OnLine content := by
  obtain ⟨n, hn, line, hline, -⟩ := h
  exact .inr ⟨n, hn, Markdown.le_lineCount_of_numbered hline⟩

/-- **The line of a field** of the frontmatter, if it has one. -/
theorem onLine_fieldLine {c : Context} {key : String} (h : r.line = fieldLine c key) : r.OnLine c.content := by
  unfold fieldLine at h
  cases hfield : Frontmatter.fieldLine? c.content key with
  | none => exact .inl (h.trans (by rw [hfield]; rfl))
  | some n =>
    obtain ⟨⟨-, -, -, -, line, hline, -⟩, -⟩ := Frontmatter.fieldLine?_eq_some_iff.mp hfield
    exact .inr ⟨n, h.trans (by rw [hfield]; rfl), Markdown.le_lineCount_of_numbered hline⟩

/-! ## 3. The rules -/

variable (c : Context)

theorem madeOf_checkSize : MadeOf (OnLine c.content) (checkSize c) :=
  .ite (fun _ => .report (onLine_of_none rfl)) fun _ => .pure ()

theorem madeOf_checkSizeWarning : MadeOf (OnLine c.content) (checkSizeWarning c) :=
  .ite (fun _ => .report (onLine_of_none rfl)) fun _ => .pure ()

theorem madeOf_checkImports : MadeOf (OnAtSign c.content) (checkImports c) := by
  refine .forM fun i hi => ?_
  refine .bind (.lift .file _) fun target => .bind (.lift .file _) fun there => ?_
  exact .ite (fun _ => .report ⟨i.line, rfl, Markdown.hasAtSign_of_mem_imports hi⟩) fun _ => .pure ()

theorem madeOf_checkCodeImports : MadeOf (OnAtSign c.content) (checkCodeImports c) :=
  .forM fun code hcode => .forM fun _ hpath =>
    .report ⟨code.1, rfl, Markdown.hasAtSign_of_mem_tokens hcode hpath⟩

theorem madeOf_checkSections : MadeOf (OnLine c.content) (checkSections c) := by
  refine .ite (fun _ => .bind .prose fun _ => ?_) fun _ => .pure ()
  exact .ite (fun _ => .report (onLine_of_none rfl)) fun _ => .pure ()

/-- A check that does something with the fields of a skill, if there are any. -/
theorem madeOf_forSkill {P : Report → Prop} {k : Entries → Check c.content Unit} (h : ∀ fields, MadeOf P (k fields)) :
    MadeOf P (do
      match ← skillFields c with
      | none => pure ()
      | some fields => k fields) := by
  have hfields : MadeOf P (skillFields c) := .ite (fun _ => .bind .frontmatter fun _ => .pure _) fun _ => .pure _
  refine .bind hfields fun fields => ?_
  cases fields with
  | none => exact .pure ()
  | some fields => exact h fields

theorem madeOf_checkSkillFrontmatter : MadeOf (OnLine c.content) (checkSkillFrontmatter c) := by
  refine .ite (fun _ => .bind .frontmatter fun f => ?_) fun _ => .pure ()
  refine .ite (fun _ => .report (onLine_first rfl)) fun _ => ?_
  cases f.complaint? with
  | none => exact .pure ()
  | some e => exact .report (onLine_first rfl)

theorem madeOf_checkSkillName : MadeOf (OnLine c.content) (checkSkillName c) := by
  refine madeOf_forSkill c fun fields => .ite (fun _ => .report (onLine_first rfl)) fun _ => ?_
  refine .ite (fun _ => .bind (.shown _) fun _ => .report (onLine_fieldLine rfl)) fun _ => ?_
  exact .ite (fun _ => .report (onLine_fieldLine rfl)) fun _ => .pure ()

theorem madeOf_checkSkillDescription : MadeOf (OnLine c.content) (checkSkillDescription c) :=
  madeOf_forSkill c fun _ => .ite (fun _ => .report (onLine_first rfl)) fun _ => .pure ()

theorem madeOf_checkDescriptionLength : MadeOf (OnLine c.content) (checkDescriptionLength c) := by
  refine madeOf_forSkill c fun fields => ?_
  split
  · exact .ite (fun _ => .report (onLine_fieldLine rfl)) fun _ => .pure ()
  · exact .pure ()

theorem madeOf_checkSkillVersion : MadeOf (OnLine c.content) (checkSkillVersion c) :=
  madeOf_forSkill c fun _ => .ite (fun _ => .report (onLine_of_none rfl)) fun _ => .pure ()

theorem madeOf_checkAgentFields : MadeOf (OnLine c.content) (checkAgentFields c) := by
  refine .bind .frontmatter fun f => .ite (fun _ => .report (onLine_first rfl)) fun _ => ?_
  cases f.data? with
  | none => exact .report (onLine_first rfl)
  | some fields => exact .forM fun key _ => .ite (fun _ => .pure ()) fun _ => .report (onLine_first rfl)

theorem madeOf_checkAgentName : MadeOf (OnLine c.content) (checkAgentName c) := by
  refine .bind .frontmatter fun f => ?_
  dsimp only
  split
  · exact .ite (fun _ => .report (onLine_fieldLine rfl)) fun _ => .pure ()
  · exact .pure ()

theorem madeOf_checkAgentBody : MadeOf (OnLine c.content) (checkAgentBody c) := by
  refine .bind .frontmatter fun f => .ite (fun _ => .bind .body fun _ => ?_) fun _ => .pure ()
  exact .ite (fun _ => .bind (.shown _) fun _ => .report (onLine_of_none rfl)) fun _ => .pure ()

theorem madeOf_fieldsOf (P : Report → Prop) : MadeOf P (fieldsOf c) := by
  unfold fieldsOf
  split
  · exact .pure _
  · exact .pure _
  · exact .fail _

theorem madeOf_servers (P : Report → Prop) : MadeOf P (servers c) :=
  .bind (madeOf_fieldsOf c P) fun _ => .pure _

theorem madeOf_checkTransports : MadeOf (OnLine c.content) (checkTransports c) := by
  refine .bind (madeOf_servers c _) fun _ => .forM fun _ _ => ?_
  exact .ite (fun _ => .report (onLine_of_none rfl)) fun _ => .pure ()

theorem madeOf_reportAll (messages : List String) : MadeOf (OnLine content) (reportAll messages : Check content Unit) :=
  .forM fun _ _ => .report (onLine_of_none rfl)

theorem madeOf_checkExpansions (form : Regex.Pattern) (place : String) (v : Value) :
    MadeOf (OnLine content) (checkExpansions form place v : Check content Unit) := by
  unfold checkExpansions
  split
  · exact madeOf_reportAll _
  · exact .pure ()

theorem madeOf_checkServer (form : Regex.Pattern) (name : String) (fields : Entries) :
    MadeOf (OnLine content) (checkServer form name fields : Check content Unit) := by
  refine .bind (madeOf_checkExpansions form _ _) fun _ => .bind (.lift .shape _) fun args => ?_
  refine .bind (.forM fun arg _ => madeOf_checkExpansions form _ arg) fun _ => ?_
  refine .bind (madeOf_checkExpansions form _ _) fun _ => .forM fun _ _ => madeOf_reportAll _

theorem madeOf_checkServers : MadeOf (OnLine c.content) (checkServers c) := by
  refine .bind (.lift .pattern _) fun form => .bind (madeOf_servers c _) fun _ => ?_
  exact .forM fun _ _ => madeOf_checkServer form _ _

theorem madeOf_checkPermissions : MadeOf (OnLine c.content) (checkPermissions c) := by
  refine .ite (fun _ => .pure ()) fun _ => .bind (madeOf_fieldsOf c _) fun fields => ?_
  cases (Entries.get "permissions" fields).map? with
  | none => exact .pure ()
  | some permissions => exact .forM fun bucket _ => .bind (.lift .shape _) fun _ => madeOf_reportAll _

theorem madeOf_checkSetting (key : String) (value : Value) :
    MadeOf (OnLine content) (checkSetting key value : Check content Unit) := by
  unfold checkSetting
  -- The value is looked at with or without a report on the name.
  cases filled? value with
  | none =>
    refine .ite (fun _ => .bind (.report (onLine_of_none rfl)) fun _ => ?_) fun _ => ?_
    all_goals exact .report (onLine_of_none rfl)
  | some s =>
    refine .ite (fun _ => .bind (.report (onLine_of_none rfl)) fun _ => ?_) fun _ => ?_
    all_goals exact .ite (fun _ => .report (onLine_of_none rfl)) fun _ => .pure ()

theorem madeOf_checkSettings : MadeOf (OnLine c.content) (checkSettings c) :=
  .bind (madeOf_fieldsOf c _) fun _ => .forM fun _ _ => madeOf_checkSetting _ _

/-- The rules that look for imports, outside of blocks and inside. -/
def importRules : List String := [importRule, "claude-md-import-in-code-block"]

/-- A rule is made of reports on lines, and if it looks for imports of reports on at signs. -/
def WellPlaced (rule : Rule) : Prop :=
  ∀ c, MadeOf (fun r => r.OnLine c.content ∧ (rule.info.id ∈ importRules → r.OnAtSign c.content)) (rule.check c)

section WellPlaced

variable {info : RuleInfo} {check : (c : Context) → Check c.content Unit}

theorem wellPlaced_of_onLine (hid : info.id ∉ importRules) (h : ∀ c, MadeOf (OnLine c.content) (check c)) :
    WellPlaced ⟨info, check⟩ := fun c =>
  (h c).mono fun _ hr => ⟨hr, fun hmem => absurd hmem hid⟩

theorem wellPlaced_of_onAtSign (h : ∀ c, MadeOf (OnAtSign c.content) (check c)) : WellPlaced ⟨info, check⟩ := fun c =>
  (h c).mono fun _ hr => ⟨onLine_of_onAtSign hr, fun _ => hr⟩

end WellPlaced

theorem wellPlaced_instructions : ∀ rule ∈ instructionRules, WellPlaced rule := by
  simp only [instructionRules, List.forall_mem_cons]
  exact ⟨wellPlaced_of_onLine (by decide) madeOf_checkSize, wellPlaced_of_onLine (by decide) madeOf_checkSizeWarning,
    wellPlaced_of_onAtSign madeOf_checkImports, wellPlaced_of_onAtSign madeOf_checkCodeImports,
    wellPlaced_of_onLine (by decide) madeOf_checkSections, List.forall_mem_nil _⟩

theorem wellPlaced_skills : ∀ rule ∈ skillRules, WellPlaced rule := by
  simp only [skillRules, List.forall_mem_cons]
  exact ⟨wellPlaced_of_onLine (by decide) madeOf_checkSkillFrontmatter,
    wellPlaced_of_onLine (by decide) madeOf_checkSkillName,
    wellPlaced_of_onLine (by decide) madeOf_checkSkillDescription,
    wellPlaced_of_onLine (by decide) madeOf_checkDescriptionLength,
    wellPlaced_of_onLine (by decide) madeOf_checkSkillVersion, List.forall_mem_nil _⟩

theorem wellPlaced_agents : ∀ rule ∈ agentRules, WellPlaced rule := by
  simp only [agentRules, List.forall_mem_cons]
  exact ⟨wellPlaced_of_onLine (by decide) madeOf_checkAgentFields,
    wellPlaced_of_onLine (by decide) madeOf_checkAgentName,
    wellPlaced_of_onLine (by decide) madeOf_checkAgentBody, List.forall_mem_nil _⟩

theorem wellPlaced_servers : ∀ rule ∈ serverRules, WellPlaced rule := by
  simp only [serverRules, List.forall_mem_cons]
  exact ⟨wellPlaced_of_onLine (by decide) madeOf_checkTransports,
    wellPlaced_of_onLine (by decide) madeOf_checkServers, wellPlaced_of_onLine (by decide) fun _ => .pure (),
    List.forall_mem_nil _⟩

theorem wellPlaced_settings : ∀ rule ∈ settingRules, WellPlaced rule := by
  simp only [settingRules, List.forall_mem_cons]
  exact ⟨wellPlaced_of_onLine (by decide) madeOf_checkPermissions,
    wellPlaced_of_onLine (by decide) madeOf_checkSettings, List.forall_mem_nil _⟩

/-- **All built-in rules** are placed well. -/
theorem wellPlaced_of_mem_rules : ∀ rule ∈ rules, WellPlaced rule := by
  simp only [rules, List.forall_mem_append]
  exact ⟨⟨⟨⟨wellPlaced_instructions, wellPlaced_skills⟩, wellPlaced_agents⟩, wellPlaced_servers⟩, wellPlaced_settings⟩

/-- **Every line that is reported is there.**  Whatever the text, the path, the files around it and the options are, a
report of a built-in rule names no line or one of the lines of the text, by the number with which directives know it.
A report on an import, of a file that is not there or inside a block, names a line of the text with an at sign. -/
theorem line_of_report {rule : Rule} (hrule : rule ∈ rules) (c : Context) (views : Views c.content) :
    ∀ r ∈ (rule.run c views).2.reports,
      (r.line = none ∨ ∃ n : Nat, r.line = some n ∧ 1 ≤ n ∧ n ≤ Markdown.lineCount c.content) ∧
      (rule.info.id ∈ ["claude-md-import-missing", "claude-md-import-in-code-block"] →
        ∃ (n : Nat) (line : List Char), r.line = some n ∧ (n, line) ∈ numberFrom 1 (splitLines c.content.toList) ∧
          '@' ∈ line) := by
  intro r hr
  obtain ⟨hline, hsign⟩ := (wellPlaced_of_mem_rules rule hrule c).reports ⟨⟨views, none⟩, []⟩ (List.forall_mem_nil _) r hr
  refine ⟨hline, fun hid => ?_⟩
  obtain ⟨n, hn, line, hmem, hat⟩ := hsign hid
  exact ⟨n, line, hn, hmem, hat⟩

/-- An import inside a block is reported on its line, the third one of five. -/
theorem line_of_report_in_block :
    let rule := instructionRules[3]
    let c : Context := ⟨rule.info.id, "CLAUDE.md", "See:\n```\n@a.md\n```\n", [], ⟨[], [], "/", [], 0⟩⟩
    rule ∈ rules ∧ rule.info.id = "claude-md-import-in-code-block" ∧
      ∃ r ∈ (rule.run c .unread).2.reports, r.message = "Import inside code block: a.md" ∧ r.line = some 3 ∧
        (∃ n : Nat, r.line = some n ∧ 1 ≤ n ∧ n ≤ Markdown.lineCount c.content) ∧
        ∃ (n : Nat) (line : List Char), r.line = some n ∧ (n, line) ∈ numberFrom 1 (splitLines c.content.toList) ∧
          '@' ∈ line := by
  intro rule c
  have hrule : rule ∈ rules := mem_rules_of_instructions (List.getElem_mem _)
  have hreports : (rule.run c .unread).2.reports.map (fun r => (r.message, r.line)) =
      [("Import inside code block: a.md", some 3)] := by decide +kernel
  obtain ⟨r, hr, hfound⟩ := List.mem_map.mp (hreports ▸ List.mem_singleton_self _)
  obtain ⟨hmessage, hthird⟩ := Prod.mk.inj hfound
  obtain ⟨hline, hsign⟩ := line_of_report hrule c .unread r hr
  exact ⟨hrule, rfl, r, hr, hmessage, hthird, hline.resolve_left (by rw [hthird]; nofun), hsign (by decide)⟩

end Builtin

end AgentLint
