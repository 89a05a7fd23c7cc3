import AgentLint.Proofs.Rule.Imports
import AgentLint.Proofs.Runner.Reported
import AgentLint.Proofs.Suppression.Grammar
import AgentLint.Proofs.Text.Utf8

/-!
# Limits on the size of a file

Two rules look at the size of a file, each with a limit of its own.  One reports a file that has reached its limit;
the other one reports a file that has reached a level and is left to the first one from the standard limit on.  The
standard limit is that of the first rule unless a configuration says otherwise.

Where it does say otherwise the two do not meet: below the standard limit both may report a file, and above it
neither may.  `sizes_of_runCategory` says when.
-/

namespace AgentLint

/-! ## 1. Texts without directives -/

/-- No line of a text shows a directive. -/
def Directive.Free (content : String) : Prop := ∀ line ∈ Text.splitLines content.toList, onLine line = none

/-- A directive starts with an angle bracket. -/
theorem Directive.free_of_not_mem {content : String} (h : '<' ∉ content.toList) : Free content := by
  intro line hline
  rw [Option.eq_none_iff_forall_ne_some]
  intro d hd
  obtain ⟨before, text, after, rfl, ⟨lead, address, trail, -, -, -, rfl⟩, -⟩ := onLine_eq_some_iff_shows.mp hd
  exact h ((Text.infix_of_mem_splitOn hline).subset (by simp))

theorem Tracker.covers_of_free {content : String} (h : Directive.Free content) (rule : String) (line : Option Int) :
    (parse content).covers rule line = false := by
  have hnone : readOn (Text.splitLines content.toList) = [] := by
    rw [List.eq_nil_iff_forall_not_mem]
    rintro ⟨n, d⟩ hmem
    obtain ⟨i, text, -, htext, hd⟩ := mem_readOn_iff.mp hmem
    rw [h text (List.mem_of_getElem? htext)] at hd
    cases hd
  rw [parse_eq_ofDirectives, hnone]
  rfl

namespace Builtin

open Runner (optionsIfOn reportedBy findingsFrom findingOf)

variable {config : Option Config} {host : Host} {path content : String}

/-! ## 2. The two rules -/

/-- The rule with the limit. -/
def sizeRule : String := "size-error"

/-- The rule with the level. -/
def nearRule : String := "size-warning"

/-- The options of a limit. -/
def sizeOption (size : Int) : Entries := [(.text "maxSize", .int size)]

/-- The report about a file that has reached a limit. -/
def sizeReport (limit : Int) (size : Nat) : Report where
  message := "File exceeds " ++ limitText limit ++ " limit (" ++ toString size ++ " bytes)"
  fix := some "Split content into smaller files in .claude/rules/ and use @imports"

/-- The report about a file that has reached a level. -/
def nearReport (level : Int) (size : Nat) : Report where
  message := "File is approaching the size limit: " ++ toString size ++ " bytes (warning at " ++
    limitText level ++ ", limit " ++ limitText sizeLimit ++ ")"
  fix := some "Consider moving sections into .claude/rules/ before the limit is reached"

theorem exec_checkSize (c : Context) {limit : Int} (hc : c.options = sizeOption limit) (t : Trace c.content) :
    exec (checkSize c) t = (.ok (), { t with reports := t.reports ++
      (if limit ≤ Utf8.size c.content then [sizeReport limit (Utf8.size c.content)] else []) }) := by
  have hlimit : numberOption c "maxSize" sizeLimit = limit := by rw [numberOption, hc]; rfl
  simp only [checkSize, hlimit]
  split
  · rfl
  · rw [List.append_nil]; rfl

theorem exec_checkSizeWarning (c : Context) {level : Int} (hc : c.options = sizeOption level) (t : Trace c.content) :
    exec (checkSizeWarning c) t = (.ok (), { t with reports := t.reports ++
      (if level ≤ Utf8.size c.content ∧ Utf8.size c.content < sizeLimit then
        [nearReport level (Utf8.size c.content)] else []) }) := by
  have hlevel : numberOption c "maxSize" sizeWarning = level := by rw [numberOption, hc]; rfl
  simp only [checkSizeWarning, hlevel, Bool.and_eq_true, decide_eq_true_eq]
  split
  · rfl
  · rw [List.append_nil]; rfl

/-- A numeric option of a built-in rule that is on is a number above zero. -/
theorem exists_number_of_on {r : Rule} (hr : r ∈ rules) {model field : String} {standard : Nat}
    (hm : r.info.options = some (FieldModel.model ⟨model, field, .positive standard⟩)) {options : Entries}
    (hon : optionsIfOn config registry r.info.id path = .ok (some options)) :
    ∃ n : Int, 0 < n ∧ options = [(.text field, .int n)] := by
  have hoptions : Resolver.optionsAt config registry r.info.id path = .ok options := by
    unfold Runner.optionsIfOn at hon
    split at hon
    · cases hon
    · cases hon
    · obtain ⟨os, hos, heq⟩ := map_eq_ok_iff.mp hon
      cases heq
      exact hos
  obtain ⟨v, rfl, n, hn, rfl⟩ :=
    holds_of_accepts hr hm (Resolver.accepts_of_optionsAt (info?_of_mem hr) (acceptsDefault hr) hoptions)
  exact ⟨n, hn, rfl⟩

/-! ## 3. What they report on a text without directives -/

/-- What rules report carries the id of one of them. -/
theorem exists_of_mem_reportedBy {registry : Registry} {x : String × Report} : ∀ {rules : List Rule}
    {shared : Shared content}, x ∈ reportedBy config registry host path content rules shared →
      ∃ r ∈ rules, r.info.id = x.1
  | [], _, h => by cases h
  | r :: rest, shared, h => by
    have hrest : ∀ {shared : Shared content}, x ∈ reportedBy config registry host path content rest shared →
        ∃ q ∈ r :: rest, q.info.id = x.1 := fun h =>
      let ⟨q, hq, hid⟩ := exists_of_mem_reportedBy h
      ⟨q, List.mem_cons_of_mem r hq, hid⟩
    have hown : ∀ {reports : List Report}, x ∈ reports.map (fun rep => (r.info.id, rep)) →
        ∃ q ∈ r :: rest, q.info.id = x.1 := by
      intro reports hx
      obtain ⟨rep, -, rfl⟩ := List.mem_map.mp hx
      exact ⟨r, List.mem_cons_self, rfl⟩
    rw [reportedBy] at h
    split at h
    · cases h
    · exact hrest h
    · split at h
      simp only at h
      split at h
      · rcases List.mem_append.mp h with h | h
        · exact hown h
        · exact hrest h
      · exact hown h

theorem reportedBy_cons_of_on {registry : Registry} {r : Rule} {rest : List Rule} {options : Entries}
    {shared : Shared content} {reps : List Report}
    (hon : optionsIfOn config registry r.info.id path = .ok (some options))
    (hrun : exec (r.check ⟨r.info.id, path, content, options, host⟩) ⟨shared, []⟩ = (.ok (), ⟨shared, reps⟩)) :
    reportedBy config registry host path content (r :: rest) shared =
      reps.map (fun rep => (r.info.id, rep)) ++ reportedBy config registry host path content rest shared := by
  have hrun' : r.runOn ⟨r.info.id, path, content, options, host⟩ shared = (.ok (), ⟨shared, reps⟩) := hrun
  rw [reportedBy, hon]
  simp only [hrun']

/-- Without directives the findings of a rule are its reports, whatever other rules report. -/
theorem findingsFrom_of_free (hfree : Directive.Free content) {rule : String} (reps : List Report)
    {before after : List (String × Report)} (hbefore : ∀ x ∈ before, x.1 ≠ rule) (hafter : ∀ x ∈ after, x.1 ≠ rule) :
    findingsFrom (Tracker.parse content).covers rule path
      (before ++ (reps.map (fun rep => (rule, rep)) ++ after)) = reps.map (findingOf path rule) := by
  simp only [findingsFrom, Tracker.covers_of_free hfree, Bool.not_false, Bool.and_true]
  have hown : (reps.map fun rep => (rule, rep)).filter (fun x => x.1 = rule) = reps.map fun rep => (rule, rep) := by
    rw [List.filter_eq_self]
    intro x hx
    obtain ⟨rep, -, rfl⟩ := List.mem_map.mp hx
    exact decide_eq_true rfl
  have hothers : ∀ {xs : List (String × Report)}, (∀ x ∈ xs, x.1 ≠ rule) → xs.filter (fun x => x.1 = rule) = [] :=
    fun hxs => List.filter_eq_nil_iff.mpr fun x hx => by simpa using hxs x hx
  rw [List.filter_append, List.filter_append, hothers hbefore, hothers hafter, hown, List.nil_append, List.append_nil,
    List.map_map]
  rfl

/-- **The rule with the limit** reports a text that has reached it. -/
theorem findings_sizeRule (hfree : Directive.Free content) {limit : Int}
    (hlimit : optionsIfOn config registry sizeRule path = .ok (some (sizeOption limit))) :
    findingsFrom (Tracker.parse content).covers sizeRule path
        (reportedBy config registry host path content (registry.ofCategory .claudeMd) .fresh) =
      if limit ≤ Utf8.size content then [findingOf path sizeRule (sizeReport limit (Utf8.size content))] else [] := by
  have hrules : registry.ofCategory .claudeMd = instructionRules[0] :: instructionRules.tail := rfl
  have hothers : ∀ r ∈ instructionRules.tail, r.info.id ≠ sizeRule := by decide
  have hrun := exec_checkSize ⟨sizeRule, path, content, sizeOption limit, host⟩ rfl ⟨.fresh, []⟩
  rw [hrules, reportedBy_cons_of_on hlimit hrun, List.nil_append]
  refine (findingsFrom_of_free hfree _ (List.forall_mem_nil _) fun x hx => ?_).trans ?_
  · obtain ⟨r, hr, hid⟩ := exists_of_mem_reportedBy hx
    exact hid ▸ hothers r hr
  · split <;> rfl

/-- **The rule with the level** reports a text that has reached it and not the standard limit, whatever the limit is. -/
theorem findings_nearRule (hfree : Directive.Free content) {limit level : Int}
    (hlimit : optionsIfOn config registry sizeRule path = .ok (some (sizeOption limit)))
    (hlevel : optionsIfOn config registry nearRule path = .ok (some (sizeOption level))) :
    findingsFrom (Tracker.parse content).covers nearRule path
        (reportedBy config registry host path content (registry.ofCategory .claudeMd) .fresh) =
      if level ≤ Utf8.size content ∧ Utf8.size content < sizeLimit then
        [findingOf path nearRule (nearReport level (Utf8.size content))] else [] := by
  have hrules : registry.ofCategory .claudeMd =
      instructionRules[0] :: instructionRules[1] :: instructionRules.tail.tail := rfl
  have hothers : ∀ r ∈ instructionRules.tail.tail, r.info.id ≠ nearRule := by decide
  have hfirst := exec_checkSize ⟨sizeRule, path, content, sizeOption limit, host⟩ rfl ⟨.fresh, []⟩
  have hrun := exec_checkSizeWarning ⟨nearRule, path, content, sizeOption level, host⟩ rfl ⟨.fresh, []⟩
  rw [hrules, reportedBy_cons_of_on hlimit hfirst, reportedBy_cons_of_on hlevel hrun]
  refine (findingsFrom_of_free hfree _ (fun x hx => ?_) fun x hx => ?_).trans ?_
  · obtain ⟨rep, -, rfl⟩ := List.mem_map.mp hx
    exact (by decide : sizeRule ≠ nearRule)
  · obtain ⟨r, hr, hid⟩ := exists_of_mem_reportedBy hx
    exact hid ▸ hothers r hr
  · rw [List.nil_append]
    split <;> rfl

/-- **What the two rules report** in a run over a text without directives. -/
theorem found_of_free (diagnostics : Option Diagnostics) (host : Host) (hfree : Directive.Free content)
    {limit level : Int} (hlimit : optionsIfOn config registry sizeRule path = .ok (some (sizeOption limit)))
    (hlevel : optionsIfOn config registry nearRule path = .ok (some (sizeOption level))) :
    let start : Runner := { registry, resolver := { config, registry, diagnostics } }
    ∃ o, (start.runCategory host .claudeMd path content).1.outcome.2 = .ok o ∧
      o.found sizeRule path = (if limit ≤ Utf8.size content then
        [findingOf path sizeRule (sizeReport limit (Utf8.size content))] else []) ∧
      o.found nearRule path = if level ≤ Utf8.size content ∧ Utf8.size content < sizeLimit then
        [findingOf path nearRule (nearReport level (Utf8.size content))] else [] := by
  intro start
  obtain ⟨o, ho, hrules⟩ := Runner.found_of_runCategory config registry diagnostics host .claudeMd path content
  exact ⟨o, ho, (hrules _ _ hlimit).trans (findings_sizeRule hfree hlimit),
    (hrules _ _ hlevel).trans (findings_nearRule hfree hlimit hlevel)⟩

/-- There is a text without directives of any size. -/
theorem exists_free_of_size (size : Nat) : ∃ content, Directive.Free content ∧ Utf8.size content = size := by
  refine ⟨String.ofList (List.replicate size 'a'), Directive.free_of_not_mem fun hmem => ?_, ?_⟩
  · rw [String.toList_ofList] at hmem
    cases List.eq_of_mem_replicate hmem
  · rw [Utf8.size_eq_sum, String.toList_ofList, List.map_replicate, List.sum_replicate]
    exact Nat.mul_one size

/-! ## 4. Sharing texts out -/

/-- One of the two rules reports a text that has reached the limit or the level, and none of them reports any
other. -/
def SharesOut (limit level : Int) (size : Nat) (o : Outcome) (path : String) : Prop :=
  (o.found sizeRule path).length + (o.found nearRule path).length = if limit ≤ size ∨ level ≤ size then 1 else 0

/-- A limit and a level between which nothing is lost and nothing is reported twice: the limit is the standard one,
or the level is beyond both. -/
def Meet (limit level : Int) : Prop := limit = sizeLimit ∨ limit ≤ level ∧ sizeLimit ≤ level

theorem sharesOut_iff {limit level : Int} {size : Nat} {o : Outcome}
    (herror : o.found sizeRule path = if limit ≤ size then [findingOf path sizeRule (sizeReport limit size)] else [])
    (hnear : o.found nearRule path = if level ≤ size ∧ size < sizeLimit then
      [findingOf path nearRule (nearReport level size)] else []) :
    SharesOut limit level size o path ↔
      ¬ (limit ≤ size ∧ level ≤ size ∧ size < sizeLimit) ∧ ¬ (size < limit ∧ level ≤ size ∧ sizeLimit ≤ size) := by
  have hlt : (size : Int) < limit ↔ ¬ limit ≤ size := Int.not_le.symm
  have hle : sizeLimit ≤ size ↔ ¬ size < sizeLimit := Nat.not_lt.symm
  rw [SharesOut, herror, hnear, hlt, hle]
  by_cases h₁ : limit ≤ size <;> by_cases h₂ : level ≤ size <;> by_cases h₃ : size < sizeLimit <;> simp [h₁, h₂, h₃]

/-- **Limits that meet** are those at which no size is lost and none is reported twice. -/
theorem meet_iff {limit level : Int} : Meet limit level ↔ ∀ size : Nat,
    ¬ (limit ≤ size ∧ level ≤ size ∧ size < sizeLimit) ∧ ¬ (size < limit ∧ level ≤ size ∧ sizeLimit ≤ size) := by
  have hstandard : (sizeLimit : Int) = 40000 := rfl
  constructor
  · rintro hmeet size
    unfold Meet at hmeet
    omega
  · intro h
    -- The sizes to try are the greater one of limit and level, and the greater one of level and standard.
    have hfirst := (h (max limit level).toNat).1
    have hsecond := (h (max level sizeLimit).toNat).2
    unfold Meet
    omega

/-- **Which of the two rules reports a text**, with whatever options they are on at a path.  Their options are limits
above zero.  One rule reports a text without directives that has reached its limit; the other one reports a text that
has reached its level and not the standard limit.  So a text is reported twice if it has reached the limit and the
level below the standard limit, and not at all if it has reached the level and the standard limit below the limit.
Texts are shared out properly, whatever their size, exactly if limit and level meet. -/
theorem sizes_of_runCategory (config : Option Config) (diagnostics : Option Diagnostics) (host : Host) (path : String)
    {options options' : Entries} (hlimit : optionsIfOn config registry sizeRule path = .ok (some options))
    (hlevel : optionsIfOn config registry nearRule path = .ok (some options')) :
    let start : Runner := { registry, resolver := { config, registry, diagnostics } }
    let outcome (content : String) := (start.runCategory host .claudeMd path content).1.outcome.2
    ∃ limit level : Int, 0 < limit ∧ 0 < level ∧ options = sizeOption limit ∧ options' = sizeOption level ∧
      (∀ content, Directive.Free content → ∃ o, outcome content = .ok o ∧
        let size := Utf8.size content
        o.found sizeRule path = (if limit ≤ size then [findingOf path sizeRule (sizeReport limit size)] else []) ∧
        o.found nearRule path = (if level ≤ size ∧ size < sizeLimit then
          [findingOf path nearRule (nearReport level size)] else []) ∧
        (SharesOut limit level size o path ↔
          ¬ (limit ≤ size ∧ level ≤ size ∧ size < sizeLimit) ∧ ¬ (size < limit ∧ level ≤ size ∧ sizeLimit ≤ size))) ∧
      ((∀ content, Directive.Free content → ∃ o, outcome content = .ok o ∧
          SharesOut limit level (Utf8.size content) o path) ↔ Meet limit level) := by
  intro start outcome
  have hfirst : instructionRules[0] ∈ rules := mem_rules_of_instructions (List.getElem_mem _)
  have hsecond : instructionRules[1] ∈ rules := mem_rules_of_instructions (List.getElem_mem _)
  obtain ⟨limit, hpos, rfl⟩ := exists_number_of_on hfirst rfl hlimit
  obtain ⟨level, hpos', rfl⟩ := exists_number_of_on hsecond rfl hlevel
  have hfound := fun (content : String) (hfree : Directive.Free content) =>
    found_of_free diagnostics host hfree hlimit hlevel
  refine ⟨limit, level, hpos, hpos', rfl, rfl, fun content hfree => ?_, ?_⟩
  · obtain ⟨o, ho, herror, hnear⟩ := hfound content hfree
    exact ⟨o, ho, herror, hnear, sharesOut_iff herror hnear⟩
  · rw [meet_iff]
    constructor
    · intro h size
      obtain ⟨content, hfree, hsize⟩ := exists_free_of_size size
      obtain ⟨o, ho, hshares⟩ := h content hfree
      obtain ⟨o', ho', herror, hnear⟩ := hfound content hfree
      cases ho.symm.trans ho'
      rw [hsize] at hshares herror hnear
      exact (sharesOut_iff herror hnear).mp hshares
    · intro h content hfree
      obtain ⟨o, ho, herror, hnear⟩ := hfound content hfree
      exact ⟨o, ho, (sharesOut_iff herror hnear).mpr (h _)⟩

/-- The standard limit and the standard level share out all texts. -/
theorem sizes_by_themselves :
    let start : Runner := { registry, resolver := { config := none, registry, diagnostics := none } }
    optionsIfOn none registry sizeRule "CLAUDE.md" = .ok (some (sizeOption 40000)) ∧
      optionsIfOn none registry nearRule "CLAUDE.md" = .ok (some (sizeOption 35000)) ∧
      ∀ content, Directive.Free content →
        ∃ o, (start.runCategory ⟨[], [], "/", [], 0⟩ .claudeMd "CLAUDE.md" content).1.outcome.2 = .ok o ∧
          SharesOut 40000 35000 (Utf8.size content) o "CLAUDE.md" := by
  intro start
  have hlimit : optionsIfOn none registry sizeRule "CLAUDE.md" = .ok (some (sizeOption 40000)) := rfl
  have hlevel : optionsIfOn none registry nearRule "CLAUDE.md" = .ok (some (sizeOption 35000)) := rfl
  obtain ⟨limit, level, -, -, hsame, hsame', -, hmeet⟩ :=
    sizes_of_runCategory none none ⟨[], [], "/", [], 0⟩ "CLAUDE.md" hlimit hlevel
  cases hsame
  cases hsame'
  exact ⟨hlimit, hlevel, hmeet.mpr (.inl rfl)⟩

/-- **Two rules for one size.**  With a limit and a level far below the standard limit both rules report a text. -/
theorem sizes_reported_twice :
    let config : Config :=
      { rules := [(sizeRule, ⟨.error, some (sizeOption 4)⟩), (nearRule, ⟨.warn, some (sizeOption 2)⟩)] }
    let start : Runner := { registry, resolver := { config := some config, registry, diagnostics := none } }
    Directive.Free "aaaa" ∧ optionsIfOn (some config) registry sizeRule "CLAUDE.md" = .ok (some (sizeOption 4)) ∧
      optionsIfOn (some config) registry nearRule "CLAUDE.md" = .ok (some (sizeOption 2)) ∧
      ∃ o, (start.runCategory ⟨[], [], "/", [], 0⟩ .claudeMd "CLAUDE.md" "aaaa").1.outcome.2 = .ok o ∧
        ¬ SharesOut 4 2 (Utf8.size "aaaa") o "CLAUDE.md" := by
  intro config start
  have hfree : Directive.Free "aaaa" := Directive.free_of_not_mem (by decide)
  have hlimit : optionsIfOn (some config) registry sizeRule "CLAUDE.md" = .ok (some (sizeOption 4)) := rfl
  have hlevel : optionsIfOn (some config) registry nearRule "CLAUDE.md" = .ok (some (sizeOption 2)) := rfl
  refine ⟨hfree, hlimit, hlevel, ?_⟩
  obtain ⟨o, ho, herror, hnear⟩ := found_of_free none ⟨[], [], "/", [], 0⟩ hfree hlimit hlevel
  refine ⟨o, ho, fun hshares => ?_⟩
  exact ((sharesOut_iff herror hnear).mp hshares).1 (by decide)

end Builtin

end AgentLint
