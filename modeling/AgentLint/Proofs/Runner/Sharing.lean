import AgentLint.Proofs.Rule.Lines

/-!
# Rules that share views

The rules of a file share its views: what one of them has read is there for those after it.  `runApart` is the run in
which they do not, where each rule starts from views that nobody has read.

Sharing makes no difference to what is staged and how a run ends, if the rules only read the views: they do not ask
whether somebody has read them before, and leave what they read as it is (`runRules_eq_runApart`).  The built-in rules
are of this kind.  What sharing saves is told by the cells of the views: whatever reads there are, what can be worked
out is worked out once (`views_shared`).

It is not enough that rules do not ask.  All of them are handed the same fields of the header, and a rule that takes
one out takes it from the rules after it (`taken_field_is_missed`).
-/

namespace AgentLint

/-- A rule that looks at views by reading them: it neither asks whether they are there nor changes what it reads. -/
def Rule.OnlyReads (rule : Rule) : Prop := ∀ c, Check.MadeOf (fun _ => True) (rule.check c)

theorem Builtin.onlyReads_of_mem_rules {rule : Rule} (hrule : rule ∈ rules) : rule.OnlyReads := fun c =>
  (wellPlaced_of_mem_rules rule hrule c).mono fun _ _ => trivial

namespace Runner

variable {host : Host} {path content : String}

/-- Runs several rules on a file, each with views of its own, until one fails. -/
def runApart (r : Runner) (host : Host) (path content : String) : List Rule → Runner × Except Fault Unit
  | [] => (r, .ok ())
  | rule :: rest =>
    match r.runRule host rule path content .fresh with
    | (r, .ok _) => r.runApart host path content rest
    | (r, .error e) => (r, .error e)

/-- **One rule** does the same from whichever views it starts. -/
theorem agreesAt_of_onlyReads {rule : Rule} (h : rule.OnlyReads) : rule.AgreesAt path content host host :=
  fun options s s' hs => (h ⟨rule.info.id, path, content, options, host⟩).alike ⟨s, []⟩ ⟨s', []⟩ ⟨rfl, hs⟩

/-- **All of them** do the same with shared views and apart. -/
theorem runRules_eq_runApart : ∀ {rules : List Rule} (r : Runner) (shared : Shared content), shared.fields? = none →
    (∀ rule ∈ rules, rule.OnlyReads) → r.runRules host path content rules shared = r.runApart host path content rules
  | [], _, _, _, _ => rfl
  | rule :: rules, r, shared, hfields, h => by
    obtain ⟨hrule, hrules⟩ := List.forall_mem_cons.mp h
    have hrest := fun (r₁ : Runner) (s : Shared content) hs => runRules_eq_runApart r₁ s hs hrules
    rw [runRules, runApart]
    obtain ⟨r₁, -, ⟨e, hrun⟩ | hrun | ⟨options, hrun⟩⟩ := runRule_cases r rule path content
    · rw [hrun, hrun]
    · rw [hrun, hrun]
      exact hrest r₁ shared hfields
    · have hagrees : rule.AgreesAt path content host host := agreesAt_of_onlyReads hrule
      obtain ⟨hend, hlike⟩ := hagrees options .fresh shared hfields
      rw [hrun, hrun, afterRule, afterRule, hend, hlike.reports]
      cases (rule.runOn ⟨rule.info.id, path, content, options, host⟩ .fresh).1 with
      | error e => rfl
      | ok _ =>
        -- The rule has left the fields as they were, so the next ones start as they would alone.
        exact hrest _ _ (((hrule ⟨rule.info.id, path, content, options, host⟩).fields ⟨shared, []⟩).trans hfields)

end Runner

open Views Cells in
/-- **Views are shared without notice.**  Whatever was read before, a read gives what is worked out from the text alone,
or fails as that does; which views are there tells which reads have succeeded, where the body brings the frontmatter
with it; and each view that is there was worked out once with success, the others never.  So a run of rules that only
read the views is the run in which each rule has views of its own. -/
theorem views_shared (content : String) :
    (∀ (before : List View) (w : View),
      let v := (unread : Views content).afterAll before
      let s := empty.afterAll content before
      (v.read w).map Prod.fst = w.of content ∧
      (v.frontmatter.computed = true ↔
        Succeeded content before .frontmatter ∨ Succeeded content before .body) ∧
      (v.body.computed = true ↔ Succeeded content before .body) ∧
      (v.prose.computed = true ↔ .prose ∈ before) ∧
      (exec (look content w) s).1 = (v.read w).map Prod.fst ∧
      s.kept = v.kept? ∧
      ∀ u, s.runs.count (u, true) = if (v.kept? u).isSome then 1 else 0) ∧
    ∀ (r : Runner) (host : Host) (category : Category) (path : String),
      (∀ rule ∈ r.registry.ofCategory category, rule.OnlyReads) →
        r.runCategory host category path content =
          (r.enter path content).runApart host path content (r.registry.ofCategory category) := by
  refine ⟨fun before w => ?_, fun r host category path h => Runner.runRules_eq_runApart _ _ rfl h⟩
  intro v s
  have hkept : s.kept = v.kept? := kept_afterAll content before
  obtain ⟨hfrontmatter, hbody, hprose⟩ := @computed_afterAll content before
  refine ⟨v.map_fst_read w, hfrontmatter, hbody, hprose, (look_eq_read hkept w).1, hkept, fun u => ?_⟩
  rw [← hkept]
  exact counted_empty.afterAll content before u

/-- Two rules for agents read the header of one file, one of them the body as well; they report the same as apart. -/
theorem views_shared_agents :
    let r := Family.freshRunner Builtin.registry none
    let host : Host := ⟨[], [], "/", [], 0⟩
    let content := "---\nname: a\ndescription: b\n---\nShort."
    (∀ rule ∈ r.registry.ofCategory .agents, rule.OnlyReads) ∧
      r.runCategory host .agents "agents/c.md" content =
        (r.enter "agents/c.md" content).runApart host "agents/c.md" content (r.registry.ofCategory .agents) ∧
      (r.runCategory host .agents "agents/c.md" content).1.staged.map (fun i => (i.rule, i.line)) =
        [(some "agent-name-filename-mismatch", some 2), (some "agent-body-too-short", none)] := by
  intro r host content
  have hagents : r.registry.ofCategory .agents = Builtin.agentRules := rfl
  have hreads : ∀ rule ∈ r.registry.ofCategory .agents, rule.OnlyReads := by
    intro rule hrule
    refine Builtin.onlyReads_of_mem_rules ?_
    simp only [Builtin.rules, List.mem_append]
    exact .inl (.inl (.inr (hagents ▸ hrule)))
  exact ⟨hreads, (views_shared content).2 r host .agents "agents/c.md" hreads, by decide +kernel⟩

/-! ## Rules that change what they read -/

/-- A check that does not ask which views are there, and may change the fields of the header. -/
inductive Check.Unasking {content : String} : {α : Type} → Check content α → Prop
  /-- It only reads. -/
  | reads {α : Type} {m : Check content α} (h : MadeOf (fun _ => True) m) : Unasking m
  /-- It changes the fields. -/
  | change (change : Entries → Entries) : Unasking (changeFields change)
  /-- One check and then another one. -/
  | bind {α β : Type} {m : Check content α} {k : α → Check content β} (first : Unasking m)
    (next : ∀ a, Unasking (k a)) : Unasking (m >>= k)

/-- A rule for agents that takes the name out of the header. -/
def takingRule : Rule where
  info := { id := "takes", name := "", description := "", category := .agents }
  check _ := Check.changeFields fun es => es.filter fun e => e.1.display ≠ "name"

/-- A rule for agents that reports a header without a name. -/
def missingRule : Rule where
  info := { id := "misses", name := "", description := "", category := .agents }
  check _ := do
    if (Entries.get? "name" ((← Check.frontmatter).data?.getD [])).isNone then
      Check.report { message := "no name" }

theorem unasking_of_mem {rule : Rule} (h : rule ∈ [takingRule, missingRule]) (c : Context) :
    (rule.check c).Unasking := by
  rcases List.mem_pair.mp h with rfl | rfl
  · exact .change _
  · exact .reads (.bind .frontmatter fun f => .ite (fun _ => .report trivial) fun _ => .pure ())

/-- **A field that a rule takes out is missed by the rules after it.**  None of the two rules asks which views are
there, and yet one of them reports what it would not report with views of its own. -/
theorem taken_field_is_missed :
    let r := Family.freshRunner (Registry.empty.addAll [takingRule, missingRule]) none
    let host : Host := ⟨[], [], "/", [], 0⟩
    let content := "---\nname: a\n---\n"
    let rules := r.registry.ofCategory .agents
    (∀ rule ∈ rules, ∀ c, (rule.check c).Unasking) ∧
      (r.runCategory host .agents "agents/a.md" content).1.staged.map Issue.message = ["no name"] ∧
      ((r.enter "agents/a.md" content).runApart host "agents/a.md" content rules).1.staged.map Issue.message = [] := by
  intro r host content rules
  have hrules : rules = [takingRule, missingRule] := rfl
  exact ⟨hrules ▸ fun rule => unasking_of_mem, by decide +kernel⟩

end AgentLint
