import AgentLint.Proofs.Family.Locality
import AgentLint.Proofs.Sequencing
import AgentLint.Rule.Builtin

/-!
# What the rules for instruction files see

A check sees the host and the views that earlier rules have left.  `Check.Alike` compares two checks that may
see different ones: they end the same, report the same and make the same of the fields of the header.  It is closed
under all that checks are made of, so one walk through a check shows what it depends on.

For the rules for instruction files that is: the text, the path and the options, and for one of them whether
the imports of the text are there (`agreesAt_instructions`).
-/

namespace AgentLint

/-! ## 1. Checks that cannot be told apart -/

/-- A view that can be computed is what it is, whether or not it was computed before. -/
theorem Memo.exists_get {ε α : Type} {compute : Unit → Except ε α} (m : Memo compute) {a : α}
    (ha : compute () = .ok a) : m.get = .ok ⟨a, ha⟩ := by
  unfold Memo.get
  split
  · rename_i b hb
    obtain rfl : b = a := Except.ok.inj ((m.sound b hb).symm.trans ha)
    rfl
  · have hattach : ∀ {outcome : Except ε α} (h : outcome = .ok a),
        Memo.attach outcome = .ok ⟨a, h⟩ := by
      rintro _ rfl
      rfl
    exact hattach ha

namespace Check

variable {content : String} {α β : Type}

theorem exec_prose (t : Trace content) : ∃ v, exec (Check.prose : Check content String) t =
    (.ok (Markdown.withoutCode content), { t with views := v }) := by
  have hprose : proseOf content () = .ok (Markdown.withoutCode content) := by
    unfold proseOf
    rfl
  have hread : Views.readProse t.views = .ok (Markdown.withoutCode content,
      { t.views with prose := .kept ⟨_, hprose⟩ }) := by
    rw [Views.readProse, Memo.exists_get _ hprose]
  refine ⟨{ t.views with prose := .kept ⟨_, hprose⟩ }, ?_⟩
  unfold Check.prose Check.view
  rw [exec_bind, exec_get]
  simp only [hread]
  rfl

/-- Two checks end the same, report the same and leave the same fields, whatever views they start from. -/
def Alike (m m' : Check content α) : Prop :=
  ∀ t t' : Trace content, t.Like t' → (exec m' t').1 = (exec m t).1 ∧ (exec m t).2.Like (exec m' t').2

namespace Alike

theorem pure (a : α) : Alike (Pure.pure a : Check content α) (Pure.pure a) :=
  fun _ _ h => ⟨rfl, h⟩

theorem report (r : Report) : Alike (Check.report r : Check content Unit) (Check.report r) := by
  intro t t' h
  refine ⟨rfl, ?_, h.fields⟩
  show t'.reports ++ [r] = t.reports ++ [r]
  rw [h.reports]

theorem lift {ε : Type} (wrap : ε → Fault) {x x' : Except ε α} (hx : x' = x) :
    Alike (Check.lift wrap x : Check content α) (Check.lift wrap x') := by
  subst hx
  intro t t' h
  cases x' <;> exact ⟨rfl, h⟩

theorem bind {m m' : Check content α} {k k' : α → Check content β} (hm : Alike m m')
    (hk : ∀ a, Alike (k a) (k' a)) : Alike (m >>= k) (m' >>= k') := by
  intro t t' h
  obtain ⟨hend, hlike⟩ := hm t t' h
  rw [exec_bind, exec_bind]
  cases hx : exec m t with
  | mk r u =>
    cases hx' : exec m' t' with
    | mk r' u' =>
      rw [hx, hx'] at hend hlike
      obtain rfl : r' = r := hend
      cases r' with
      | error e => exact ⟨rfl, hlike⟩
      | ok a => exact hk a u u' hlike

theorem ite {p : Prop} [Decidable p] {m m' n n' : Check content α} (hm : Alike m m') (hn : Alike n n') :
    Alike (if p then m else n) (if p then m' else n') := by
  split
  · exact hm
  · exact hn

theorem forM {γ : Type} {f f' : γ → Check content Unit} : ∀ xs : List γ,
    (∀ x ∈ xs, Alike (f x) (f' x)) → Alike (xs.forM f) (xs.forM f')
  | [], _ => pure ()
  | x :: xs, h =>
    bind (h x List.mem_cons_self) fun _ => forM xs fun y hy => h y (List.mem_cons_of_mem x hy)

/-- The text without code is the same to everyone, whoever asks first. -/
theorem prose : Alike (Check.prose : Check content String) Check.prose := by
  intro t t' h
  obtain ⟨v, hv⟩ := exec_prose t
  obtain ⟨v', hv'⟩ := exec_prose t'
  rw [hv, hv']
  exact ⟨rfl, h.reports, h.fields⟩

end Alike

end Check

theorem Rule.agreesAt_of_alike {info : RuleInfo} {check : (c : Context) → Check c.content Unit}
    {path content : String} {h h' : Host}
    (ha : ∀ rule options, Check.Alike (check ⟨rule, path, content, options, h⟩)
      (check ⟨rule, path, content, options, h'⟩)) :
    Rule.AgreesAt ⟨info, check⟩ path content h h' :=
  fun options s s' hs => ha info.id options ⟨s, []⟩ ⟨s', []⟩ ⟨rfl, hs⟩

/-! ## 2. The rules for instruction files -/

namespace Builtin

/-- Whether the file of an import is there, seen from the importing file. -/
def importAnswer (h : Host) (path target : String) : Except FileFault Bool := do
  let expanded ← h.expandUser (Path.ofString target)
  h.exists? ((Path.ofString path).parent.join expanded).text

/-- The imports of a text are there on one host if and only if they are on the other. -/
def ImportsAgree (h h' : Host) (path content : String) : Prop :=
  ∀ i ∈ Markdown.imports content, importAnswer h' path i.path = importAnswer h path i.path

/-- The rule that looks for imports. -/
def importRule : String := "claude-md-import-missing"

/-- One import, by the answer to whether it is there. -/
theorem checkImport_eq (c : Context) (i : Markdown.Import) :
    checkImport c i = (do
      if !(← Check.lift .file (importAnswer c.host c.path i.path)) then
        Check.report {
          message := "Imported file not found: " ++ i.path
          line := some i.line
          howToFix := some "Fix the @path or create the referenced file" }) := by
  unfold checkImport importAnswer importTarget
  cases c.host.expandUser (Path.ofString i.path) <;> rfl

variable {path content : String} {h h' : Host}

theorem alike_checkImports (hagree : ImportsAgree h h' path content) (rule : String) (options : Entries) :
    Check.Alike (checkImports ⟨rule, path, content, options, h⟩)
      (checkImports ⟨rule, path, content, options, h'⟩) := by
  refine Check.Alike.forM _ fun i hi => ?_
  rw [checkImport_eq, checkImport_eq]
  refine Check.Alike.bind (Check.Alike.lift .file (hagree i hi)) fun there => ?_
  exact Check.Alike.ite (Check.Alike.report _) (Check.Alike.pure _)

theorem alike_checkSize (rule : String) (options : Entries) :
    Check.Alike (checkSize ⟨rule, path, content, options, h⟩)
      (checkSize ⟨rule, path, content, options, h'⟩) :=
  Check.Alike.ite (Check.Alike.report _) (Check.Alike.pure _)

theorem alike_checkSizeWarning (rule : String) (options : Entries) :
    Check.Alike (checkSizeWarning ⟨rule, path, content, options, h⟩)
      (checkSizeWarning ⟨rule, path, content, options, h'⟩) :=
  Check.Alike.ite (Check.Alike.report _) (Check.Alike.pure _)

theorem alike_checkCodeImports (rule : String) (options : Entries) :
    Check.Alike (checkCodeImports ⟨rule, path, content, options, h⟩)
      (checkCodeImports ⟨rule, path, content, options, h'⟩) :=
  Check.Alike.forM _ fun _ _ => Check.Alike.forM _ fun _ _ => Check.Alike.report _

theorem alike_checkSections (rule : String) (options : Entries) :
    Check.Alike (checkSections ⟨rule, path, content, options, h⟩)
      (checkSections ⟨rule, path, content, options, h'⟩) :=
  Check.Alike.ite
    (Check.Alike.bind Check.Alike.prose fun _ => Check.Alike.ite (Check.Alike.report _) (Check.Alike.pure _))
    (Check.Alike.pure _)

/-- **What the rules for instruction files see of a host**: nothing, but for one of them whether the imports
are there. -/
theorem agreesAt_instructions {rule : Rule} (hrule : rule ∈ instructionRules)
    (himports : rule.info.id = importRule → ImportsAgree h h' path content) :
    rule.AgreesAt path content h h' := by
  simp only [instructionRules, List.mem_cons, List.not_mem_nil, or_false] at hrule
  rcases hrule with rfl | rfl | rfl | rfl | rfl
  · exact Rule.agreesAt_of_alike alike_checkSize
  · exact Rule.agreesAt_of_alike alike_checkSizeWarning
  · exact Rule.agreesAt_of_alike (alike_checkImports (himports rfl))
  · exact Rule.agreesAt_of_alike alike_checkCodeImports
  · exact Rule.agreesAt_of_alike alike_checkSections

end Builtin

end AgentLint
