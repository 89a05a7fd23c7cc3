import AgentLint.Proofs.Views

/-!
# What checks are made of

A check can look at the views of a text by reading them, report, fail, and go on after a failure.  `Check.MadeOf P`
holds of the checks that are put together from these, where all that is reported has the property `P`.  Nothing among
the parts asks whether a view is there already.

Nothing among them changes the fields of the header either.

Three things follow, each by going through the parts once.  What such a check reports has the property
(`MadeOf.reports`).  It ends the same and reports the same from whichever views it starts (`MadeOf.alike`).  And it
leaves the fields as they are (`MadeOf.fields`).
-/

namespace AgentLint.Check

variable {content : String} {α β γ : Type} {P Q : Report → Prop}

/-! ## 1. The parts -/

/-- A check that is put together from reads of views, reports with a property, and failures. -/
inductive MadeOf (P : Report → Prop) {content : String} : {α : Type} → Check content α → Prop
  /-- Gives a value. -/
  | pure {α : Type} (a : α) : MadeOf P (Pure.pure a : Check content α)
  /-- Fails. -/
  | fail {α : Type} (e : Fault) : MadeOf P (throw e : Check content α)
  /-- Reports. -/
  | report {r : Report} (h : P r) : MadeOf P (Check.report r : Check content Unit)
  /-- Reads the frontmatter. -/
  | frontmatter : MadeOf P (Check.frontmatter : Check content Frontmatter)
  /-- Reads the body. -/
  | body : MadeOf P (Check.body : Check content String)
  /-- Reads the text without code. -/
  | prose : MadeOf P (Check.prose : Check content String)
  /-- One check and then another one, which may depend on what the first has given. -/
  | bind {α β : Type} {m : Check content α} {k : α → Check content β} (first : MadeOf P m)
    (next : ∀ a, MadeOf P (k a)) : MadeOf P (m >>= k)
  /-- One check, and another one if it fails, which may depend on the failure. -/
  | rescue {α : Type} {m : Check content α} {k : Fault → Check content α} (first : MadeOf P m)
    (next : ∀ e, MadeOf P (k e)) : MadeOf P (tryCatch m k)

namespace MadeOf

theorem mono {m : Check content α} (h : MadeOf P m) (himp : ∀ r, P r → Q r) : MadeOf Q m := by
  induction h with
  | pure a => exact .pure a
  | fail e => exact .fail e
  | report h => exact .report (himp _ h)
  | frontmatter => exact .frontmatter
  | body => exact .body
  | prose => exact .prose
  | bind _ _ ihm ihk => exact .bind ihm ihk
  | rescue _ _ ihm ihk => exact .rescue ihm ihk

theorem lift {ε : Type} (wrap : ε → Fault) (x : Except ε α) : MadeOf P (Check.lift wrap x : Check content α) := by
  cases x with
  | ok a => exact .pure a
  | error e => exact .fail (wrap e)

theorem shown (v : Value) : MadeOf P (Check.shown v : Check content String) := by
  unfold Check.shown
  cases v.display? with
  | some s => exact .pure s
  | none => exact .fail .unshowable

theorem ite {p : Prop} [Decidable p] {m n : Check content α} (hm : p → MadeOf P m) (hn : ¬ p → MadeOf P n) :
    MadeOf P (if p then m else n) := by
  split
  · exact hm ‹p›
  · exact hn ‹¬ p›

theorem forM {f : γ → Check content Unit} : ∀ {xs : List γ}, (∀ x ∈ xs, MadeOf P (f x)) → MadeOf P (xs.forM f)
  | [], _ => .pure ()
  | x :: _, h => .bind (h x List.mem_cons_self) fun _ => forM fun y hy => h y (List.mem_cons_of_mem x hy)

end MadeOf

/-! ## 2. What is reported -/

/-- A read of a view leaves the rest as it was. -/
theorem like_view (f : Views content → Except Yaml.ScalarFault (α × Views content)) (t : Trace content) :
    t.Like (exec (view f) t).2 := by
  rw [exec_view]
  cases f t.views <;> exact ⟨rfl, rfl⟩

theorem like_frontmatter (t : Trace content) :
    t.Like (exec (Check.frontmatter : Check content Frontmatter) t).2 := by
  rw [exec_frontmatter]
  cases t.views.readFrontmatter <;> exact ⟨rfl, rfl⟩

theorem exec_tryCatch (m : Check content α) (k : Fault → Check content α) (t : Trace content) :
    exec (tryCatch m k) t = match exec m t with
      | (.ok a, u) => (.ok a, u)
      | (.error e, u) => exec (k e) u := by
  unfold exec
  rw [ExceptT.run_tryCatch, StateT.run_bind]
  cases StateT.run m.run t with
  | mk x u => cases x <;> rfl

/-- **What a check reports has the property** that its reports have. -/
theorem MadeOf.reports {m : Check content α} (h : MadeOf P m) : ∀ t : Trace content,
    (∀ r ∈ t.reports, P r) → ∀ r ∈ (exec m t).2.reports, P r := by
  induction h with
  | pure a => exact fun _ ht => ht
  | fail e => exact fun _ ht => ht
  | report h => exact fun t ht => List.forall_mem_append.mpr ⟨ht, List.forall_mem_singleton.mpr h⟩
  | frontmatter => exact fun t ht => (like_frontmatter t).reports.symm ▸ ht
  | body => exact fun t ht => (like_view _ t).reports.symm ▸ ht
  | prose => exact fun t ht => (like_view _ t).reports.symm ▸ ht
  | @bind α β m k _ _ ihm ihk =>
    intro t ht
    have hfirst := ihm t ht
    rw [exec_bind]
    cases hm : exec m t with
    | mk x u =>
      rw [hm] at hfirst
      cases x with
      | error e => exact hfirst
      | ok a => exact ihk a u hfirst
  | @rescue α m k _ _ ihm ihk =>
    intro t ht
    have hfirst := ihm t ht
    rw [exec_tryCatch]
    cases hm : exec m t with
    | mk x u =>
      rw [hm] at hfirst
      cases x with
      | error e => exact ihk e u hfirst
      | ok a => exact hfirst

/-! ## 3. What is seen of the views -/

/-- A read that gives the same whatever is kept. -/
theorem Alike.view {f : Views content → Except Yaml.ScalarFault (α × Views content)} {x : Except Yaml.ScalarFault α}
    (hf : ∀ v, (f v).map Prod.fst = x) : Alike (view f) (view f) := by
  have hend : ∀ t, (exec (Check.view f) t).1 = x.mapError .scalar := by
    intro t
    rw [exec_view, ← hf t.views]
    cases f t.views <;> rfl
  exact fun t t' h => ⟨(hend t').trans (hend t).symm, ((like_view f t).symm.trans h).trans (like_view f t')⟩

/-- The frontmatter is the same to those who find the same fields. -/
theorem Alike.frontmatter : Alike (Check.frontmatter : Check content Frontmatter) Check.frontmatter := by
  intro t t' h
  refine ⟨?_, ((like_frontmatter t).symm.trans h).trans (like_frontmatter t')⟩
  rw [exec_frontmatter_fst, exec_frontmatter_fst, h.seen_eq]

theorem Alike.rescue {m m' : Check content α} {k k' : Fault → Check content α} (hm : Alike m m')
    (hk : ∀ e, Alike (k e) (k' e)) : Alike (tryCatch m k) (tryCatch m' k') := by
  intro t t' h
  obtain ⟨hend, hlike⟩ := hm t t' h
  rw [exec_tryCatch, exec_tryCatch]
  cases hx : exec m t with
  | mk r u =>
    cases hx' : exec m' t' with
    | mk r' u' =>
      rw [hx, hx'] at hend hlike
      obtain rfl : r' = r := hend
      cases r' with
      | error e => exact hk e u u' hlike
      | ok a => exact ⟨rfl, hlike⟩

/-- **A check does not tell views apart** that it only reads. -/
theorem MadeOf.alike {m : Check content α} (h : MadeOf P m) : Alike m m := by
  induction h with
  | pure a => exact .pure a
  | fail e => exact fun _ _ h => ⟨rfl, h⟩
  | report => exact .report _
  | frontmatter => exact .frontmatter
  | body => exact .view fun v => v.map_fst_read .body
  | prose => exact .view fun v => v.map_fst_read .prose
  | bind _ _ ihm ihk => exact ihm.bind ihk
  | rescue _ _ ihm ihk => exact ihm.rescue ihk

/-! ## 4. What is left of the fields -/

/-- **A check leaves the fields as they are** if it only reads. -/
theorem MadeOf.fields {m : Check content α} (h : MadeOf P m) : ∀ t : Trace content,
    (exec m t).2.fields? = t.fields? := by
  induction h with
  | pure a => exact fun _ => rfl
  | fail e => exact fun _ => rfl
  | report => exact fun _ => rfl
  | frontmatter => exact fun t => (like_frontmatter t).fields
  | body => exact fun t => (like_view _ t).fields
  | prose => exact fun t => (like_view _ t).fields
  | @bind α β m k _ _ ihm ihk =>
    intro t
    have hfirst := ihm t
    rw [exec_bind]
    cases hm : exec m t with
    | mk x u =>
      rw [hm] at hfirst
      cases x with
      | error e => exact hfirst
      | ok a => exact (ihk a u).trans hfirst
  | @rescue α m k _ _ ihm ihk =>
    intro t
    have hfirst := ihm t
    rw [exec_tryCatch]
    cases hm : exec m t with
    | mk x u =>
      rw [hm] at hfirst
      cases x with
      | error e => exact (ihk e u).trans hfirst
      | ok a => exact hfirst

end AgentLint.Check
