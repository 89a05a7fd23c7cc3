import AgentLint.Proofs.Assoc
import AgentLint.Proofs.Sequencing
import AgentLint.Rule.Registry
import Mathlib.Data.List.DropRight

/-!
# What a registry holds

A registry is written to in two ways: a rule is handed in, or all rules are dropped.  What is handed in is a draft,
whose category and severity are still to be read, and a draft that cannot be read is refused.

Whatever came before, a registry is what the accepted rules since the last clear make of an empty one
(`after_requests`); one request is a step (`accepted_concat`).  So nothing is left to say about requests, and
`registered` is about these rules alone: each id stands where it was first accepted, and holds the rule that was
accepted last.  The families of files share the rules out among them, by the category that a rule has now.
-/

namespace AgentLint

/-! ## 1. Drafts -/

/-- A word that stands for a severity, in small letters and without blanks around it. -/
def Severity.IsSpelt (s : Severity) (word : String) : Prop := word = s.word ∨ s = .warn ∧ word = "warning"

theorem Severity.ofWord?_eq_some_iff {word : String} {s : Severity} : ofWord? word = some s ↔ s.IsSpelt word := by
  unfold ofWord? IsSpelt
  by_cases hlong : word = "warning"
  · subst hlong
    cases s <;> simp [Severity.word]
  · rw [if_neg hlong, List.find?_eq_some_iff_append]
    constructor
    · rintro ⟨hword, -⟩
      exact .inl (of_decide_eq_true hword).symm
    · rintro (rfl | ⟨-, h⟩)
      · cases s
        · exact ⟨by simp, [error], [warn], rfl, by simp [Severity.word]⟩
        · exact ⟨by simp, [error, off], [], rfl, by simp [Severity.word]⟩
        · exact ⟨by simp, [], [off, warn], rfl, by simp⟩
      · exact absurd h hlong

theorem Category.ofName?_eq_some_iff {name : String} {c : Category} : ofName? name = some c ↔ name = c.name := by
  constructor
  · intro h
    rw [ofName?, List.find?_eq_some_iff_append] at h
    exact (of_decide_eq_true h.1).symm
  · rintro rfl
    exact ofName?_name c

/-- What a draft is read as: the rule with the category and the severity that are written in it. -/
structure RuleDraft.ReadsAs (d : RuleDraft) (r : Rule) : Prop where
  category : d.category.display = r.info.category.name
  severity : ∃ shown, d.severity.display? = some shown ∧
    r.info.severity.IsSpelt (Text.asciiLower (Text.strip shown))
  rest : r = ⟨{ d.info with category := r.info.category, severity := r.info.severity }, d.check⟩

theorem RuleDraft.rule_eq_ok_iff {d : RuleDraft} {r : Rule} : d.rule = .ok r ↔ d.ReadsAs r := by
  have hcategory : ∀ c, Category.parse? d.category = some c ↔ d.category.display = c.name := fun c =>
    Category.ofName?_eq_some_iff
  have hseverity : ∀ s, Severity.parse? d.severity = some s ↔ ∃ shown, d.severity.display? = some shown ∧
      s.IsSpelt (Text.asciiLower (Text.strip shown)) := fun s => by
    rw [Severity.parse?, Option.bind_eq_some_iff]
    simp only [Severity.ofWord?_eq_some_iff]
  constructor
  · intro h
    unfold rule at h
    split at h
    · cases h
    · split at h
      · cases h
      · cases h
        rename_i c hc _ s hs
        exact ⟨(hcategory c).mp hc, (hseverity s).mp hs, rfl⟩
  · rintro ⟨hc, hs, hrest⟩
    rw [hrest, rule, (hcategory _).mpr hc, (hseverity _).mpr hs]

namespace Registry

/-! ## 2. Requests -/

/-- What can be asked of a registry. -/
inductive Request where
  /-- To take a rule. -/
  | register (d : RuleDraft)
  /-- To drop all rules. -/
  | clear

/-- Whether a request is to take a rule. -/
def Request.isRegister : Request → Bool
  | register _ => true
  | clear => false

/-- The rule that a request brings, if it brings one that can be read. -/
def Request.rule? : Request → Option Rule
  | register d => d.rule.toOption
  | clear => none

/-- The registry after a request. -/
def perform (t : Registry) : Request → Registry
  | .register d => match t.register d with
    | .ok u => u
    | .error _ => t
  | .clear => empty

/-- The registry after some requests. -/
def after (requests : List Request) : Registry := requests.foldl perform empty

/-- The rules that were accepted since the last clear, in order. -/
def accepted (requests : List Request) : List Rule :=
  (requests.rtakeWhile Request.isRegister).filterMap Request.rule?

variable {t : Registry} {d : RuleDraft} {r : Rule} {f : Fault}

/-- A draft that can be read is accepted, and a draft that cannot be read changes nothing. -/
theorem perform_register (t : Registry) (d : RuleDraft) :
    t.perform (.register d) = t.addAll (Request.register d).rule?.toList := by
  simp only [perform, register, Request.rule?]
  cases d.rule <;> rfl

theorem addAll_append (t : Registry) (rs ss : List Rule) : t.addAll (rs ++ ss) = (t.addAll rs).addAll ss :=
  List.foldl_append

/-- **One more request** brings at most one rule, or drops them all. -/
theorem accepted_concat (requests : List Request) (q : Request) :
    accepted (requests ++ [q]) = if q.isRegister then accepted requests ++ q.rule?.toList else [] := by
  unfold accepted
  rw [List.rtakeWhile_concat]
  split
  · rw [List.filterMap_append, List.filterMap_cons]
    cases q.rule? <;> rfl
  · rfl

/-- **A registry after any requests** holds the rules accepted since the last clear, by induction over the requests
from the last one. -/
theorem after_requests (requests : List Request) : after requests = empty.addAll (accepted requests) := by
  induction requests using List.reverseRecOn with
  | nil => rfl
  | append_singleton requests q ih =>
    have hstep : after (requests ++ [q]) = (after requests).perform q := List.foldl_concat ..
    rw [hstep, accepted_concat, ih]
    cases q with
    | register d =>
      rw [perform_register, ← addAll_append]
      rfl
    | clear => rfl

/-! ## 3. Rules one after the other -/

/-- The last one of some rules with an id. -/
def lastOf (id : String) (rs : List Rule) : Option Rule := (rs.filter fun r => r.info.id = id).getLast?

theorem ids_add (t : Registry) (r : Rule) :
    (t.add r).ids = if r.info.id ∈ t.ids then t.ids else t.ids ++ [r.info.id] := Assoc.keys_put t r.info.id r

/-- Ids stand in the order in which they first came. -/
theorem ids_addAll (rs : List Rule) : (empty.addAll rs).ids = (rs.map fun r => r.info.id).eraseDups := by
  induction rs using List.reverseRecOn with
  | nil => rfl
  | append_singleton rs r ih =>
    have hadd : empty.addAll (rs ++ [r]) = (empty.addAll rs).add r := addAll_append empty rs [r]
    rw [hadd, ids_add, ih, List.map_append, List.map_singleton, List.eraseDups_append]
    by_cases hmem : r.info.id ∈ rs.map fun r => r.info.id
    · rw [if_pos (List.mem_eraseDups.mpr hmem), List.removeAll, List.filter_singleton]
      have hseen : (rs.map fun r => r.info.id).contains r.info.id = true := List.contains_iff_mem.mpr hmem
      rw [List.elem_eq_contains, hseen]
      exact (List.append_nil _).symm
    · rw [if_neg fun h => hmem (List.mem_eraseDups.mp h), List.removeAll, List.filter_singleton]
      simp [List.eraseDups_cons, hmem]

/-- Under an id stands the rule that came last. -/
theorem get?_addAll (rs : List Rule) (id : String) : Assoc.get? id (empty.addAll rs) = lastOf id rs := by
  unfold lastOf
  induction rs using List.reverseRecOn with
  | nil => rfl
  | append_singleton rs r ih =>
    have hadd : empty.addAll (rs ++ [r]) = (empty.addAll rs).add r := addAll_append empty rs [r]
    rw [hadd, add, Assoc.get?_put, ih, List.filter_append, List.filter_singleton]
    by_cases hid : r.info.id = id <;> simp [hid]

theorem nodup_ids_addAll (rs : List Rule) : (empty.addAll rs).ids.Nodup := by
  induction rs using List.reverseRecOn with
  | nil => exact List.nodup_nil
  | append_singleton rs r ih => exact addAll_append empty rs [r] ▸ Assoc.nodup_keys_put ih r.info.id r

/-! ## 4. Families share the rules -/

/-- The rules by category are all rules, each once. -/
theorem perm_ofCategory (t : Registry) : (Category.all.flatMap t.ofCategory).Perm t.rules := by
  have hsplit : ∀ (cs : List Category) (rs : List Rule), cs.Nodup → (∀ r ∈ rs, r.info.category ∈ cs) →
      (cs.flatMap fun c => rs.filter fun r => r.info.category = c).Perm rs := by
    intro cs
    induction cs with
    | nil =>
      intro rs _ hall
      rw [List.eq_nil_iff_forall_not_mem.mpr fun r hr => List.not_mem_nil (hall r hr)]
      rfl
    | cons c cs ih =>
      intro rs hnodup hall
      rw [List.nodup_cons] at hnodup
      -- The other categories share the rules that are not of this one.
      have hrest := ih (rs.filter fun r => !decide (r.info.category = c)) hnodup.2 fun r hr => by
        obtain ⟨hr, hne⟩ := List.mem_filter.mp hr
        exact (List.mem_cons.mp (hall r hr)).resolve_left (by simpa using hne)
      have hsame : (cs.flatMap fun c' => (rs.filter fun r => !decide (r.info.category = c)).filter
          fun r => r.info.category = c') = cs.flatMap fun c' => rs.filter fun r => r.info.category = c' := by
        refine List.flatMap_congr fun c' hc' => ?_
        rw [List.filter_filter]
        refine List.filter_congr fun r _ => ?_
        have hne : c' ≠ c := fun he => hnodup.1 (he ▸ hc')
        by_cases hr : r.info.category = c' <;> simp [hr, hne]
      rw [hsame] at hrest
      rw [List.flatMap_cons]
      exact (hrest.append_left _).trans (List.filter_append_perm _ rs)
  exact hsplit Category.all t.rules (by decide) fun r _ => Category.mem_all _

/-- All rules are those that the ids stand for. -/
theorem rules_eq_filterMap {t : Registry} (h : t.ids.Nodup) : t.rules = t.ids.filterMap fun id => Assoc.get? id t := by
  have hentries : t.rules = t.filterMap fun e => Assoc.get? e.1 t := by
    rw [rules, Assoc.vals, ← List.filterMap_eq_map]
    refine List.filterMap_congr fun e he => ?_
    exact (Assoc.get?_of_mem h he).symm
  rw [hentries, ids, Assoc.keys, List.filterMap_map]
  rfl

/-! ## 5. Registries after any requests -/

/-- **What a registry holds** after any requests.  Its ids are those accepted since the last clear, each once, in the
order in which they were first accepted.  Under an id stands the rule that was accepted last, which is its draft with
category and severity as they were read; and that is all it holds.  A draft that cannot be read is refused and leaves
everything as it was.  The rules of a category are those of all rules that have it now, so that the categories share
all rules out among them. -/
theorem registered (requests : List Request) :
    let t := after requests
    let rs := accepted requests
    (t.ids = (rs.map fun r => r.info.id).eraseDups ∧ t.ids.Nodup) ∧
    (∀ id, Assoc.get? id t = lastOf id rs ∧ t.info? id = (lastOf id rs).map Rule.info) ∧
    t.rules = t.ids.filterMap (fun id => lastOf id rs) ∧
    (∀ d, (∀ r, t.register d = .ok (t.add r) ∧ d.rule = .ok r ↔ d.ReadsAs r) ∧
      ((∃ f, t.register d = .error f) ↔ ∀ r, ¬ d.ReadsAs r) ∧
      ∀ f, t.register d = .error f → after (requests ++ [.register d]) = t) ∧
    (∀ c, t.ofCategory c = t.rules.filter fun r => r.info.category = c) ∧
    (Category.all.flatMap t.ofCategory).Perm t.rules := by
  intro t rs
  have ht : t = empty.addAll rs := after_requests requests
  have hnodup : t.ids.Nodup := ht ▸ nodup_ids_addAll rs
  have hget : ∀ id, Assoc.get? id t = lastOf id rs := fun id => ht ▸ get?_addAll rs id
  refine ⟨⟨ht ▸ ids_addAll rs, hnodup⟩, fun id => ⟨hget id, ?_⟩, ?_, fun d => ⟨fun r => ?_, ?_, fun f hf => ?_⟩,
    fun c => rfl, perm_ofCategory t⟩
  · rw [info?, hget]
  · rw [rules_eq_filterMap hnodup]
    exact List.filterMap_congr fun id _ => hget id
  · rw [← RuleDraft.rule_eq_ok_iff]
    exact ⟨And.right, fun hr => ⟨by rw [register, hr]; rfl, hr⟩⟩
  · simp only [← RuleDraft.rule_eq_ok_iff, register]
    cases d.rule <;> simp [Except.map]
  · have hstep : after (requests ++ [.register d]) = t.perform (.register d) := List.foldl_concat ..
    rw [hstep, perform, hf]

/-- A rule that comes again leaves its category; one of an unknown severity leaves everything as it was. -/
example :
    let draft (category severity : String) : RuleDraft :=
      ⟨⟨"r", "", "", .claudeMd, .off, false, "", none, none⟩, .text category, .text severity, fun _ => pure ()⟩
    let t := after [.register (draft "CLAUDE.md" "error"), .register (draft "Skills" " Warning"),
      .register (draft "MCP" "on")]
    t.rules.map (fun r => (r.info.id, r.info.category, r.info.severity)) = [("r", .skills, .warn)] := by
  decide +kernel

end Registry

end AgentLint
