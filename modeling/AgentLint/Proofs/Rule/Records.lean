import AgentLint.Proofs.Json.Document
import AgentLint.Proofs.Rule.Ending
import AgentLint.Proofs.Rule.Options

/-!
# What the rules for records do with any JSON

The rules for server configurations and settings meet whatever a JSON text holds.  They look before they take: a field
counts only if it has the right kind.  There are two exceptions, the arguments of a server and the lists of
permissions.  These are gone through without a look at what they are, and true or a number other than zero ends the
check (`endsAs_of_read`).  A rule goes through `listsOf` and ends as `listing` says, and nothing else can happen to
it: its option has passed the check of its model, and all that is shown can be shown.

So each of the two categories has one rule that can fail, and running the category fails exactly if that rule is on
and meets such a value (`records_end`).
-/

namespace AgentLint.Builtin

open Check Json

/-! ## 1. What the rules go through -/

/-- The rule that goes through the arguments of servers. -/
def argumentRule : String := "mcp-invalid-env-var"

/-- The rule that goes through permissions. -/
def permissionRule : String := "settings-permission-empty-pattern"

/-- The servers of a document: name and fields. -/
def serversOf (v : Value) : List (String × Entries) :=
  ((Entries.get "mcpServers" (v.map?.getD [])).map?.getD []).filterMap fun e => e.2.map?.map fun fs => (keyOf e, fs)

/-- The values that stand for the lists of permissions. -/
def permissionLists (v : Value) : List Value :=
  match (Entries.get "permissions" (v.map?.getD [])).map? with
  | none => []
  | some permissions => buckets.map fun bucket => Entries.get bucket permissions

/-- The values of a document that a rule goes through without a look at what they are, in order. -/
def listsOf (rule : String) (options : Entries) (v : Value) : List Value :=
  if rule = argumentRule then (serversOf v).map fun s => Entries.get "args" s.2
  else if rule = permissionRule then
    if (Entries.get "allowEmpty" options).truthy then [] else permissionLists v
  else []

/-- Going through values: it ends at the first that has nothing to go through. -/
def listing (vs : List Value) : Except Fault Unit :=
  match vs.find? Value.isUnlisted with
  | none => .ok ()
  | some v => .error (.shape (.notIterable v.kind))

/-- Going through one value. -/
def goThrough (v : Value) : Except Fault Unit := v.itemsOrNone.mapError .shape >>= fun _ => .ok ()

/-- **One after the other**: they fail as the first of them that fails. -/
theorem forM_goThrough {α : Type} {f : α → Value} : ∀ {xs : List α}, (∀ x ∈ xs, IsDocument (f x)) →
    (ForM.forM xs fun x => goThrough (f x)) = listing (xs.map f)
  | [], _ => rfl
  | x :: xs, h => by
    obtain ⟨hx, hxs⟩ := List.forall_mem_cons.mp h
    rw [List.forM_cons, forM_goThrough hxs, goThrough, listing, listing, List.map_cons]
    cases hun : (f x).isUnlisted with
    | true =>
      rw [Value.itemsOrNone_of_isUnlisted hun, List.find?_cons_of_pos hun]
      rfl
    | false =>
      obtain ⟨vs, hvs⟩ := hx.exists_itemsOrNone hun
      rw [hvs, List.find?_cons_of_neg (Bool.not_eq_true _ ▸ hun)]
      rfl

/-! ## 2. Servers -/

section Records

variable {c : Context} {v : Value}

theorem endsAs_fieldsOf (hread : Json.read c.content = .ok v) : EndsAs (fieldsOf c) (.ok (v.map?.getD [])) := by
  unfold fieldsOf
  rw [hread]
  exact EndsAs.pure _

theorem endsAs_servers (hread : Json.read c.content = .ok v) : EndsAs (servers c) (.ok (serversOf v)) :=
  (endsAs_fieldsOf hread).bind_ok (EndsAs.pure _)

/-- The fields of a server are documents. -/
theorem isDocument_of_mem_serversOf (hv : IsDocument v) {s : String × Entries} (hs : s ∈ serversOf v) :
    ∀ e ∈ s.2, IsDocument e.2 := by
  obtain ⟨e, he, hfields⟩ := List.mem_filterMap.mp hs
  obtain ⟨fs, hfs, rfl⟩ := Option.map_eq_some_iff.mp hfields
  have hall := IsDocument.get hv.of_mem_map? "mcpServers"
  have hserver := (hall.of_mem_map? e he).of_mem_map?
  rwa [hfs] at hserver

theorem endsAs_checkTransports (hread : Json.read c.content = .ok v) : EndsAs (checkTransports c) (.ok ()) := by
  refine (endsAs_servers hread).bind_ok ?_
  refine EndsAs.forM_ok fun _ _ => ?_
  exact EndsAs.ite (fun _ => EndsAs.report _) fun _ => EndsAs.pure ()

theorem endsAs_reportAll {content : String} (messages : List String) :
    EndsAs (reportAll messages : Check content Unit) (.ok ()) := EndsAs.forM_ok fun _ _ => EndsAs.report _

theorem endsAs_checkExpansions {content : String} (form : Regex.Pattern) (place : String) (v : Value) :
    EndsAs (checkExpansions form place v : Check content Unit) (.ok ()) := by
  cases v with
  | text s => exact endsAs_reportAll _
  | _ => exact EndsAs.pure ()

theorem endsAs_checkServer {content : String} (form : Regex.Pattern) (name : String) (fields : Entries) :
    EndsAs (checkServer form name fields : Check content Unit) (goThrough (Entries.get "args" fields)) := by
  refine (endsAs_checkExpansions form _ _).bind_ok ?_
  refine (EndsAs.lift .shape _).bind fun args _ => ?_
  refine (EndsAs.forM_ok fun arg _ => endsAs_checkExpansions form _ arg).bind_ok ?_
  refine (endsAs_checkExpansions form _ _).bind_ok ?_
  exact EndsAs.forM_ok fun _ _ => endsAs_reportAll _

/-- The pattern of the rule is one that its model has let through, so it can be read. -/
theorem endsAs_checkServers (hread : Json.read c.content = .ok v) {form : Regex.Pattern} {source : String}
    (hoptions : c.options = [(.text "pattern", .text source)]) (hform : Regex.read source = .ok form) :
    EndsAs (checkServers c) (listing ((serversOf v).map fun s => Entries.get "args" s.2)) := by
  have hlisting := forM_goThrough (f := fun s : String × Entries => Entries.get "args" s.2) fun s hs =>
    IsDocument.get (isDocument_of_mem_serversOf (isDocument_of_read hread) hs) "args"
  have hpattern : EndsAs (Check.lift .pattern (Regex.read source) : Check c.content Regex.Pattern) (.ok form) := by
    rw [hform]
    exact EndsAs.pure form
  rw [← hlisting, checkServers, hoptions]
  refine hpattern.bind_ok ?_
  refine (endsAs_servers hread).bind_ok ?_
  exact EndsAs.forM fun _ _ => endsAs_checkServer form _ _

/-! ## 3. Settings -/

theorem endsAs_checkPermissions (hread : Json.read c.content = .ok v) : EndsAs (checkPermissions c)
    (listing (if (Entries.get "allowEmpty" c.options).truthy then [] else permissionLists v)) := by
  unfold checkPermissions
  split
  · exact EndsAs.pure ()
  · refine (endsAs_fieldsOf hread).bind_ok ?_
    unfold permissionLists
    have hpermissions := IsDocument.get (isDocument_of_read hread).of_mem_map? "permissions"
    cases hmap : (Entries.get "permissions" (v.map?.getD [])).map? with
    | none => exact EndsAs.pure ()
    | some permissions =>
      have hdocuments := hpermissions.of_mem_map?
      rw [hmap] at hdocuments
      have hlisting : (ForM.forM buckets fun bucket => goThrough (Entries.get bucket permissions)) =
          listing (buckets.map fun bucket => Entries.get bucket permissions) :=
        forM_goThrough fun bucket _ => IsDocument.get hdocuments bucket
      dsimp only
      rw [← hlisting]
      refine EndsAs.forM fun bucket _ => ?_
      exact (EndsAs.lift .shape _).bind fun _ _ => endsAs_reportAll _

theorem endsAs_checkSetting {content : String} (key : String) (value : Value) :
    EndsAs (checkSetting key value : Check content Unit) (.ok ()) := by
  unfold checkSetting
  -- The value is looked at with or without a report on the name.
  cases filled? value with
  | none =>
    refine EndsAs.ite (fun _ => (EndsAs.report _).bind_ok ?_) fun _ => ?_
    all_goals exact EndsAs.report _
  | some s =>
    refine EndsAs.ite (fun _ => (EndsAs.report _).bind_ok ?_) fun _ => ?_
    all_goals exact EndsAs.ite (fun _ => EndsAs.report _) fun _ => EndsAs.pure ()

theorem endsAs_checkSettings (hread : Json.read c.content = .ok v) : EndsAs (checkSettings c) (.ok ()) :=
  (endsAs_fieldsOf hread).bind_ok <| EndsAs.forM_ok fun _ _ => endsAs_checkSetting _ _

/-! ## 4. All of them -/

theorem mem_rules_of_records {rule : Rule} (hrule : rule ∈ serverRules ++ settingRules) : rule ∈ rules := by
  rcases List.mem_append.mp hrule with hserver | hsetting
  · exact List.mem_append_left _ (List.mem_append_right _ hserver)
  · exact List.mem_append_right _ hsetting

/-- **One rule on any JSON.** -/
theorem endsAs_of_read {rule : Rule} (hrule : rule ∈ serverRules ++ settingRules)
    (hread : Json.read c.content = .ok v) (hoptions : rule.info.Accepts c.options) :
    EndsAs (rule.check c) (listing (listsOf rule.info.id c.options v)) := by
  have hbuiltin := mem_rules_of_records hrule
  simp only [serverRules, settingRules, List.cons_append, List.nil_append, List.mem_cons, List.not_mem_nil,
    or_false] at hrule
  rcases hrule with rfl | rfl | rfl | rfl | rfl
  · exact endsAs_checkTransports hread
  · obtain ⟨w, hw, s, form, rfl, hform⟩ := holds_of_accepts hbuiltin rfl hoptions
    exact endsAs_checkServers hread hw hform
  · exact EndsAs.pure ()
  · exact endsAs_checkPermissions hread
  · exact endsAs_checkSettings hread

/-! ## 5. The categories -/

/-- The options with which a rule is on are accepted by its model. -/
theorem accepts_of_on {config : Option Config} {rule : Rule} (hrule : rule ∈ rules) {path : String}
    {options : Entries} (hon : Runner.optionsIfOn config registry rule.info.id path = .ok (some options)) :
    rule.info.Accepts options := by
  unfold Runner.optionsIfOn at hon
  split at hon
  · cases hon
  · cases hon
  · obtain ⟨os, hos, hsome⟩ := map_eq_ok_iff.mp hon
    cases hsome
    exact Resolver.accepts_of_optionsAt (info?_of_mem hrule) (acceptsDefault hrule) hos

/-- The two categories of records, each with the one of its rules that goes through lists. -/
def unguarded : List (Category × String) := [(.mcp, argumentRule), (.settings, permissionRule)]

theorem ofCategory_of_unguarded {entry : Category × String} (hentry : entry ∈ unguarded) {rule : Rule}
    (hrule : rule ∈ registry.ofCategory entry.1) : rule ∈ serverRules ++ settingRules := by
  have hservers : registry.ofCategory .mcp = serverRules := rfl
  have hsettings : registry.ofCategory .settings = settingRules := rfl
  simp only [unguarded, List.mem_cons, List.not_mem_nil, or_false] at hentry
  rcases hentry with rfl | rfl
  · exact List.mem_append_left _ (hservers ▸ hrule)
  · exact List.mem_append_right _ (hsettings ▸ hrule)

/-- The other rules of the category do not go through anything. -/
theorem listsOf_of_unguarded {entry : Category × String} (hentry : entry ∈ unguarded) {rule : Rule}
    (hrule : rule ∈ registry.ofCategory entry.1) (hne : rule.info.id ≠ entry.2) (options : Entries) (v : Value) :
    listsOf rule.info.id options v = [] := by
  have hall : ∀ entry ∈ unguarded, ∀ rule ∈ registry.ofCategory entry.1, rule.info.id ≠ entry.2 →
      rule.info.id ≠ argumentRule ∧ rule.info.id ≠ permissionRule := by decide +kernel
  obtain ⟨hargument, hpermission⟩ := hall entry hentry rule hrule hne
  rw [listsOf, if_neg hargument, if_neg hpermission]

/-- **One category.**  It fails by a rule exactly if the one that goes through lists is on and fails. -/
theorem crash_iff_of_read {entry : Category × String} (hentry : entry ∈ unguarded) {config : Option Config}
    {reportUnused : Bool} {r : Runner} (hr : Runner.Ready config registry reportUnused r) {content : String}
    (hread : Json.read content = .ok v) (host : Host) (path : String) {id p : String} {cause : Fault} :
    (r.runCategory host entry.1 path content).2 = .error (.crash id p cause) ↔
      id = entry.2 ∧ p = path ∧ ∃ options, Runner.optionsIfOn config registry entry.2 path = .ok (some options) ∧
        listing (listsOf entry.2 options v) = .error cause := by
  have hexists : ∀ entry ∈ unguarded, ∃ rule ∈ registry.ofCategory entry.1, rule.info.id = entry.2 := by
    decide +kernel
  obtain ⟨only, honly, hid⟩ := hexists entry hentry
  have hbuiltin : ∀ rule ∈ registry.ofCategory entry.1, rule ∈ rules := fun rule hrule =>
    mem_rules_of_records (ofCategory_of_unguarded hentry hrule)
  have hends : ∀ rule ∈ registry.ofCategory entry.1, ∀ options,
      Runner.optionsIfOn config registry rule.info.id path = .ok (some options) →
        EndsAs (rule.check ⟨rule.info.id, path, content, options, host⟩)
          (listing (listsOf rule.info.id options v)) := fun rule hrule options hon =>
    endsAs_of_read (c := ⟨rule.info.id, path, content, options, host⟩) (ofCategory_of_unguarded hentry hrule) hread
      (accepts_of_on (hbuiltin rule hrule) hon)
  have hothers : ∀ rule ∈ registry.ofCategory entry.1, rule ≠ only → ∀ options,
      listing (listsOf rule.info.id options v) = .ok () := by
    intro rule hrule hne options
    have hdistinct : rule.info.id ≠ entry.2 := fun heq =>
      hne (eq_of_id_eq (hbuiltin rule hrule) (hbuiltin only honly) (heq.trans hid.symm))
    rw [listsOf_of_unguarded hentry hrule hdistinct]
    rfl
  rw [hr.runCategory_snd, ← hid]
  exact Runner.endOf_eq_crash_iff (fun rule options => listing (listsOf rule.info.id options v)) honly hends hothers
    (fun rule _ => exists_defaultOptions rule.info.id) (fun _ => exists_pattern_of_resolveAfresh) _

/-- **How the rules for records end** on whatever a JSON text holds.  A rule goes through its lists and ends well if
each of them has items or counts as false; otherwise it fails at the first that has not.  So a category fails by a rule
exactly if the one of its rules that has lists is on and fails.  What a report shows of a server besides texts, its
transport, can be shown. -/
theorem records_end (hread : Json.read c.content = .ok v) {rule : Rule}
    (hrule : rule ∈ serverRules ++ settingRules) (hoptions : rule.info.Accepts c.options) (views : Views c.content)
    {entry : Category × String} (hentry : entry ∈ unguarded) {config : Option Config} {reportUnused : Bool}
    {r : Runner} (hr : Runner.Ready config registry reportUnused r) :
    (rule.run c views).1 = listing (listsOf rule.info.id c.options v) ∧
    (∀ (id p : String) (cause : Fault),
      (r.runCategory c.host entry.1 c.path c.content).2 = .error (.crash id p cause) ↔
        id = entry.2 ∧ p = c.path ∧
          ∃ options, Runner.optionsIfOn config registry entry.2 c.path = .ok (some options) ∧
            listing (listsOf entry.2 options v) = .error cause) ∧
    ∀ s ∈ serversOf v, (Entries.get "type" s.2).isShowable = true := by
  have hshown : ∀ s ∈ serversOf v, (Entries.get "type" s.2).isShowable = true := fun s hs =>
    (IsDocument.get (isDocument_of_mem_serversOf (isDocument_of_read hread) hs) "type").isShowable
  exact ⟨Rule.run_fst (endsAs_of_read hrule hread hoptions) views,
    fun _ _ _ => crash_iff_of_read hentry hr hread c.host c.path, hshown⟩

/-- Settings in which true stands for a list of permissions; the number that stands for a transport is passed over by
the rules for settings, and could be shown. -/
theorem records_end_permissions :
    let rule := settingRules[0]
    let content := "\x7b\"permissions\": \x7b\"ask\": true\x7d, " ++
      "\"mcpServers\": \x7b\"a\": \x7b\"type\": 5\x7d\x7d\x7d"
    let v : Value := .map [(.text "permissions", .map [(.text "ask", .bool true)]),
      (.text "mcpServers", .map [(.text "a", .map [(.text "type", .int 5)])])]
    let options : Entries := [(.text "allowEmpty", .bool false)]
    let c : Context := ⟨permissionRule, "settings.json", content, options, ⟨[], [], "/", [], 0⟩⟩
    let r := Family.freshRunner registry none
    Json.read content = .ok v ∧ rule.info.Accepts c.options ∧ Runner.Ready none registry true r ∧
      (rule.run c .unread).1 = .error (.shape (.notIterable "bool")) ∧
      (r.runCategory c.host .settings c.path content).2 =
        .error (.crash permissionRule c.path (.shape (.notIterable "bool"))) ∧
      (Value.int 5).isShowable = true := by
  intro rule content v options c r
  have hread : Json.read content = .ok v := read_of_alike (by decide +kernel)
  have haccepts : rule.info.Accepts c.options := fun m hm => by
    cases hm
    exact ⟨[], rfl⟩
  have hready : Runner.Ready none registry true r := Family.ready_fresh none registry
  have hmem : rule ∈ serverRules ++ settingRules := List.mem_append_right _ (List.getElem_mem _)
  have hon : Runner.optionsIfOn none registry permissionRule c.path = .ok (some options) := rfl
  have hentry : (Category.settings, permissionRule) ∈ unguarded := by decide
  obtain ⟨hrule, hcategory, hshown⟩ := records_end (c := c) hread hmem haccepts .unread hentry hready
  refine ⟨hread, haccepts, hready, hrule, ?_, hshown ("a", [(.text "type", .int 5)]) List.mem_cons_self⟩
  exact (hcategory permissionRule c.path _).mpr ⟨rfl, rfl, options, hon, rfl⟩

/-- **A number for a list ends the run**: of the arguments of a server, or of permissions.  The other fields may be
numbers. -/
theorem number_for_list_ends_the_run :
    let host : Host := ⟨[], [], "/", [], 0⟩
    let ending (category : Category) (path content : String) : Except String Unit :=
      ((Family.freshRunner registry none).runCategory host category path content).2.mapError Fault.message
    ending .mcp ".mcp.json" "\x7b\"mcpServers\": \x7b\"a\": \x7b\"args\": 5\x7d\x7d\x7d" =
        .error "Rule 'mcp-invalid-env-var' failed on .mcp.json: 'int' object is not iterable" ∧
      ending .mcp ".mcp.json" "\x7b\"mcpServers\": \x7b\"a\": \x7b\"type\": 5, \"env\": 5\x7d\x7d\x7d" = .ok () ∧
      ending .settings "settings.json" "\x7b\"permissions\": \x7b\"allow\": 5\x7d\x7d" =
        .error "Rule 'settings-permission-empty-pattern' failed on settings.json: 'int' object is not iterable" ∧
      ending .settings "settings.json" "\x7b\"permissions\": 5, \"env\": 5\x7d" = .ok () := by
  decide +kernel

end Records

end AgentLint.Builtin
