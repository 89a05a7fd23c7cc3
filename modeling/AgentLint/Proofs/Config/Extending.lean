import AgentLint.Config.Load
import AgentLint.Proofs.FileTree.Reading
import AgentLint.Proofs.Sequencing

/-!
# Files that extend files

`loadAux` goes from a file to those that it extends.  Here is what one file has to do with it: the fields that it
holds (`fields`), what it sets by itself (`own`), the paths that it extends (`parentPaths`) and the files that
these lead to (`Extends`).  `Sound` says when nothing is wrong with a file seen alone, and `loadStep_eq_ok_iff` that
a file is loaded exactly if it is sound, is not among those that led to it, and all that it extends is loaded.
The proofs about loading as a whole rest on that, and none of them opens `loadAux` again.
-/

namespace AgentLint

namespace Config

/-! ## 1. The source of a configuration -/

-- A source and the places within it stand in complaints only, so what is read does not depend on them.
section Source

variable (s s' : String)

theorem toOption_parseSetting (rule : String) (v : Value) :
    (parseSetting s rule v).toOption = (parseSetting s' rule v).toOption := by
  unfold parseSetting
  split
  · split
    · rfl
    · rename_i given _
      simp only [toOption_bind]
      cases Severity.parse? given with
      | none => rfl
      | some sev =>
        simp only
        split <;> rfl
  · simp only [toOption_map]
    generalize Severity.parse? _ = found
    cases found <;> rfl

theorem toOption_parseEntries : ∀ (es : Entries) (acc : RuleSettings),
    (parseEntries s acc es).toOption = (parseEntries s' acc es).toOption
  | [], _ => rfl
  | (k, v) :: es, acc => by
    rw [parseEntries, parseEntries]
    cases k.display? with
    | none => rfl
    | some rule =>
      simp only
      have hsetting := toOption_parseSetting s s' rule v
      cases h : parseSetting s rule v with
      | error e =>
        cases h' : parseSetting s' rule v with
        | error e' => rfl
        | ok x' =>
          rw [h, h'] at hsetting
          cases hsetting
      | ok x =>
        rw [h] at hsetting
        rw [toOption_eq_some_iff.mp hsetting.symm]
        exact toOption_parseEntries es _

theorem toOption_parseRules (v : Value) : (parseRules s v).toOption = (parseRules s' v).toOption := by
  unfold parseRules
  split
  · rfl
  · exact toOption_parseEntries s s' _ _
  · rfl

theorem toOption_parseOverride (v : Value) :
    (parseOverride s v).toOption = (parseOverride s' v).toOption := by
  unfold parseOverride
  split
  · rename_i es
    have hfiles : (parseFiles s (Entries.get "files" es)).toOption =
        (parseFiles s' (Entries.get "files" es)).toOption := by
      unfold parseFiles
      split <;> rfl
    simp only [toOption_bind, hfiles, toOption_parseRules s s']
  · rfl

theorem toOption_parseBlocks : ∀ (vs : List Value) (index : Nat),
    (parseBlocks s index vs).toOption = (parseBlocks s' index vs).toOption
  | [], _ => rfl
  | v :: vs, index => by
    rw [parseBlocks, parseBlocks]
    simp only [toOption_bind, toOption_parseBlocks vs (index + 1),
      toOption_parseOverride (overridePlace s index) (overridePlace s' index) v]

/-- **The source is only named in complaints.** -/
theorem toOption_parse (v : Value) : (parse s v).toOption = (parse s' v).toOption := by
  unfold parse
  split
  · rename_i es
    have hignore : (parseIgnore s (Entries.get? "ignorePatterns" es)).toOption =
        (parseIgnore s' (Entries.get? "ignorePatterns" es)).toOption := by
      unfold parseIgnore
      split <;> rfl
    have hlimit : (parseLimit s (Entries.get "maxWarnings" es)).toOption =
        (parseLimit s' (Entries.get "maxWarnings" es)).toOption := by
      unfold parseLimit
      split <;> rfl
    have hoverrides : (parseOverrides s (Entries.get "overrides" es)).toOption =
        (parseOverrides s' (Entries.get "overrides" es)).toOption := by
      unfold parseOverrides
      split
      · rfl
      · exact toOption_parseBlocks s s' _ 0
      · rfl
    simp only [toOption_bind, hignore, hlimit, hoverrides, toOption_parseRules s s']
  · rfl

end Source

/-! ## 2. What a file holds -/

/-- `Holds f text es`: the text of the file `f` is a document with the fields `es`. -/
inductive Holds (f : Path) (text : String) : Entries → Prop where
  /-- A JSON map. -/
  | json {es : Entries} (suffix : f.suffix = ".json") (written : Text.isBlankText text = false)
    (read : Json.read text = .ok (.map es)) : Holds f text es
  /-- A blank JSON file. -/
  | blank (suffix : f.suffix = ".json") (blank : Text.isBlankText text = true) : Holds f text []
  /-- A YAML map. -/
  | yaml {es : Entries} (suffix : f.suffix ≠ ".json") (read : Yaml.read text = .ok (.map es)) : Holds f text es
  /-- A YAML document that counts as false. -/
  | falsy {v : Value} (suffix : f.suffix ≠ ".json") (read : Yaml.read text = .ok v) (falsy : v.truthy = false) :
    Holds f text []

theorem Stack.demand_ample (depth : Nat) (t : Task) : Stack.ample.demand depth t = .ok () := rfl

/-- With ample room nothing but the text decides. -/
theorem readDocument_ample (f : Path) (text : String) (depth : Nat) :
    readDocument f text .ample depth =
      if f.suffix = ".json" then
        if Text.isBlankText text then .ok (.map [])
        else
          match Json.read text with
          | .ok v => .ok v
          | .error (.malformed m) => .error (.config (.notJson f.text m))
          | .error r => .error (.json r)
      else
        match Yaml.read text with
        | .ok v => .ok (if v.truthy then v else .map [])
        | .error (.malformed _) => .error (.config (.notYaml f.text))
        | .error (.scalar s) => .error (.scalar s) := rfl

theorem readDocument_eq_map_iff {f : Path} {text : String} {es : Entries} :
    readDocument f text = .ok (.map es) ↔ Holds f text es := by
  rw [readDocument_ample]
  constructor
  · intro h
    split at h
    · rename_i hs
      split at h
      · rename_i hb
        cases h
        exact .blank hs hb
      · rename_i hb
        split at h
        · rename_i v hr
          cases h
          exact .json hs (by simpa using hb) hr
        · cases h
        · cases h
    · rename_i hs
      split at h
      · rename_i v hr
        cases hv : v.truthy with
        | true =>
          rw [hv, if_pos rfl] at h
          cases h
          exact .yaml hs hr
        | false =>
          rw [hv, if_neg Bool.false_ne_true] at h
          cases h
          exact .falsy hs hr hv
      · cases h
      · cases h
  · rintro (⟨hs, hb, hr⟩ | ⟨hs, hb⟩ | ⟨hs, hr⟩ | ⟨hs, hr, hv⟩)
    · simp only [if_pos hs, hb, Bool.false_eq_true, if_false, hr]
    · simp only [if_pos hs, hb, if_true]
    · simp only [if_neg hs, hr]
      cases es with
      | nil => rfl
      | cons e es => rfl
    · simp only [if_neg hs, hr, hv, Bool.false_eq_true, if_false]

variable {h : Host} {f g : Path}

theorem readFields_eq_ok_iff {es : Entries} :
    readFields h f = .ok es ↔ ∃ bytes text, h.readBytes f.text = .ok bytes ∧ Utf8.decode bytes = .ok text ∧
      Holds f (Utf8.universalNewlines text) es := by
  constructor
  · intro hf
    unfold readFields at hf
    split at hf
    · cases hf
    · cases hf
    · rename_i content ht
      obtain ⟨bytes, text, hb, hd, rfl⟩ := Host.readText_eq_ok_iff.mp ht
      refine ⟨bytes, text, hb, hd, readDocument_eq_map_iff.mp ?_⟩
      split at hf
      · cases hf
      · rename_i hr
        cases hf
        exact hr
      · cases hf
  · rintro ⟨bytes, text, hb, hd, hholds⟩
    have hread := readDocument_eq_map_iff.mpr hholds
    unfold readFields
    rw [Host.readText_of_decode hb hd]
    simp only [hread]

/-- The fields of a file; none if it cannot be read. -/
def fields (h : Host) (f : Path) (stack : Stack := .ample) (depth : Nat := 0) : Entries :=
  (readFields h f stack depth).toOption.getD []

/-- What a file sets by itself: a configuration, and which of the single values. -/
def own (h : Host) (f : Path) : Loaded :=
  ((parse f.text (.map (fields h f))).toOption.getD {}, ScalarKeys.ofFields (fields h f))

/-- What a file says that it extends; null if it does not. -/
def extension (h : Host) (f : Path) (stack : Stack := .ample) (depth : Nat := 0) : Value :=
  Entries.get "extends" (fields h f stack depth)

/-- The files that it extends, as they are written: one, or a list. -/
def entries (h : Host) (f : Path) (stack : Stack := .ample) (depth : Nat := 0) : List Value :=
  match extension h f stack depth with
  | .text s => [.text s]
  | .list vs => vs
  | _ => []

/-- The path that is written for a file to extend, seen from the directory of the file that extends it. -/
def entryPath (f : Path) : Value → Path
  | .text s => f.parent.join (Path.ofString s)
  | _ => f

/-- The paths that a file extends. -/
def parentPaths (h : Host) (f : Path) (stack : Stack := .ample) (depth : Nat := 0) : List Path :=
  (entries h f stack depth).map (entryPath f)

/-- One file extends another: a path that it extends leads there. -/
def Extends (h : Host) (f g : Path) : Prop := ∃ p ∈ parentPaths h f, h.resolve p = .ok g

/-- Nothing is wrong with a file seen alone: it is UTF-8, it is a map, it is accepted as a configuration, and if it
extends anything, that is given by texts that are not blank and lead from its directory to regular files. -/
structure Sound (h : Host) (f : Path) : Prop where
  read : ∃ bytes text, h.readBytes f.text = .ok bytes ∧ Utf8.decode bytes = .ok text ∧
    Holds f (Utf8.universalNewlines text) (fields h f)
  accepted : ∃ c, parse f.text (.map (fields h f)) = .ok c
  extending : extension h f = .null ∨ entries h f ≠ []
  entries : ∀ e ∈ entries h f, ∃ s, e = .text s ∧ Text.isBlankText s = false ∧
    h.isFile (f.parent.join (Path.ofString s)).text = .ok true

theorem entries_of_null (hnull : extension h f = .null) : entries h f = [] := by
  unfold entries
  split
  · rename_i s hx
    cases hnull.symm.trans hx
  · rename_i vs hx
    cases hnull.symm.trans hx
  · rfl

theorem fields_eq {stack : Stack} {depth : Nat} {es : Entries} (hr : readFields h f stack depth = .ok es) :
    fields h f stack depth = es := by
  rw [fields, hr]
  rfl

theorem Sound.readFields_eq (hs : Sound h f) : readFields h f = .ok (fields h f) :=
  readFields_eq_ok_iff.mpr hs.read

theorem own_eq {source : String} {c : Config} (hp : parse source (.map (fields h f)) = .ok c) :
    own h f = (c, ScalarKeys.ofFields (fields h f)) := by
  have hsame := toOption_parse f.text source (.map (fields h f))
  rw [hp] at hsame
  rw [own, hsame]
  rfl

/-- A file that is sound sets what it is accepted with, whatever it is called. -/
theorem Sound.parse_eq (hs : Sound h f) (source : String) :
    parse source (.map (fields h f)) = .ok (own h f).1 := by
  obtain ⟨c, hc⟩ := hs.accepted
  have hsame := toOption_parse source f.text (.map (fields h f))
  rw [hc] at hsame
  rw [own_eq hc]
  exact toOption_eq_some_iff.mp hsame

/-! ## 3. What a file extends -/

theorem extended_eq_none_iff {source : String} {v : Value} : extended source v = .ok none ↔ v = .null := by
  unfold extended
  split
  · exact ⟨fun _ => rfl, fun _ => rfl⟩
  · exact ⟨fun hn => (by cases hn), fun hn => (by cases hn)⟩
  · exact ⟨fun hn => (by cases hn), fun hn => (by cases hn)⟩
  · rename_i hnull _ _
    exact ⟨fun hn => (by cases hn), fun hn => absurd hn hnull⟩

theorem extended_eq_some_iff {stack : Stack} {depth : Nat} {source : String} {es : List Value} :
    extended source (extension h f stack depth) = .ok (some es) ↔ entries h f stack depth = es ∧ es ≠ [] := by
  unfold extended entries
  split
  · rename_i hx
    rw [hx]
    exact ⟨fun hs => (by cases hs), fun hs => absurd hs.1.symm hs.2⟩
  · rename_i s hx
    rw [hx]
    refine ⟨fun hs => ?_, fun hs => by rw [← hs.1]⟩
    cases hs
    exact ⟨rfl, List.cons_ne_nil _ _⟩
  · rename_i v vs hx
    rw [hx]
    refine ⟨fun hs => ?_, fun hs => by rw [← hs.1]⟩
    cases hs
    exact ⟨rfl, List.cons_ne_nil _ _⟩
  · rename_i hnull htext hlist
    refine ⟨fun hs => (by cases hs), fun hs => ?_⟩
    obtain ⟨rfl, hne⟩ := hs
    split at hne
    · rename_i s hx
      exact absurd hx (htext s)
    · rename_i vs hx
      cases vs with
      | nil => exact absurd rfl hne
      | cons v vs => exact absurd hx (hlist v vs)
    · exact absurd rfl hne

theorem parentPath_eq_ok_iff {source : String} {e : Value} {p : Path} :
    parentPath h source f.parent e = .ok p ↔
      (∃ s, e = .text s ∧ Text.isBlankText s = false ∧
        h.isFile (f.parent.join (Path.ofString s)).text = .ok true) ∧ entryPath f e = p := by
  unfold parentPath
  split
  · rename_i s
    simp only [Value.text.injEq, exists_eq_left', entryPath]
    cases hb : Text.isBlankText s with
    | true => simp
    | false =>
      simp only [Bool.false_eq_true, if_false, true_and]
      cases hf : h.isFile (f.parent.join (Path.ofString s)).text with
      | error e => simp
      | ok there => cases there <;> simp
  · rename_i e hno
    refine ⟨fun he => (by cases he), ?_⟩
    rintro ⟨⟨s, rfl, -⟩, -⟩
    exact absurd rfl (hno s)

/-! ## 4. One file after the other -/

/-- What was loaded, put together in order. -/
def stack (rs : List Loaded) : Loaded := rs.foldl Loaded.over ({}, {})

/-- Loads a file, given how those are loaded that it extends. -/
def loadStep (h : Host) (stack : Stack) (next : Path → List Path → Except Fault Loaded) (path : Path)
    (chain : List Path) : Except Fault Loaded := do
  let depth := chain.length
  stack.demand depth (.resolve path)
  let resolved ← (h.resolve path).mapError .file
  if resolved ∈ chain then throw (.config (.cycle ((chain ++ [resolved]).map Path.text)))
  stack.demand depth (.read resolved)
  let fields ← readFields h resolved stack depth
  stack.demand depth (.parse fields)
  let own ← (parse path.text (.map fields)).mapError .ofConfig
  let keys := ScalarKeys.ofFields fields
  match ← (extended path.text (Entries.get "extends" fields)).mapError .config with
  | none => pure (own, keys)
  | some entries =>
    let parents ← entries.foldlM (fun (acc : Loaded) entry => do
      stack.demand depth (.entry entry)
      let parent ← parentPath h path.text resolved.parent entry
      let loaded ← next parent (chain ++ [resolved])
      pure (acc.over loaded)) ({}, {})
    pure (parents.over (own, keys))

theorem loadAux_succ (h : Host) (stack : Stack) (fuel : Nat) :
    loadAux h stack (fuel + 1) = loadStep h stack (loadAux h stack fuel) := by
  funext path chain
  rfl

theorem readFields_ample (h : Host) (f : Path) (depth : Nat) : readFields h f .ample depth = readFields h f := by
  unfold readFields
  simp only [readDocument_ample]

/-- With ample room nothing is demanded. -/
theorem loadStep_ample (h : Host) (next : Path → List Path → Except Fault Loaded) (path : Path)
    (chain : List Path) :
    loadStep h .ample next path chain = (do
      let resolved ← (h.resolve path).mapError .file
      if resolved ∈ chain then throw (.config (.cycle ((chain ++ [resolved]).map Path.text)))
      let fields ← readFields h resolved
      let own ← (parse path.text (.map fields)).mapError .ofConfig
      let keys := ScalarKeys.ofFields fields
      match ← (extended path.text (Entries.get "extends" fields)).mapError .config with
      | none => pure (own, keys)
      | some entries =>
        let parents ← entries.foldlM (fun (acc : Loaded) entry => do
          let parent ← parentPath h path.text resolved.parent entry
          let loaded ← next parent (chain ++ [resolved])
          pure (acc.over loaded)) ({}, {})
        pure (parents.over (own, keys))) := by
  simp only [loadStep, Stack.demand_ample, readFields_ample]
  rfl

variable {next : Path → List Path → Except Fault Loaded} {path : Path} {chain : List Path}

/-- What a file extends is loaded one after the other. -/
theorem foldlM_parents_eq_ok_iff {source : String} {r : Loaded} : ∀ {es : List Value} {acc : Loaded},
    es.foldlM (fun (acc : Loaded) entry => do
        let parent ← parentPath h source f.parent entry
        let loaded ← next parent chain
        pure (acc.over loaded)) acc = .ok r ↔
      (∀ e ∈ es, ∃ s, e = .text s ∧ Text.isBlankText s = false ∧
        h.isFile (f.parent.join (Path.ofString s)).text = .ok true) ∧
      ∃ rs, List.Forall₂ (fun p loaded => next p chain = .ok loaded) (es.map (entryPath f)) rs ∧
        r = rs.foldl Loaded.over acc
  | [], acc => by
    rw [List.foldlM_nil]
    constructor
    · intro hr
      cases hr
      exact ⟨nofun, [], .nil, rfl⟩
    · rintro ⟨-, rs, hrs, rfl⟩
      cases hrs
      rfl
  | e :: es, acc => by
    rw [List.foldlM_cons, bind_eq_ok_iff]
    simp only [bind_eq_ok_iff, parentPath_eq_ok_iff, foldlM_parents_eq_ok_iff, List.forall_mem_cons]
    constructor
    · rintro ⟨_, ⟨p, ⟨hentry, rfl⟩, loaded, hloaded, hacc⟩, hentries, rs, hrs, rfl⟩
      cases hacc
      exact ⟨⟨hentry, hentries⟩, loaded :: rs, .cons hloaded hrs, rfl⟩
    · rintro ⟨⟨hentry, hentries⟩, rs, hrs, rfl⟩
      cases hrs with
      | @cons _ loaded _ rs hloaded hrs =>
        exact ⟨_, ⟨_, ⟨hentry, rfl⟩, loaded, hloaded, rfl⟩, hentries, rs, hrs, rfl⟩

/-- What a file comes to, given what it extends: it is put over that, or stands alone. -/
def assembled (h : Host) (f : Path) (rs : List Loaded) : Loaded :=
  if rs.isEmpty then own h f else (stack rs).over (own h f)

theorem assembled_nil (h : Host) (f : Path) : assembled h f [] = own h f := rfl

theorem assembled_of_ne_nil (h : Host) (f : Path) {rs : List Loaded} (hne : rs ≠ []) :
    assembled h f rs = (stack rs).over (own h f) := by
  rw [assembled, if_neg (by simpa using hne)]

/-- Nothing is loaded for a file exactly if it extends nothing. -/
theorem eq_nil_iff_of_forall₂ {β : Type} {R : Path → β → Prop} {rs : List β}
    (hrs : List.Forall₂ R (parentPaths h f) rs) : rs = [] ↔ entries h f = [] := by
  rw [← List.length_eq_zero_iff, ← hrs.length_eq, parentPaths, List.length_map, List.length_eq_zero_iff]

/-- **One step of loading**: the file is new and sound, and all that it extends is loaded. -/
theorem loadStep_eq_ok_iff {r : Loaded} :
    loadStep h .ample next path chain = .ok r ↔ ∃ f, h.resolve path = .ok f ∧ f ∉ chain ∧ Sound h f ∧
      ∃ rs, List.Forall₂ (fun p loaded => next p (chain ++ [f]) = .ok loaded) (parentPaths h f) rs ∧
        r = assembled h f rs := by
  rw [loadStep_ample, bind_eq_ok_iff]
  simp only [mapError_eq_ok_iff]
  refine exists_congr fun f => and_congr_right fun _ => ?_
  by_cases hf : f ∈ chain
  · rw [if_pos hf]
    exact ⟨nofun, fun hr => absurd hf hr.1⟩
  rw [if_neg hf]
  simp only [bind_eq_ok_iff, mapError_eq_ok_iff, hf, not_false_eq_true, true_and]
  constructor
  · rintro ⟨es, hes, c, hc, extending, hx, hend⟩
    obtain rfl := fields_eq hes
    have hown := own_eq hc
    have hread := readFields_eq_ok_iff.mp hes
    have haccepted : ∃ c, parse f.text (.map (fields h f)) = .ok c := by
      have hsame := toOption_parse f.text path.text (.map (fields h f))
      rw [hc] at hsame
      exact ⟨c, toOption_eq_some_iff.mp hsame⟩
    cases extending with
    | none =>
      have hnull : extension h f = .null := extended_eq_none_iff.mp hx
      have hnone : entries h f = [] := entries_of_null hnull
      cases hend
      refine ⟨⟨hread, haccepted, .inl hnull, ?_⟩, [], ?_, ?_⟩
      · rw [hnone]
        exact nofun
      · rw [parentPaths, hnone]
        exact .nil
      · rw [assembled_nil, hown]
    | some es =>
      obtain ⟨rfl, hne⟩ := extended_eq_some_iff.mp hx
      obtain ⟨stacked, hstacked, hend⟩ := bind_eq_ok_iff.mp hend
      obtain ⟨hentries, rs, hrs, rfl⟩ := foldlM_parents_eq_ok_iff.mp hstacked
      cases hend
      refine ⟨⟨hread, haccepted, .inr hne, hentries⟩, rs, hrs, ?_⟩
      rw [assembled_of_ne_nil h f (mt (eq_nil_iff_of_forall₂ hrs).mp hne), hown]
      rfl
  · rintro ⟨hs, rs, hrs, rfl⟩
    refine ⟨fields h f, hs.readFields_eq, (own h f).1, hs.parse_eq path.text, ?_⟩
    rcases eq_or_ne (extension h f) .null with hnull | hnull
    · rw [parentPaths, entries_of_null hnull] at hrs
      cases hrs
      exact ⟨none, extended_eq_none_iff.mpr hnull, rfl⟩
    · have hne := hs.extending.resolve_left hnull
      refine ⟨some (entries h f), extended_eq_some_iff.mpr ⟨rfl, hne⟩, ?_⟩
      refine bind_eq_ok_iff.mpr ⟨stack rs, foldlM_parents_eq_ok_iff.mpr ⟨hs.entries, rs, hrs, rfl⟩, ?_⟩
      rw [assembled_of_ne_nil h f (mt (eq_nil_iff_of_forall₂ hrs).mp hne)]
      rfl

/-- A path that a file extends is a text, seen from its directory. -/
theorem exists_of_parentPath {source : String} {e : Value} {p : Path}
    (hp : parentPath h source f.parent e = .ok p) : ∃ s, p = f.parent.join (Path.ofString s) := by
  obtain ⟨⟨s, rfl, -⟩, rfl⟩ := parentPath_eq_ok_iff.mp hp
  exact ⟨s, rfl⟩

/-- A step asks for other files only behind a new file that is readable, and seen from its directory. -/
theorem loadStep_congr {next' : Path → List Path → Except Fault Loaded}
    (hnext : ∀ f es s, h.resolve path = .ok f → f ∉ chain → readFields h f = .ok es →
      next (f.parent.join (Path.ofString s)) (chain ++ [f]) =
        next' (f.parent.join (Path.ofString s)) (chain ++ [f])) :
    loadStep h .ample next path chain = loadStep h .ample next' path chain := by
  rw [loadStep_ample, loadStep_ample]
  refine bind_congr_of_ok fun f hresolved => ?_
  have hf : h.resolve path = .ok f := mapError_eq_ok_iff.mp hresolved
  by_cases hchain : f ∈ chain
  · rw [if_pos hchain, if_pos hchain]
    rfl
  · rw [if_neg hchain, if_neg hchain]
    refine bind_congr_of_ok fun es hes => bind_congr_of_ok fun c _ => bind_congr_of_ok fun extending _ => ?_
    have hstep : ∀ (acc : Loaded) (e : Value),
        (do
          let parent ← parentPath h path.text f.parent e
          let loaded ← next parent (chain ++ [f])
          pure (acc.over loaded)) =
        (do
          let parent ← parentPath h path.text f.parent e
          let loaded ← next' parent (chain ++ [f])
          pure (acc.over loaded)) := fun acc e => by
      refine bind_congr_of_ok fun p hp => ?_
      obtain ⟨s, rfl⟩ := exists_of_parentPath hp
      rw [hnext f es s hf hchain hes]
    simp only [hstep]

/-! ## 5. Four files -/

/-- `a.json` extends `b.json` and `c.json`, and both of them extend `d.json`.  The limit on warnings that is set
there is lifted by `a.json`. -/
def diamond : Host where
  tree :=
    [(["a.json"], .file (Utf8.encode
        "\x7b\"extends\": [\"b.json\", \"c.json\"], \"maxWarnings\": null\x7d") 1),
     (["b.json"], .file (Utf8.encode "\x7b\"extends\": \"d.json\"\x7d") 1),
     (["c.json"], .file (Utf8.encode "\x7b\"extends\": \"d.json\", \"ignorePatterns\": [\"y\"]\x7d") 1),
     (["d.json"], .file (Utf8.encode "\x7b\"maxWarnings\": 3, \"ignorePatterns\": [\"x\", \"y\"]\x7d") 1)]
  cwd := []
  home := "/"
  accounts := []
  now := 0

/-- Patterns that come in on two ways are there once, and the limit is lifted. -/
theorem load_diamond_shows :
    ((load diamond (.ofString "a.json")).toOption.map fun c => (c.ignorePatterns, c.maxWarnings)) =
      some (["x", "y"], none) := by
  decide +kernel

end Config

end AgentLint
