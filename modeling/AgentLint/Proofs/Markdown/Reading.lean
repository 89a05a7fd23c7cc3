import AgentLint.Proofs.Markdown.Header
import AgentLint.Proofs.Sequencing
import AgentLint.Rule.Basic

/-!
# What is read of a header

`Frontmatter.read` is told here by the header of a text and by what YAML says of it (`read_of_headed`,
`read_of_not_headed`).  A text without a header is its own body.  A header is usable if it is a YAML map, where an
empty document counts as an empty map; if it is something else, or no YAML at all, there are no fields and there is
a complaint.

This is to be the outcome for every text, and it is for all but those whose header holds a scalar that does not
convert, such as the thirteenth month of a year (`read_ends`).  Reading such a text fails, and with it every check
that asks for the frontmatter.
-/

namespace AgentLint

namespace Frontmatter

open Text

/-! ## 1. By the header -/

namespace Parts

/-- The text of the header, without its last line end. -/
def header (p : Parts) : String := String.ofList p.block.raw

/-- What is read of a text with these parts. -/
def made (p : Parts) (h : Header) : Frontmatter := ⟨h, String.ofList p.body, p.block.offset, p.header⟩

end Parts

section Header

variable {content : String} {p : Parts} {f : Frontmatter} {s : Yaml.ScalarFault}

theorem read_of_headed (hp : Headed 1 content.toList p) :
    read content = match Yaml.read p.header with
      | .ok v => .ok (p.made (.ofValue v))
      | .error (.malformed _) => .ok (p.made .notYaml)
      | .error (.scalar s) => .error s := by
  have hblock : block? content.toList = some p.block := block?_eq_some_iff.mpr ⟨p, hp, rfl⟩
  rw [read, hblock]
  simp only [p.body_block]
  rfl

theorem read_of_not_headed (h : ¬ ∃ p, Headed 1 content.toList p) : read content = .ok ⟨.absent, content, 0, ""⟩ := by
  rw [read, block?_eq_none_iff.mpr h]

/-- The closing line is the first one, so the parts of a text are known from the text. -/
theorem Headed.block_unique {q : Parts} (hp : Headed 1 content.toList p) (hq : Headed 1 content.toList q) :
    p.block = q.block := by
  have hblock : block? content.toList = some p.block := block?_eq_some_iff.mpr ⟨p, hp, rfl⟩
  exact Option.some.inj (hblock.symm.trans (block?_eq_some_iff.mpr ⟨q, hq, rfl⟩))

/-- Whatever has been read has been read with or without a header. -/
theorem made_of_read (h : read content = .ok f) :
    (¬ (∃ p, Headed 1 content.toList p) ∧ f = ⟨.absent, content, 0, ""⟩) ∨
      ∃ p, Headed 1 content.toList p ∧
        ((∃ v, Yaml.read p.header = .ok v ∧ f = p.made (.ofValue v)) ∨
          ∃ m, Yaml.read p.header = .error (.malformed m) ∧ f = p.made .notYaml) := by
  by_cases hp : ∃ p, Headed 1 content.toList p
  · obtain ⟨p, hp⟩ := hp
    refine .inr ⟨p, hp, ?_⟩
    rw [read_of_headed hp] at h
    cases hyaml : Yaml.read p.header with
    | ok v =>
      rw [hyaml] at h
      exact .inl ⟨v, rfl, (Except.ok.inj h).symm⟩
    | error fault =>
      rw [hyaml] at h
      cases fault with
      | malformed m => exact .inr ⟨m, rfl, (Except.ok.inj h).symm⟩
      | scalar s => cases h
  · rw [read_of_not_headed hp] at h
    exact .inl ⟨hp, (Except.ok.inj h).symm⟩

/-- **Reading fails** on a scalar of the header, and on nothing else. -/
theorem read_eq_error_iff :
    read content = .error s ↔ ∃ p, Headed 1 content.toList p ∧ Yaml.read p.header = .error (.scalar s) := by
  constructor
  · intro h
    by_cases hp : ∃ p, Headed 1 content.toList p
    · obtain ⟨p, hp⟩ := hp
      refine ⟨p, hp, ?_⟩
      rw [read_of_headed hp] at h
      cases hyaml : Yaml.read p.header with
      | ok v =>
        rw [hyaml] at h
        cases h
      | error fault =>
        rw [hyaml] at h
        cases fault with
        | malformed m => cases h
        | scalar s' =>
          cases h
          rfl
    · rw [read_of_not_headed hp] at h
      cases h
  · rintro ⟨p, hp, hyaml⟩
    rw [read_of_headed hp, hyaml]

theorem present_made (p : Parts) {h : Header} (hne : h ≠ .absent) : (p.made h).present = true := by
  cases h with
  | absent => exact absurd rfl hne
  | notYaml | notMapping | fields => rfl

theorem Header.ofValue_ne_absent (v : Value) : Header.ofValue v ≠ .absent := by
  cases v <;> exact nofun

/-- There is a header if one is found. -/
theorem present_iff (h : read content = .ok f) : f.present = true ↔ ∃ p, Headed 1 content.toList p := by
  rcases made_of_read h with ⟨hno, rfl⟩ | ⟨p, hp, ⟨v, -, rfl⟩ | ⟨m, -, rfl⟩⟩
  · exact ⟨nofun, fun hp => absurd hp hno⟩
  · exact ⟨fun _ => ⟨p, hp⟩, fun _ => present_made p (Header.ofValue_ne_absent v)⟩
  · exact ⟨fun _ => ⟨p, hp⟩, fun _ => rfl⟩

/-! ## 2. Fields and complaints -/

/-- What a YAML document is as a map: an empty document is an empty one. -/
def mapping? : Value → Option Entries
  | .null => some []
  | .map es => some es
  | _ => none

theorem data?_made (p : Parts) (v : Value) : (p.made (.ofValue v)).data? = mapping? v := by
  cases v <;> rfl

theorem complaint?_made (p : Parts) (v : Value) : (p.made (.ofValue v)).complaint? =
    if mapping? v = none then some "Frontmatter must be a YAML mapping" else none := by
  cases v <;> rfl

end Header

end Frontmatter

/-! ## 3. The view -/

/-- A kept value is the computed one, so asking for it gives what the computation gives. -/
theorem Memo.get_map {ε α : Type} {compute : Unit → Except ε α} (m : Memo compute) :
    m.get.map Subtype.val = compute () := by
  have hattach : ∀ outcome : Except ε α, (Memo.attach outcome).map Subtype.val = outcome := by
    intro outcome
    cases outcome <;> rfl
  unfold Memo.get
  split
  · rename_i a ha
    exact (m.sound a ha).symm
  · exact hattach (compute ())

theorem Check.exec_view {content : String} {α : Type}
    (f : Views content → Except Yaml.ScalarFault (α × Views content)) (t : Trace content) :
    exec (Check.view f) t = match f t.views with
      | .ok (a, v) => (.ok a, { t with views := v })
      | .error e => (.error (.scalar e), t) := by
  unfold Check.view
  rw [exec_bind, exec_get]
  cases hf : f t.views with
  | error e =>
    simp only [hf]
    rfl
  | ok x =>
    simp only [hf]
    rfl

/-- What a check gets that asks for the frontmatter, whichever views were read before. -/
theorem Check.exec_frontmatter {content : String} (t : Trace content) :
    exec (Check.frontmatter : Check content Frontmatter) t = match t.views.readFrontmatter with
      | .ok (f, v) => (.ok (t.seen f), { t with views := v })
      | .error e => (.error (.scalar e), t) := by
  unfold Check.frontmatter
  rw [exec_bind, exec_view]
  cases t.views.readFrontmatter <;> rfl

theorem Views.map_fst_readFrontmatter {content : String} (v : Views content) :
    v.readFrontmatter.map Prod.fst = Frontmatter.read content := by
  have hget : v.frontmatter.get.map Subtype.val = Frontmatter.read content := by
    rw [Memo.get_map, frontmatterOf]
  rw [← hget, readFrontmatter]
  cases v.frontmatter.get <;> rfl

/-- Of the text as it is, a check sees what is read of it; the fields are those that the rules before it have left. -/
theorem Check.exec_frontmatter_fst {content : String} (t : Trace content) :
    (exec (Check.frontmatter : Check content Frontmatter) t).1 =
      ((Frontmatter.read content).map t.seen).mapError .scalar := by
  rw [exec_frontmatter, ← t.views.map_fst_readFrontmatter]
  cases t.views.readFrontmatter <;> rfl

/-! ## 4. How reading ends -/

namespace Frontmatter

/-- **How reading ends.**  A text is read unless a scalar of its header does not convert.  What is read has fields
if the header is a map, an empty header being an empty map, and a complaint if it is anything else.  Every check
that asks for the frontmatter gets the same, with its fields as the rules before it have left them: it fails on the
texts that cannot be read, whatever rules have run before it. -/
theorem read_ends (content : String) :
    (∀ s, read content = .error s ↔
      ∃ p, Headed 1 content.toList p ∧ Yaml.read p.header = .error (.scalar s)) ∧
    (∀ f, read content = .ok f →
      (f.present = true ↔ ∃ p, Headed 1 content.toList p) ∧
      (f.present = false → f.data? = none ∧ f.complaint? = none) ∧
      ∀ p, Headed 1 content.toList p →
        f.data? = (Yaml.read p.header).toOption.bind mapping? ∧
        f.complaint? = match Yaml.read p.header with
          | .ok v => if mapping? v = none then some "Frontmatter must be a YAML mapping" else none
          | .error _ => some "Failed to parse YAML frontmatter: <yaml error>") ∧
    ∀ t : Trace content,
      (exec (Check.frontmatter : Check content Frontmatter) t).1 = ((read content).map t.seen).mapError .scalar := by
  refine ⟨fun s => read_eq_error_iff, fun f hf => ⟨present_iff hf, ?_, fun p hp => ?_⟩, Check.exec_frontmatter_fst⟩
  · rcases made_of_read hf with ⟨-, rfl⟩ | ⟨p, hp, -⟩
    · exact fun _ => ⟨rfl, rfl⟩
    · intro hno
      rw [(present_iff hf).mpr ⟨p, hp⟩] at hno
      cases hno
  · rw [read_of_headed hp] at hf
    cases hyaml : Yaml.read p.header with
    | ok v =>
      rw [hyaml] at hf
      cases hf
      exact ⟨data?_made p v, complaint?_made p v⟩
    | error fault =>
      rw [hyaml] at hf
      cases fault with
      | malformed m =>
        cases hf
        exact ⟨rfl, rfl⟩
      | scalar s => cases hf

/-- A header that is a list is read, without fields and with a complaint. -/
theorem read_ends_list : ∃ f, read "---\n- a\n---\nb" = .ok f ∧ f.present = true ∧ f.data? = none ∧
    f.complaint? = some "Frontmatter must be a YAML mapping" := by
  let p : Parts := ⟨"---".toList, ["- a".toList], "---".toList, ["b".toList]⟩
  have hended : IsEndedRule "---".toList := ⟨_, ⟨[], List.forall_mem_nil _, rfl⟩, .inl rfl⟩
  have hp : Headed 1 "---\n- a\n---\nb".toList p := ⟨by decide, hended, hended, le_rfl, List.forall_mem_nil _⟩
  have hlist : (Yaml.read p.header).toOption.any (fun v => (mapping? v).isNone) = true := by decide +kernel
  obtain ⟨v, hv, hmapping⟩ := (Option.any_eq_true _ _).mp hlist
  have hnone : mapping? v = none := Option.isNone_iff_eq_none.mp hmapping
  obtain ⟨f, hok⟩ : ∃ f, read "---\n- a\n---\nb" = .ok f := by
    rw [read_of_headed hp, eq_ok_of_toOption hv]
    exact ⟨_, rfl⟩
  obtain ⟨hpresent, -, hparts⟩ := (read_ends _).2.1 f hok
  obtain ⟨hdata, hcomplaint⟩ := hparts p hp
  rw [eq_ok_of_toOption hv] at hdata hcomplaint
  exact ⟨f, hok, hpresent.mpr ⟨p, hp⟩, hdata.trans hnone, hcomplaint.trans (if_pos hnone)⟩

/-- The thirteenth month of a year is no YAML error, and the text is not read. -/
theorem read_thirteenth_month : read "---\nd: 2024-13-45\n---\n" = .error .month := by
  have hread : (read "---\nd: 2024-13-45\n---\n").map (fun _ => ()) = .error .month := by decide +kernel
  cases hend : read "---\nd: 2024-13-45\n---\n" with
  | ok f =>
    rw [hend] at hread
    cases hread
  | error s =>
    rw [hend] at hread
    exact congrArg _ (Except.error.inj hread)

end Frontmatter

end AgentLint
