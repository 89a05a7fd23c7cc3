import AgentLint.Proofs.FileTree.Reading
import AgentLint.Proofs.Rule.Size

/-!
# The size of a file and the size of its text

The size that is compared with the limit is that of the text, and the text is what is left of a file when its line
ends have become line feeds.  So a file counts one byte less for each carriage return before a line feed
(`size_of_file`).  A file on which this makes no difference is one without such pairs, or one that is below the limit
as it is.
-/

namespace AgentLint

namespace Family

open Builtin (registry sizeRule sizeOption sizeReport)
open Runner (optionsIfOn findingOf)

variable {f : Family} {config : Option Config} {h : Host} {path text : String} {bytes : List UInt8}
variable {files : List String}

/-- There is an outcome exactly if all files end well. -/
theorem exists_lint_iff {registry : Registry} : (∃ o, f.lint h registry config files = .ok o) ↔
    ∀ p ∈ files, f.EndsWell registry config h p Json.inUse := by
  constructor
  · rintro ⟨o, ho⟩
    exact endsWell_of_lint f registry config h files Json.inUse ho
  · intro hwell
    cases hlint : f.lint h registry config files with
    | ok o => exact ⟨o, rfl⟩
    | error fault =>
      obtain ⟨before, p, after, rfl, -, hends⟩ := (lint_eq_error_iff f registry config h files Json.inUse fault).mp hlint
      have hp := hwell p (by simp) fault
      exact absurd hends (not_or.mpr hp)

/-- The bytes that count. -/
def counted (bytes : List UInt8) (text : String) : Nat := bytes.length - Utf8.linePairs text.toList

theorem size_text (htext : Utf8.decode bytes = .ok text) :
    Utf8.size (Utf8.universalNewlines text) = counted bytes text := by
  rw [counted, ← Utf8.size_of_decode htext, ← Utf8.size_universalNewlines text, Nat.add_sub_cancel]

theorem counted_eq_iff (htext : Utf8.decode bytes = .ok text) :
    counted bytes text = bytes.length ↔ Utf8.linePairs text.toList = 0 := by
  have hsize := Utf8.size_universalNewlines text
  rw [size_text htext, Utf8.size_of_decode htext] at hsize
  omega

/-- The message tells the size. -/
theorem size_eq_of_message {limit : Int} {m n : Nat}
    (heq : (sizeReport limit m).message = (sizeReport limit n).message) : m = n := by
  have hsizes : toString m = toString n := (String.append_right_inj _).mp ((String.append_left_inj _).mp heq)
  have hdigits : Nat.toDigits 10 m = Nat.toDigits 10 n := String.ofList_injective hsizes
  rw [← Nat.ofDigitChars_ten_toDigits (n := m), hdigits, Nat.ofDigitChars_ten_toDigits]

/-- A file whose text shows no directive. -/
theorem found_sizeRule (hcategory : f.category = .claudeMd) (hjson : f.isJson = false)
    (hbytes : h.readBytes (Path.normal path) = .ok bytes) (htext : Utf8.decode bytes = .ok text)
    (hfree : Directive.Free (Utf8.universalNewlines text)) {limit : Int}
    (hlimit : optionsIfOn config registry sizeRule path = .ok (some (sizeOption limit))) {o : Outcome}
    (ho : f.lint h registry config files = .ok o) :
    o.found sizeRule path = (List.replicate (files.count path)
      (if limit ≤ counted bytes text then [findingOf path sizeRule (sizeReport limit (counted bytes text))]
        else [])).flatten := by
  have hruns : f.RunsOn h path (Utf8.universalNewlines text) := by
    refine ⟨?_, fun htrue => by rw [hjson] at htrue; cases htrue⟩
    unfold textAt
    exact Host.readText_of_decode hbytes htext
  rw [found_of_lint hruns hlimit ho, hcategory, Builtin.findings_sizeRule hfree hlimit, size_text htext]

/-- The size on disk decides: the file is reported once, with this size, if it has reached the limit, and not at all
otherwise. -/
def Measures (limit : Int) (size : Nat) (o : Outcome) (path : String) : Prop :=
  o.found sizeRule path = if limit ≤ size then [findingOf path sizeRule (sizeReport limit size)] else []

theorem measures_iff {limit : Int} {n m : Nat} {o : Outcome} (hle : n ≤ m)
    (hfound : o.found sizeRule path = if limit ≤ n then [findingOf path sizeRule (sizeReport limit n)] else []) :
    Measures limit m o path ↔ n = m ∨ m < limit := by
  rw [Measures, hfound]
  constructor
  · intro heq
    by_contra hno
    rw [not_or] at hno
    rw [if_pos (Int.not_lt.mp hno.2)] at heq
    split at heq
    · have hmessage := congrArg (fun fs => fs.map Finding.message) heq
      exact hno.1 (size_eq_of_message (List.cons.inj hmessage).1)
    · cases heq
  · rintro (rfl | hlt)
    · rfl
    · rw [if_neg (by omega), if_neg (by omega)]

/-- **The size of a file.**  The rule is on at a path and its option is a limit above zero; the bytes of the file can
be decoded, and its text shows no directive.  If all files end well there is an outcome, and otherwise there is none.
In the outcome the file is reported, as often as it was checked, if the bytes that count have reached the limit, and
these are not all bytes: a carriage return before a line feed does not count.  So the size on disk decides exactly if
there is no such pair or the size on disk is below the limit. -/
theorem size_of_file (files : List String) (hcategory : f.category = .claudeMd) (hjson : f.isJson = false)
    (hbytes : h.readBytes (Path.normal path) = .ok bytes) (htext : Utf8.decode bytes = .ok text)
    (hfree : Directive.Free (Utf8.universalNewlines text)) {options : Entries}
    (hon : optionsIfOn config registry sizeRule path = .ok (some options)) :
    ∃ limit : Int, 0 < limit ∧ options = sizeOption limit ∧
      ((∃ o, f.lint h registry config files = .ok o) ↔ ∀ p ∈ files, f.EndsWell registry config h p Json.inUse) ∧
      ∀ o, f.lint h registry config files = .ok o →
        o.found sizeRule path = (List.replicate (files.count path)
          (if limit ≤ counted bytes text then [findingOf path sizeRule (sizeReport limit (counted bytes text))]
            else [])).flatten ∧
        (files.count path = 1 → (Measures limit bytes.length o path ↔
          Utf8.linePairs text.toList = 0 ∨ bytes.length < limit)) := by
  have hrule : Builtin.instructionRules[0] ∈ Builtin.rules :=
    Builtin.mem_rules_of_instructions (List.getElem_mem _)
  obtain ⟨limit, hpos, rfl⟩ := Builtin.exists_number_of_on hrule rfl hon
  refine ⟨limit, hpos, rfl, exists_lint_iff, fun o ho => ?_⟩
  have hfound := found_sizeRule hcategory hjson hbytes htext hfree hon ho
  refine ⟨hfound, fun hcount => ?_⟩
  rw [hcount, List.replicate_one, List.flatten_singleton] at hfound
  rw [measures_iff (Nat.sub_le _ _) hfound, ← counted_eq_iff htext]
  rfl

/-- A file of six bytes, two of which do not count. -/
def sixBytes : Host := ⟨[(["CLAUDE.md"], .file [97, 13, 10, 98, 13, 10] 1)], [], "/", [], 0⟩

theorem read_sixBytes : sixBytes.readBytes (Path.normal "CLAUDE.md") = .ok [97, 13, 10, 98, 13, 10] ∧
    Utf8.decode [97, 13, 10, 98, 13, 10] = .ok "a\r\nb\r\n" ∧
    Directive.Free (Utf8.universalNewlines "a\r\nb\r\n") :=
  ⟨by decide +kernel, by decide +kernel, Directive.free_of_not_mem (by decide +kernel)⟩

/-- A limit on the size of files. -/
def limited (limit : Int) : Config := { rules := [(sizeRule, ⟨.error, some (sizeOption limit)⟩)] }

/-- With a limit of four bytes the six bytes are reported as four. -/
theorem size_of_six_bytes :
    let f : Family := ⟨"claude-md", .claudeMd, ["**/CLAUDE.md", "**/.claude/rules/*.md"], false⟩
    f ∈ builtin ∧ sixBytes.readBytes (Path.normal "CLAUDE.md") = .ok [97, 13, 10, 98, 13, 10] ∧
      optionsIfOn (some (limited 4)) registry sizeRule "CLAUDE.md" = .ok (some (sizeOption 4)) ∧
      ∃ o, f.lint sixBytes registry (some (limited 4)) ["CLAUDE.md"] = .ok o ∧
        (o.found sizeRule "CLAUDE.md").map Finding.message = ["File exceeds 0.004KB limit (4 bytes)"] ∧
        ¬ Measures 4 6 o "CLAUDE.md" := by
  intro f
  obtain ⟨hbytes, htext, hfree⟩ := read_sixBytes
  have hon : optionsIfOn (some (limited 4)) registry sizeRule "CLAUDE.md" = .ok (some (sizeOption 4)) := rfl
  have hends : (f.lint sixBytes registry (some (limited 4)) ["CLAUDE.md"]).toOption.isSome = true := by decide +kernel
  obtain ⟨o, ho⟩ := Option.isSome_iff_exists.mp hends
  obtain ⟨limit, -, hlimit, -, houtcome⟩ := size_of_file (f := f) ["CLAUDE.md"] rfl rfl hbytes htext hfree hon
  cases hlimit
  obtain ⟨hfound, hmeasures⟩ := houtcome o (eq_ok_of_toOption ho)
  refine ⟨by decide, hbytes, hon, o, eq_ok_of_toOption ho, ?_, fun hm => ?_⟩
  · rw [hfound]
    decide +kernel
  · exact absurd ((hmeasures rfl).mp hm) (by decide +kernel)

/-- **A file that has reached the limit on disk and is not reported**: six bytes with a limit of five. -/
theorem file_over_limit_unreported :
    let f : Family := ⟨"claude-md", .claudeMd, ["**/CLAUDE.md", "**/.claude/rules/*.md"], false⟩
    sixBytes.readBytes (Path.normal "CLAUDE.md") = .ok [97, 13, 10, 98, 13, 10] ∧
      optionsIfOn (some (limited 5)) registry sizeRule "CLAUDE.md" = .ok (some (sizeOption 5)) ∧
      ∃ o, f.lint sixBytes registry (some (limited 5)) ["CLAUDE.md"] = .ok o ∧ o.found sizeRule "CLAUDE.md" = [] := by
  intro f
  obtain ⟨hbytes, htext, hfree⟩ := read_sixBytes
  have hon : optionsIfOn (some (limited 5)) registry sizeRule "CLAUDE.md" = .ok (some (sizeOption 5)) := rfl
  have hends : (f.lint sixBytes registry (some (limited 5)) ["CLAUDE.md"]).toOption.isSome = true := by decide +kernel
  obtain ⟨o, ho⟩ := Option.isSome_iff_exists.mp hends
  refine ⟨hbytes, hon, o, eq_ok_of_toOption ho, ?_⟩
  rw [found_sizeRule rfl rfl hbytes htext hfree hon (eq_ok_of_toOption ho), if_neg (by decide +kernel)]
  rfl

end Family

end AgentLint
