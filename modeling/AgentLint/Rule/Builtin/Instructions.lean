import AgentLint.Decimal.Layout
import AgentLint.Markdown.Import
import AgentLint.Rule.Basic
import AgentLint.Rule.Field

/-!
# Rules for instruction files

Size, imports and sections of `CLAUDE.md` and of the files under `.claude/rules/`.  Sizes are in bytes
of UTF-8.  The warning about size leaves files beyond the standard limit to the error about it.
-/

namespace AgentLint.Builtin

/-! ## 1. Options -/

/-- The size from which on a file is too large. -/
def sizeLimit : Nat := 40000

/-- The size from which on a file is nearly too large. -/
def sizeWarning : Nat := 35000

/-- The most sections that are easy to navigate. -/
def mostSections : Nat := 20

/-- The value of a numeric option. -/
def numberOption (c : Context) (field : String) (standard : Nat) : Int :=
  match Entries.get? field c.options with
  | some (.int n) => n
  | _ => standard

/-! ## 2. Size -/

/-- A size in thousands of bytes. -/
def limitText (size : Int) : String := Decimal.briefRatio size.toNat 1000 ++ "KB"

/-- Reports a file that has reached the limit. -/
def checkSize (c : Context) : Check c.content Unit := do
  let limit := numberOption c "maxSize" sizeLimit
  let size := Utf8.size c.content
  if limit ≤ size then
    Check.report {
      message := "File exceeds " ++ limitText limit ++ " limit (" ++ toString size ++ " bytes)"
      fix := some "Split content into smaller files in .claude/rules/ and use @imports" }

/-- Reports a file that has reached the warning level and is still below the standard limit. -/
def checkSizeWarning (c : Context) : Check c.content Unit := do
  let level := numberOption c "maxSize" sizeWarning
  let size := Utf8.size c.content
  if level ≤ size && size < sizeLimit then
    Check.report {
      message := "File is approaching the size limit: " ++ toString size ++ " bytes (warning at " ++
        limitText level ++ ", limit " ++ limitText sizeLimit ++ ")"
      fix := some "Consider moving sections into .claude/rules/ before the limit is reached" }

/-! ## 3. Imports -/

/-- The file that an import names, seen from the importing file. -/
def importTarget (c : Context) (path : String) : Except FileFault Path := do
  let target ← c.host.expandUser (Path.ofString path)
  pure ((Path.ofString c.path).parent.join target)

/-- Reports an import whose file is not there. -/
def checkImport (c : Context) (i : Markdown.Import) : Check c.content Unit := do
  let target ← Check.lift .file (importTarget c i.path)
  if !(← Check.lift .file (c.host.exists? target.text)) then
    Check.report {
      message := "Imported file not found: " ++ i.path
      line := some i.line
      howToFix := some "Fix the @path or create the referenced file" }

/-- Reports every import whose file is not there. -/
def checkImports (c : Context) : Check c.content Unit :=
  (Markdown.imports c.content).forM (checkImport c)

/-- Reports what looks like an import inside a fenced block. -/
def checkCodeImports (c : Context) : Check c.content Unit :=
  (Markdown.codeLines c.content).forM fun (n, line) =>
    (Markdown.tokens line).forM fun path =>
      Check.report { message := "Import inside code block: " ++ path, line := some n }

/-! ## 4. Sections -/

/-- Whether a path is an instruction file proper, and not one of the split-off rules. -/
def isMainInstructions (path : String) : Bool :=
  let cs := (Path.normal path).toList
  "CLAUDE.md".toList.isSuffixOf cs && !Text.holds ".claude/rules/".toList cs

/-- Reports an instruction file with too many headings. -/
def checkSections (c : Context) : Check c.content Unit := do
  if isMainInstructions c.path then
    let most := numberOption c "maxSections" mostSections
    let prose ← Check.prose
    let count := ((Text.splitLines prose.toList).filter Markdown.isHeading).length
    if most < count then
      Check.report {
        message := "CLAUDE.md has " ++ toString count ++ " sections (>" ++ toString most ++
          " is hard to navigate)"
        fix := some "Split content into topic-specific files in .claude/rules/ directory" }

/-! ## 5. The rules -/

/-- The rules for instruction files. -/
def instructionRules : List Rule :=
  [{ info := {
       id := "size-error"
       name := "CLAUDE.md File Size"
       description := "CLAUDE.md exceeds the maximum file size"
       category := .claudeMd
       severity := .error
       options := some (FieldModel.model ⟨"SizeOptions", "maxSize", .positive sizeLimit⟩) }
     check := checkSize },
   { info := {
       id := "size-warning"
       name := "CLAUDE.md File Size Warning"
       description := "CLAUDE.md is close to the maximum file size"
       category := .claudeMd
       severity := .warn
       options := some (FieldModel.model ⟨"SizeWarningOptions", "maxSize", .positive sizeWarning⟩) }
     check := checkSizeWarning },
   { info := {
       id := "claude-md-import-missing"
       name := "Import Missing"
       description := "@import points to a file that does not exist"
       category := .claudeMd
       severity := .error }
     check := checkImports },
   { info := {
       id := "claude-md-import-in-code-block"
       name := "Import In Code Block"
       description := "@import inside a fenced code block is never processed"
       category := .claudeMd
       severity := .warn }
     check := checkCodeImports },
   { info := {
       id := "claude-md-content-too-many-sections"
       name := "CLAUDE.md Too Many Sections"
       description := "CLAUDE.md has too many headings to navigate"
       category := .claudeMd
       severity := .warn
       options := some (FieldModel.model ⟨"SectionOptions", "maxSections", .positive mostSections⟩) }
     check := checkSections }]

end AgentLint.Builtin
