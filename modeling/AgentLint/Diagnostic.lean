/-!
# Diagnostics

Messages from the parts of the program itself, as opposed to findings about files.  A collector keeps
each distinct message once, in the order in which they first came in.
-/

namespace AgentLint

/-- How grave a diagnostic is. -/
inductive Level where
  /-- Worth knowing. -/
  | info
  /-- Something was set right. -/
  | warning
  /-- Something failed. -/
  | error
  /-- Any other word. -/
  | other (word : String)
  deriving DecidableEq, Repr

namespace Level

/-- The word for a level. -/
def word : Level → String
  | info => "info"
  | warning => "warning"
  | error => "error"
  | other w => w

/-- The level of a word. -/
def ofWord (w : String) : Level :=
  if w = "info" then info else if w = "warning" then warning else if w = "error" then error
  else other w

end Level

/-- A message from a part of the program. -/
structure Diagnostic where
  /-- What it says. -/
  message : String
  /-- The part that says it. -/
  source : String
  /-- How grave it is. -/
  level : Level
  /-- A short name for its kind. -/
  code : Option String
  deriving DecidableEq, Repr

/-- A name in the context of a diagnostic that one of its own parts has. -/
structure ContextClash where
  /-- The level of the diagnostic. -/
  level : Level
  /-- The name. -/
  name : String
  deriving DecidableEq, Repr

/-- The wording of a clash. -/
def ContextClash.message (c : ContextClash) : String :=
  let verb := if c.level = .warning then "warn" else c.level.word
  "DiagnosticCollector." ++ verb ++ "() got multiple values for argument '" ++ c.name ++ "'"

/-- Diagnostics without repetition, oldest first. -/
abbrev Diagnostics := List Diagnostic

namespace Diagnostics

/-- Adds a diagnostic unless the same one is there. -/
def add (ds : Diagnostics) (d : Diagnostic) : Diagnostics := if d ∈ ds then ds else ds ++ [d]

/-- The names of a diagnostic's own parts, which must not occur in its context. -/
def ownNames : List String := ["self", "message", "source", "code"]

/-- Adds a diagnostic that comes with a context, given by the names in it; the context itself is not kept. -/
def addWith (ds : Diagnostics) (d : Diagnostic) (context : List String) : Except ContextClash Diagnostics :=
  match context.find? (ownNames.contains ·) with
  | some name => .error ⟨d.level, name⟩
  | none => .ok (ds.add d)

/-- Adds a warning. -/
def warn (ds : Diagnostics) (message source code : String) : Diagnostics :=
  ds.add ⟨message, source, .warning, some code⟩

/-- The warnings. -/
def warnings (ds : Diagnostics) : List Diagnostic := ds.filter fun d => d.level = .warning

/-- The errors. -/
def errors (ds : Diagnostics) : List Diagnostic := ds.filter fun d => d.level = .error

theorem mem_add {ds : Diagnostics} {d e : Diagnostic} : e ∈ ds.add d ↔ e ∈ ds ∨ e = d := by
  unfold add
  split
  · constructor
    · exact Or.inl
    · rintro (h | rfl)
      · exact h
      · assumption
  · simp

/-- A collector never holds a diagnostic twice. -/
theorem nodup_add {ds : Diagnostics} (h : ds.Nodup) (d : Diagnostic) : (ds.add d).Nodup := by
  unfold add
  split
  · exact h
  · rename_i hd
    rw [List.nodup_append]
    refine ⟨h, by simp, ?_⟩
    intro a ha b hb
    rw [List.mem_singleton] at hb
    rintro rfl
    exact hd (hb ▸ ha)

end Diagnostics

end AgentLint
