import AgentLint.Markdown.Frontmatter
import AgentLint.Markdown.Line

/-!
# Views of a text

Rules look at a text through views: its frontmatter, its body, the text without code.  A view is
computed when it is first asked for and kept for the rules after; a computation that fails is not
kept, and fails again.  A kept value carries the proof that it is the computed one, so no rule can
tell a kept view from a fresh one except by asking whether it is there.
-/

namespace AgentLint

/-! ## 1. Kept values -/

/-- The value of `compute`, once somebody has asked for it. -/
structure Memo {ε α : Type} (compute : Unit → Except ε α) where
  /-- The value, if it was computed. -/
  value? : Option α
  /-- It is what the computation gives. -/
  sound : ∀ a, value? = some a → compute () = .ok a

namespace Memo

variable {ε α : Type} {compute : Unit → Except ε α}

/-- Nobody asked yet. -/
def unread : Memo compute := ⟨none, fun _ h => nomatch h⟩

/-- A value that is known to be the right one. -/
def kept (a : {a : α // compute () = .ok a}) : Memo compute :=
  ⟨some a.1, fun _ h => Option.some.inj h ▸ a.2⟩

/-- Whether the value was computed. -/
def computed (m : Memo compute) : Bool := m.value?.isSome

/-- An outcome with the proof of what it is. -/
def attach (outcome : Except ε α) : Except ε {a : α // outcome = .ok a} :=
  match outcome with
  | .ok a => .ok ⟨a, rfl⟩
  | .error e => .error e

/-- The value with its proof; computed now unless it is there. -/
def get (m : Memo compute) : Except ε {a : α // compute () = .ok a} :=
  match h : m.value? with
  | some a => .ok ⟨a, m.sound a h⟩
  | none => attach (compute ())

end Memo

/-! ## 2. The views -/

/-- Header and body of a text. -/
@[irreducible]
def frontmatterOf (content : String) (_ : Unit) : Except Yaml.ScalarFault Frontmatter :=
  Frontmatter.read content

/-- The body of a text, by way of its frontmatter. -/
@[irreducible]
def bodyOf (content : String) (_ : Unit) : Except Yaml.ScalarFault String :=
  (Frontmatter.read content).map Frontmatter.body

/-- The prose of a text; this cannot fail. -/
@[irreducible]
def proseOf (content : String) (_ : Unit) : Except Yaml.ScalarFault String :=
  .ok (Markdown.withoutCode content)

theorem bodyOf_eq {content : String} {f : Frontmatter} (h : frontmatterOf content () = .ok f) :
    bodyOf content () = .ok f.body := by
  simp only [frontmatterOf] at h
  simp [bodyOf, h, Except.map]

/-- The views of a text. -/
structure Views (content : String) where
  /-- Header and body. -/
  frontmatter : Memo (frontmatterOf content)
  /-- The body. -/
  body : Memo (bodyOf content)
  /-- The text with its code emptied. -/
  prose : Memo (proseOf content)

namespace Views

variable {content : String}

/-- No view was asked for yet. -/
def unread : Views content := ⟨.unread, .unread, .unread⟩

/-- The frontmatter. -/
def readFrontmatter (v : Views content) : Except Yaml.ScalarFault (Frontmatter × Views content) :=
  match v.frontmatter.get with
  | .ok f => .ok (f.1, { v with frontmatter := .kept f })
  | .error e => .error e

/-- The body; unless it is there, it is taken from the frontmatter. -/
def readBody (v : Views content) : Except Yaml.ScalarFault (String × Views content) :=
  match v.body.value? with
  | some b => .ok (b, v)
  | none =>
    match v.frontmatter.get with
    | .ok f => .ok (f.1.body, { v with
        frontmatter := .kept f, body := .kept ⟨f.1.body, bodyOf_eq f.2⟩ })
    | .error e => .error e

/-- The text without code. -/
def readProse (v : Views content) : Except Yaml.ScalarFault (String × Views content) :=
  match v.prose.get with
  | .ok p => .ok (p.1, { v with prose := .kept p })
  | .error e => .error e

end Views

end AgentLint
