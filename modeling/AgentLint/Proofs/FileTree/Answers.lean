import AgentLint.Proofs.FileTree.ShortForm

/-!
# Paths about which nothing can be said

Whether something is at a path is a question that mostly has an answer: where nothing can be, nothing is.  There are
two exceptions.  A path may start with the home of an account, and then the account has to exist
(`Host.expandUser_eq_error_iff`).  And a path may be too long for the file system, or lead through a name that is, or
through a directory that must not be entered (`Host.probe_eq_error_iff`, `Host.obstacle_cases`).
-/

namespace AgentLint

/-! ## 1. Homes -/

namespace Host

variable {h : Host}

/-- What keeps a question about a path from being answered. -/
def IsObstacle (t : Trouble) : Prop := t = .nameTooLong ∨ t = .denied

/-- **A question about a path** has an answer unless something is too long, or behind a directory that must not be
entered. -/
theorem probe_eq_error_iff {path : String} {yes : Node → Bool} {e : FileFault} :
    h.probe path yes = .error e ↔
      ∃ t, IsObstacle t ∧ e = .trouble t path ∧ h.stat path = .error (.trouble t path) := by
  unfold probe
  constructor
  · intro hprobe
    have htrouble : ∀ {t p}, h.stat path = .error (.trouble t p) → p = path := by
      intro t p hstat
      rcases stat_eq_error_cases hstat with hrefused | ⟨t', ht, -⟩
      · cases fromSystem_of_refusal? hrefused
      · cases ht
        rfl
    split at hprobe
    · cases hprobe
    · rename_i p hstat
      cases hprobe
      obtain rfl := htrouble hstat
      exact ⟨_, .inl rfl, rfl, hstat⟩
    · rename_i p hstat
      cases hprobe
      obtain rfl := htrouble hstat
      exact ⟨_, .inr rfl, rfl, hstat⟩
    · cases hprobe
  · rintro ⟨t, rfl | rfl, rfl, hstat⟩ <;> rw [hstat]

/-- A name that one may come upon: one of the path, or one of a link. -/
def Met (t : FileTree) (names : List String) (n : String) : Prop :=
  n ∈ names ∨ ∃ place target m, t.node? place = some (.link target m) ∧ n ∈ rawNames target

/-- What is in the way: a name that is too long, or a directory that must not be entered. -/
inductive Obstructs (t : FileTree) (names : List String) : Trouble → Prop where
  /-- A name. -/
  | name {n : String} (long : longestName < pathSize n) (met : Met t names n) : Obstructs t names .nameTooLong
  /-- A directory. -/
  | directory {p : Place} {m : Int} (shut : t.node? p = some (.shut m)) : Obstructs t names .denied

theorem Obstructs.mono {t : FileTree} {names names' : List String} {e : Trouble} (h : Obstructs t names e)
    (hmet : ∀ n, Met t names n → Met t names' n) : Obstructs t names' e := by
  cases h with
  | name long met => exact .name long (hmet _ met)
  | directory shut => exact .directory shut

end Host

end AgentLint
