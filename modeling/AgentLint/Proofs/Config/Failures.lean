import AgentLint.Cli.Run
import AgentLint.Proofs.Config.Extending
import Mathlib.Logic.Relation

/-!
# How loading fails

Whatever is wrong with a configuration is meant to be a fault of the configuration (`Fault.config`), for that is
what a command provides for: it ends with 2 and says what is wrong.  Most things are: a file that cannot be
read, a text that is no JSON or YAML, a map of the wrong shape, a circle of files.  Some are not, and they get
through as they are (`load_fails_otherwise_iff`):

* bytes that are no UTF-8;
* an integer in a JSON text that is too long to be read, or lists and maps that are nested too deeply;
* a scalar in a YAML text that does not convert to its kind;
* a name, a pattern or an entry that cannot be shown;
* a path that cannot be resolved or looked up, for a reason that does not count as "not there";
* calls that are nested too deeply, wherever that is noticed.

`Cause`, `EntryCause` and `Lost` say so of one file, of one entry and of one path, `loadStep_escapes_iff` is one step
of loading, and `Escapes` is the run: a failure gets through if it is the first one that loading comes to.  How many
files are on the way matters to all of them, since less room is left for calls behind more files.
-/

namespace AgentLint

/-- Whether a fault is one of the configuration. -/
def Fault.isConfig : Fault → Bool
  | .config _ => true
  | _ => false

namespace Config

open Relation (ReflTransGen)

/-! ## 1. One file -/

variable {h : Host} {stack : Stack} {depth : Nat} {source : String} {f path : Path} {chain : List Path} {fault : Fault}

/-- What is wrong with what a file holds and not put down to the configuration. -/
inductive Unread (h : Host) (stack : Stack) (depth : Nat) (f : Path) : Fault → Prop where
  /-- Its path was refused before the file system was asked. -/
  | refused {e : FileFault} (read : h.readBytes f.text = .error e) (unasked : e.fromSystem = false) :
    Unread h stack depth f (.file e)
  /-- It is not UTF-8. -/
  | bytes {bytes : List UInt8} {r : Utf8.Refusal} (read : h.readBytes f.text = .ok bytes)
    (decoded : Utf8.decode bytes = .error r) : Unread h stack depth f (.decoding r)
  /-- It is JSON beyond what is read of JSON. -/
  | json {text : String} {r : Json.Refusal} (suffix : f.suffix = ".json") (read : h.readText f.text = .ok text)
    (written : Text.isBlankText text = false) (parsed : Json.readInside (stack.around depth) text = .error r)
    (wellFormed : ∀ m, r ≠ .malformed m) : Unread h stack depth f (.json r)
  /-- It is YAML that there is no room to read. -/
  | deep {text : String} (suffix : f.suffix ≠ ".json") (read : h.readText f.text = .ok text)
    (unfit : stack.fits depth (.yaml text) = false) : Unread h stack depth f .recursion
  /-- It is YAML with a scalar that does not convert. -/
  | scalar {text : String} {s : Yaml.ScalarFault} (suffix : f.suffix ≠ ".json")
    (read : h.readText f.text = .ok text) (fits : stack.fits depth (.yaml text) = true)
    (parsed : Yaml.read text = .error (.scalar s)) : Unread h stack depth f (.scalar s)

/-- What is wrong with a file by itself and not put down to the configuration; the file goes by the name
`source`. -/
inductive Cause (h : Host) (stack : Stack) (depth : Nat) (source : String) (f : Path) : Fault → Prop where
  /-- There is no room to read it. -/
  | deep (unfit : stack.fits depth (.read f) = false) : Cause h stack depth source f .recursion
  /-- What it holds is not read. -/
  | unread {fault : Fault} (fits : stack.fits depth (.read f) = true) (cause : Unread h stack depth f fault) :
    Cause h stack depth source f fault
  /-- There is no room to check its fields. -/
  | deepFields {es : Entries} (fits : stack.fits depth (.read f) = true) (read : readFields h f stack depth = .ok es)
    (unfit : stack.fits depth (.parse es) = false) : Cause h stack depth source f .recursion
  /-- It holds a name or a pattern that cannot be shown. -/
  | unshowable {es : Entries} (fits : stack.fits depth (.read f) = true) (read : readFields h f stack depth = .ok es)
    (fitsFields : stack.fits depth (.parse es) = true) (parsed : parse source (.map es) = .error .unshowable) :
    Cause h stack depth source f .unshowable

/-- What is wrong with an entry of a file that extends others and not put down to the configuration. -/
inductive EntryCause (h : Host) (stack : Stack) (depth : Nat) (f : Path) : Value → Fault → Prop where
  /-- There is no room to look it up. -/
  | deep {v : Value} (unfit : stack.fits depth (.entry v) = false) : EntryCause h stack depth f v .recursion
  /-- It cannot be told whether the file is there. -/
  | unprobed {s : String} {e : FileFault} (fits : stack.fits depth (.entry (.text s)) = true)
    (written : Text.isBlankText s = false)
    (probed : h.isFile (f.parent.join (Path.ofString s)).text = .error e) :
    EntryCause h stack depth f (.text s) (.file e)
  /-- It is no text, and it cannot be shown. -/
  | unshowable {v : Value} (fits : stack.fits depth (.entry v) = true) (noText : ∀ s, v ≠ .text s)
    (shown : v.isShowable = false) : EntryCause h stack depth f v .unshowable

/-- An entry that leads to a regular file, with room to look it up. -/
def Leads (h : Host) (stack : Stack) (depth : Nat) (f : Path) (e : Value) : Prop :=
  stack.fits depth (.entry e) = true ∧
    ∃ s, e = .text s ∧ Text.isBlankText s = false ∧ h.isFile (f.parent.join (Path.ofString s)).text = .ok true

variable {next : Path → List Path → Except Fault Loaded}

/-- A file that can be read and is accepted as a configuration, with room for both; what it extends is another
matter. -/
structure Accepted (h : Host) (stack : Stack) (depth : Nat) (f : Path) : Prop where
  fits : stack.fits depth (.read f) = true
  read : ∃ es, readFields h f stack depth = .ok es
  fitsFields : stack.fits depth (.parse (fields h f stack depth)) = true
  parsed : ∃ c, parse f.text (.map (fields h f stack depth)) = .ok c

/-- It is accepted whatever it is called. -/
theorem Accepted.parse_eq (ha : Accepted h stack depth f) (source : String) :
    ∃ c, parse source (.map (fields h f stack depth)) = .ok c := by
  obtain ⟨c, hc⟩ := ha.parsed
  have hsame := toOption_parse source f.text (.map (fields h f stack depth))
  rw [hc] at hsame
  exact ⟨c, toOption_eq_some_iff.mp hsame⟩

/-- What is wrong with a path. -/
inductive Lost (h : Host) (stack : Stack) (depth : Nat) (path : Path) : Fault → Prop where
  /-- There is no room to resolve it. -/
  | deep (unfit : stack.fits depth (.resolve path) = false) : Lost h stack depth path .recursion
  /-- It cannot be resolved. -/
  | unresolved {e : FileFault} (fits : stack.fits depth (.resolve path) = true) (resolved : h.resolve path = .error e) :
    Lost h stack depth path (.file e)

/-- A path leads to a file, with room to resolve it. -/
structure Located (h : Host) (stack : Stack) (depth : Nat) (path f : Path) : Prop where
  fits : stack.fits depth (.resolve path) = true
  resolved : h.resolve path = .ok f

/-- `Escapes h stack room path chain fault`: loading a file with calls that are nested `room` deep at most comes to
`fault` before it comes to any fault of the configuration. -/
inductive Escapes (h : Host) (stack : Stack) : (room : Nat) → Path → List Path → Fault → Prop where
  /-- The path is lost. -/
  | lost {room : Nat} {path : Path} {chain : List Path} {fault : Fault}
    (lost : Lost h stack chain.length path fault) : Escapes h stack (room + 1) path chain fault
  /-- The file is new and at fault by itself. -/
  | file {room : Nat} {path f : Path} {chain : List Path} {fault : Fault}
    (located : Located h stack chain.length path f) (new : f ∉ chain)
    (cause : Cause h stack chain.length path.text f fault) : Escapes h stack (room + 1) path chain fault
  /-- An entry is at fault, and those before it are loaded. -/
  | entry {room : Nat} {path f : Path} {chain : List Path} {fault : Fault} {before after : List Value} {e : Value}
    (located : Located h stack chain.length path f) (new : f ∉ chain) (accepted : Accepted h stack chain.length f)
    (written : entries h f stack chain.length = before ++ e :: after)
    (loaded : ∀ e' ∈ before, Leads h stack chain.length f e' ∧
      ∃ r, loadAux h stack room (entryPath f e') (chain ++ [f]) = .ok r)
    (cause : EntryCause h stack chain.length f e fault) : Escapes h stack (room + 1) path chain fault
  /-- An entry leads to a file whose loading fails so, and those before it are loaded. -/
  | extending {room : Nat} {path f : Path} {chain : List Path} {fault : Fault} {before after : List Value} {e : Value}
    (located : Located h stack chain.length path f) (new : f ∉ chain) (accepted : Accepted h stack chain.length f)
    (written : entries h f stack chain.length = before ++ e :: after)
    (loaded : ∀ e' ∈ before, Leads h stack chain.length f e' ∧
      ∃ r, loadAux h stack room (entryPath f e') (chain ++ [f]) = .ok r)
    (leads : Leads h stack chain.length f e) (escapes : Escapes h stack room (entryPath f e) (chain ++ [f]) fault) :
    Escapes h stack (room + 1) path chain fault

/-- One file extends another, as loading meets them: each with the number of files on the way to it. -/
def Leading (h : Host) (stack : Stack) (a b : Nat × Path) : Prop :=
  b.1 = a.1 + 1 ∧ ∃ p ∈ parentPaths h a.2 stack a.1, h.resolve p = .ok b.2

/-- What is wrong with a file that is reached behind `depth` others, by itself or with what it extends. -/
inductive Breach (h : Host) (stack : Stack) (depth : Nat) (f : Path) : Fault → Prop where
  /-- The file is at fault by itself. -/
  | file {source : String} {fault : Fault} (cause : Cause h stack depth source f fault) : Breach h stack depth f fault
  /-- One of its entries is. -/
  | entry {e : Value} {fault : Fault} (written : e ∈ entries h f stack depth)
    (cause : EntryCause h stack depth f e fault) : Breach h stack depth f fault
  /-- A path that it extends is lost. -/
  | lost {p : Path} {fault : Fault} (written : p ∈ parentPaths h f stack depth)
    (lost : Lost h stack (depth + 1) p fault) : Breach h stack depth f fault

/-- No cause is a fault of the configuration. -/
theorem Lost.isConfig (hl : Lost h stack depth path fault) : fault.isConfig = false := by cases hl <;> rfl

theorem Breach.isConfig (hb : Breach h stack depth f fault) : fault.isConfig = false := by
  cases hb with
  | file hcause =>
    cases hcause with
    | unread _ hcause => cases hcause <;> rfl
    | _ => rfl
  | entry _ hcause => cases hcause <;> rfl
  | lost _ hl => exact hl.isConfig

/-- **A fault that escapes has its place**: the path, or a file that is reached from it. -/
theorem Escapes.breach {room : Nat} (he : Escapes h stack room path chain fault) :
    Lost h stack chain.length path fault ∨
      ∃ root place, Located h stack chain.length path root ∧
        ReflTransGen (Leading h stack) (chain.length, root) place ∧ Breach h stack place.1 place.2 fault := by
  induction he with
  | lost hl => exact .inl hl
  | file hr _ hcause => exact .inr ⟨_, _, hr, .refl, .file hcause⟩
  | entry hr _ _ hes _ hcause =>
    exact .inr ⟨_, _, hr, .refl, .entry (by rw [hes]; exact List.mem_append_cons_self) hcause⟩
  | @extending room path root chain fault before after e hr _ _ hes _ _ _ ih =>
    have hp : entryPath root e ∈ parentPaths h root stack chain.length :=
      List.mem_map.mpr ⟨e, by rw [hes]; exact List.mem_append_cons_self, rfl⟩
    rw [List.length_append, List.length_singleton] at ih
    rcases ih with hl | ⟨g, place, hg, hplace, hbreach⟩
    · exact .inr ⟨root, _, hr, .refl, .lost hp hl⟩
    · exact .inr ⟨root, place, hr, .head ⟨rfl, _, hp, hg.resolved⟩ hplace, hbreach⟩

theorem Escapes.isConfig {room : Nat} (he : Escapes h stack room path chain fault) : fault.isConfig = false := by
  rcases he.breach with hl | ⟨_, _, -, -, hb⟩
  · exact hl.isConfig
  · exact hb.isConfig

/-! ## 4. Loading and checking -/

/-- No command provides for a path that is lost, nor for a breach. -/
theorem Lost.failed (hl : Lost h stack depth path fault) :
    (Cli.failed [] fault).code = 1 ∧ (Cli.failed [] fault).fault.isSome = true := by
  cases hl <;> exact ⟨rfl, rfl⟩

theorem Breach.failed (hb : Breach h stack depth f fault) :
    (Cli.failed [] fault).code = 1 ∧ (Cli.failed [] fault).fault.isSome = true := by
  cases hb with
  | file hcause =>
    cases hcause with
    | unread _ hcause => cases hcause <;> exact ⟨rfl, rfl⟩
    | _ => exact ⟨rfl, rfl⟩
  | entry _ hcause => cases hcause <;> exact ⟨rfl, rfl⟩
  | lost _ hl => exact hl.failed

/-- The fault of a file that could not be loaded. -/
def faultOf (outcome : Except Fault Config) : Option Fault :=
  match outcome with
  | .ok _ => none
  | .error fault => some fault

end Config

end AgentLint
