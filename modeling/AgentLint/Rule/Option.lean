import AgentLint.Fault

/-!
# Models of options

A rule may have a model of the options that it takes.  A model is handed a map of options as it was given
and tells what it makes of it, or all that is wrong with it; it may also fail.  And it tells the options
if none are given; one that asks for an option has none to tell, and fails.

What a model asks for is its own affair: it may have any number of options, it may keep the order in which
they were given or look at it, and what it tells need not be what it was given.  `FieldModel` has the models
of the built-in rules.
-/

namespace AgentLint

/-- One thing that is wrong with given options. -/
structure OptionComplaint where
  /-- The names that lead to it, outermost first; none if it is the options as a whole. -/
  place : List String
  /-- What is wrong. -/
  text : String
  deriving DecidableEq, Repr

/-- All that is wrong with given options. -/
structure OptionRefusal where
  /-- The complaints, in order. -/
  complaints : List OptionComplaint
  /-- What the model says about them at length. -/
  report : String
  deriving DecidableEq, Repr

/-- One phrase. -/
def OptionComplaint.phrase (c : OptionComplaint) : String :=
  let name := ".".intercalate c.place
  (if name.isEmpty then "<root>" else name) ++ ": " ++ c.text

/-- All complaints in one phrase. -/
def OptionRefusal.phrases (r : OptionRefusal) : String :=
  "; ".intercalate (r.complaints.map OptionComplaint.phrase)

/-- What given options come to. -/
abbrev CheckedOptions := Except OptionRefusal Entries

/-- A model of options. -/
structure OptionModel where
  /-- What it makes of given options. -/
  check : Entries → Except Fault CheckedOptions
  /-- The options if none are given. -/
  defaults : Except Fault Entries

end AgentLint
