import CollectionRunner.Env.Change

/-!
# Tracked variables

A `Tracker` reads through to a set of variables it does not touch and logs the assignments made to
it. `commit` replays the log onto the variables below; the log stays.
-/

namespace CollectionRunner

/-- Variables with a log of the assignments made to them. -/
structure Tracker where
  /-- The variables below the log, if there are any yet. -/
  backing : Option Variables
  /-- The assignments, first one first. -/
  log : List Change
  deriving DecidableEq, Inhabited

namespace Tracker

/-- A tracker without assignments. -/
def ofBacking (backing : Option Variables) : Tracker := ⟨backing, []⟩

/-- What a log says about a variable: the outcome of the last change to it. -/
def lastOutcome (name : String) (log : List Change) : Option (Option String) :=
  (log.reverse.find? (·.name == name)).map Change.outcome

/-- Value of a variable: that of the last assignment to it, else that below the log. -/
def get? (t : Tracker) (name : String) : Option String :=
  match lastOutcome name t.log with
  | some outcome => outcome
  | none => t.backing.bind (·.get? name)

/-- Whether a variable has a value. -/
def has (t : Tracker) (name : String) : Bool := (t.get? name).isSome

/-- Assign a value to a variable. -/
def set (t : Tracker) (name value : String) : Tracker :=
  { t with log := t.log ++ [.setting name value (t.get? name)] }

/-- Remove a variable. -/
def unset (t : Tracker) (name : String) : Tracker :=
  { t with log := t.log ++ [.unsetting name (t.get? name)] }

/-- The variables below the log, none if there are none yet. -/
def base (t : Tracker) : Variables := t.backing.getD .empty

/-- All variables with their current values. -/
def snapshot (t : Tracker) : Variables := t.base.replay t.log

/-- Replay the log onto the variables below it. -/
def commit (t : Tracker) : Tracker := { t with backing := some t.snapshot }

end Tracker

end CollectionRunner
