import CollectionRunner.Env.Change

/-!
# Global variables

The global store is shared by all scripts of a run. Scripts work on a snapshot of it and commit
their log when they end, so what a commit does depends on the log alone, not on the snapshot.
-/

namespace CollectionRunner

/-- The global variables. -/
structure Globals where
  values : Variables
  deriving DecidableEq, Inhabited

namespace Globals

/-- Value of a global variable. -/
def get? (g : Globals) (name : String) : Option String := g.values.get? name

/-- Whether a global variable has a value. -/
def has (g : Globals) (name : String) : Bool := g.values.has name

/-- Assign a value. -/
def set (g : Globals) (name value : String) : Globals := ⟨g.values.set name value⟩

/-- Remove a variable. -/
def unset (g : Globals) (name : String) : Globals := ⟨g.values.unset name⟩

/-- Make the changes of a log. -/
def commit (g : Globals) (log : List Change) : Globals := ⟨g.values.replay log⟩

end Globals

end CollectionRunner
