import CollectionRunner.Env.Variables

/-!
# Change logs

Every assignment a script makes to a variable is an entry of a log. An entry says what the variable
held before it, so a log can be replayed onto a set of variables and also undone.
-/

namespace CollectionRunner

/-- Whether a change gives a variable a value or removes it. -/
inductive ChangeKind
  | set
  | unset
  deriving DecidableEq, Repr, Inhabited

/-- Names of the kinds of change. -/
def ChangeKind.codec : Codec ChangeKind :=
  .choice [("set", .set), ("unset", .unset)] fun
    | .set => "set"
    | .unset => "unset"

/-- One assignment to a variable. -/
structure Change where
  kind : ChangeKind
  name : String
  value : Option String
  /-- What the variable held before. -/
  previous : Option String
  deriving DecidableEq, Repr, Inhabited

namespace Change

/-- The change that gives a variable a value. -/
def setting (name value : String) (previous : Option String) : Change :=
  ⟨.set, name, some value, previous⟩

/-- The change that removes a variable. -/
def unsetting (name : String) (previous : Option String) : Change :=
  ⟨.unset, name, none, previous⟩

/-- What a variable holds after the change, when the change is to that variable. -/
def outcome (change : Change) : Option String :=
  match change.kind with
  | .set => change.value
  | .unset => none

/-- Make the change to a set of variables. A value that was not recorded counts as empty. -/
def replay (vars : Variables) (change : Change) : Variables :=
  match change.kind with
  | .set => vars.set change.name (change.value.getD "")
  | .unset => vars.unset change.name

/-- Changes as documents. -/
def record : Record Change :=
  (Record.cons (.required "type" ChangeKind.codec) (.cons (.required "name" .string)
    (.cons (.optionalNamed "value" .string) (.cons (.optionalNamed "previous" .string) .nil)))).map
    (fun (kind, name, value, previous, _) => ⟨kind, name, value, previous⟩)
    (fun c => (c.kind, c.name, c.value, c.previous, ()))

end Change

/-- Make the changes of a log in order. -/
def Variables.replay (vars : Variables) (log : List Change) : Variables :=
  log.foldl Change.replay vars

end CollectionRunner
