import CollectionRunner.Proofs.Script.Traces

/-!
# How scripts end

A script ends normally, by an error of its own, cut off, or before it begins because it cannot be
read.  `Scripting.ending` is the host at its end, whichever it was.  Main statement:
`Script.execute_consistent`.  What is collected then fits what the script saw last: the logs replayed
onto the variables it was given hold what `get` and `has` would still answer, the global variables
are committed by that log and those of the environment not at all.  A script that cannot be read, and
no other, is reported as a syntax error, and it had no effect.
-/

namespace CollectionRunner

/-! ## Reading variables -/

/-- The object that stands for the variables of a store. -/
def Store.handle : Store → Handle
  | .environment => .environment
  | .globals => .globals

/-- What a function of the host does on a machine when it is called with some arguments, if there is
one that takes them. -/
def Native.answer? (caller : Caller) (name : String) (arguments : List Datum) (m : Machine) :
    Option (Except Stop Given × Machine) :=
  (call? all caller name arguments).map (·.run m)

theorem Native.answer?_get (caller : Caller) (store : Store) (name : String) (m : Machine) :
    answer? caller "get" [.handle store.handle, .text name] m =
      some (.ok (.ofText? ((m.host.tracker store).get? name), none), m) := by
  cases store with
  | environment => rfl
  | globals => rfl

theorem Native.answer?_has (caller : Caller) (store : Store) (name : String) (m : Machine) :
    answer? caller "has" [.handle store.handle, .text name] m =
      some (.ok (.bool ((m.host.tracker store).has name), none), m) := by
  cases store with
  | environment => rfl
  | globals => rfl

/-! ## The host at the end -/

namespace Scripting

/-- The host at the end of a script. A blank one is not begun. -/
def ending (scripting : Scripting) (around : Surroundings) (budget : Duration) (script : String)
    (o : Occasion) : Host :=
  if Text.isBlank script then o.host else (scripting script around budget o.host).host

variable (scripting : Scripting) (around : Surroundings) (budget : Duration) (script : String)
  (o : Occasion)

theorem ending_evolves : o.host.Evolves (scripting.ending around budget script o) := by
  unfold ending
  split
  · exact .refl _
  · exact (scripting script around budget o.host).evolves

theorem execute_changes (store : Store) :
    (scripting.execute around budget script o).result.changes store =
      ((scripting.ending around budget script o).tracker store).log := by
  unfold execute ending
  split
  · cases store <;> rfl
  · cases store <;> rfl

/-- A variable holds at the end of a script what the log makes of it. -/
theorem get?_ending (store : Store) (name : String) :
    ((scripting.ending around budget script o).tracker store).get? name =
      ((store.variables o.environment o.globals).replay
        ((scripting.execute around budget script o).result.changes store)).get? name := by
  have tracks := (scripting.ending_evolves around budget script o).tracks (o.tracks_host store)
  rw [Tracker.get?_eq_snapshot tracks.valued, tracks.snapshot, execute_changes]

theorem backing_ending (store : Store) :
    ((scripting.ending around budget script o).tracker store).backing =
      some (store.variables o.environment o.globals) := by
  rw [(scripting.ending_evolves around budget script o).backing_eq store]
  cases store <;> rfl

end Scripting

/-! ## What is collected -/

/-- What was collected of a script fits the host at its end. -/
structure Aftermath.Consistent (o : Occasion) (ending : Host) (a : Aftermath) : Prop where
  success_iff : a.result.success = true ↔ a.result.error = none
  globals : a.globals.values = o.globals.values.replay a.result.globalChanges
  /-- What `get` answers on a machine with the host at the end. -/
  get : ∀ (store : Store) (name : String) (caller : Caller) (m : Machine), m.host = ending →
    Native.answer? caller "get" [.handle store.handle, .text name] m =
      some (.ok (.ofText? (((store.variables o.environment o.globals).replay
        (a.result.changes store)).get? name), none), m)
  /-- What `has` answers on a machine with the host at the end. -/
  has : ∀ (store : Store) (name : String) (caller : Caller) (m : Machine), m.host = ending →
    Native.answer? caller "has" [.handle store.handle, .text name] m =
      some (.ok (.bool (((store.variables o.environment o.globals).replay
        (a.result.changes store)).has name), none), m)
  /-- The variables that the script was given stay below its logs as they were. -/
  backing : ∀ store : Store,
    (ending.tracker store).backing = some (store.variables o.environment o.globals)

/-- What a script leaves agrees with its host at the end, whether it ended well or with an error. -/
theorem Scripting.execute_consistent_ending (scripting : Scripting) (around : Surroundings)
    (budget : Duration) (script : String) (o : Occasion) :
    (scripting.execute around budget script o).Consistent o
      (scripting.ending around budget script o) where
  success_iff := by
    unfold execute
    split
    · exact ⟨fun _ => rfl, fun _ => rfl⟩
    · exact Option.isNone_iff_eq_none
  globals := (scripting.execute_leaves around budget script o).globals
  get := by
    intro store name caller m atEnd
    rw [Native.answer?_get, atEnd, get?_ending]
  has := by
    intro store name caller m atEnd
    rw [Native.answer?_has, atEnd]
    unfold Tracker.has Variables.has
    rw [get?_ending]
  backing := scripting.backing_ending around budget script o

/-- The script had no effect: there is nothing to collect. -/
structure Aftermath.Untouched (o : Occasion) (a : Aftermath) : Prop where
  console : a.result.console = []
  assertions : a.result.assertions = []
  changes : ∀ store : Store, a.result.changes store = []
  request : a.request = o.request
  globals : a.globals = o.globals
  sent : a.sent = o.sent

/-- A script that leaves its host as it was at the beginning had no effect. -/
theorem Scripting.untouched_of_ending (scripting : Scripting) (around : Surroundings)
    (budget : Duration) (script : String) (o : Occasion)
    (same : scripting.ending around budget script o = o.host) :
    (scripting.execute around budget script o).Untouched o := by
  unfold ending at same
  unfold execute
  split
  · exact ⟨rfl, rfl, fun store => by cases store <;> rfl, rfl, rfl, rfl⟩
  · rename_i written
    rw [if_neg written] at same
    simp only [Conduct.result, same]
    exact ⟨rfl, rfl, fun store => by cases store <;> rfl, rfl, rfl, rfl⟩

/-! ## Syntax errors -/

/-- The error is about the syntax of the script. -/
def ScriptError.AboutSyntax (e : ScriptError) : Prop :=
  ∃ message line column, e = .badSyntax message line column

theorem Failure.not_aboutSyntax_report (f : Failure) (interrupted : Bool) (budgetMs : Nat) :
    ¬ (f.report interrupted budgetMs).AboutSyntax := by
  rintro ⟨message, line, column, equal⟩
  unfold report at equal
  split at equal
  · cases equal
  · cases equal

namespace Script

theorem not_aboutSyntax_errorOf {budget : Duration} {outcome : Except Stop Unit} {e : ScriptError}
    (reported : errorOf budget outcome = some e) : ¬ e.AboutSyntax := by
  unfold errorOf at reported
  split at reported
  · cases reported
    exact Failure.not_aboutSyntax_report _ _ _
  · cases reported

/-- A script that cannot be read is not begun, and it alone is reported as a syntax error. -/
theorem conduct_aboutSyntax_iff (script : String) (around : Surroundings) (budget : Duration)
    (start : Host) :
    (∃ e, (conduct script around budget start).error = some e ∧ e.AboutSyntax) ↔
      ∃ fault, Program.parse script = .error fault := by
  unfold conduct
  cases Program.parse script with
  | error fault => exact ⟨fun _ => ⟨fault, rfl⟩, fun _ => ⟨_, rfl, _, _, _, rfl⟩⟩
  | ok program =>
    constructor
    · rintro ⟨e, reported, aboutSyntax⟩
      exact absurd aboutSyntax (not_aboutSyntax_errorOf reported)
    · rintro ⟨fault, none⟩
      cases none

theorem conduct_host_of_fault {script : String} {fault : SyntaxFault × Position}
    (found : Program.parse script = .error fault) (around : Surroundings) (budget : Duration)
    (start : Host) : (conduct script around budget start).host = start := by
  unfold conduct
  rw [found]

/-- However a script ends, what is collected fits what it saw last.  A blank script is a success that
changes nothing.  A script that cannot be read, and no other, is a syntax error, and it had no
effect. -/
theorem execute_consistent (around : Surroundings) (budget : Duration) (script : String)
    (o : Occasion) :
    let a := conduct.execute around budget script o
    a.Consistent o (conduct.ending around budget script o) ∧
    (Text.isBlank script = true → a = ⟨.empty, o.request, o.globals, o.sent⟩) ∧
    ((∃ e, a.result.error = some e ∧ e.AboutSyntax) ↔
      Text.isBlank script = false ∧ ∃ fault, Program.parse script = .error fault) ∧
    ((∃ e, a.result.error = some e ∧ e.AboutSyntax) → a.Untouched o) := by
  intro a
  have consistent := conduct.execute_consistent_ending around budget script o
  cases blank : Text.isBlank script with
  | true =>
    have empty : a = ⟨.empty, o.request, o.globals, o.sent⟩ := if_pos blank
    have noError : ¬ ∃ e, a.result.error = some e ∧ e.AboutSyntax := by
      rw [empty]
      rintro ⟨e, none, -⟩
      cases none
    refine ⟨consistent, fun _ => empty, ?_, fun error => absurd error noError⟩
    exact ⟨fun error => absurd error noError, fun ⟨written, _⟩ => by cases written⟩
  | false =>
    have written : ¬ Text.isBlank script = true := by
      rw [blank]
      exact Bool.false_ne_true
    have ran : a.result.error = (conduct script around budget o.host).error := by
      unfold a Scripting.execute
      rw [if_neg written]
      rfl
    have iff := conduct_aboutSyntax_iff script around budget o.host
    rw [← ran] at iff
    refine ⟨consistent, nofun, ?_, fun error => ?_⟩
    · exact iff.trans ⟨fun fault => ⟨rfl, fault⟩, fun fault => fault.2⟩
    · obtain ⟨fault, found⟩ := iff.mp error
      refine conduct.untouched_of_ending around budget script o ?_
      unfold Scripting.ending
      rw [if_neg written, conduct_host_of_fault found]

end Script

end CollectionRunner
