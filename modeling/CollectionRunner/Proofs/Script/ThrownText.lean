import CollectionRunner.Proofs.Script.Wrapping

/-!
# Thrown texts

What is reported of a thrown text is the text without white space at its ends and without the places
that it shows, wherever they came from (`Failure.reported_holds`).  So a text is reported as thrown
exactly when it shows no place.  Main statement: `Script.thrown_text_reported`, for scripts that
throw a text, however deep in functions, and for tests whose bodies do.
-/

namespace CollectionRunner

namespace Failure

/-! ## Leaving places out -/

/-- Places were cut out of a text, with white space before them. -/
inductive Cut : List Char → List Char → Prop
  | nil : Cut [] []
  | keep (c : Char) {cs kept : List Char} : Cut cs kept → Cut (c :: cs) (c :: kept)
  | place {space line column cs kept : List Char} : Text.Blank space → Numeral line →
    Numeral column → Cut cs kept → Cut (space ++ (shownPlace line column ++ cs)) kept

theorem Strips.cut {cs kept : List Char} (strips : Strips cs kept) : Cut cs kept := by
  induction strips with
  | nil => exact .nil
  | place found _ ih =>
    obtain ⟨lineNumeral, columnNumeral, space, blank, rfl⟩ := afterPlace_eq_some_iff.mp found
    exact .place blank lineNumeral columnNumeral ih
  | keep _ _ ih => exact .keep _ ih

/-- What is reported of a thrown text. -/
def reported (s : String) : String := Text.trim (String.ofList (withoutPlaces s.toList))

/-- Nothing but places and white space is missing in what is reported of a thrown text. -/
structure Reported (s message : String) : Prop where
  cut : ∃ kept, Cut s.toList kept ∧ message = Text.trim (String.ofList kept)
  whole_iff : message = Text.trim s ↔ ¬ ShowsPlace s.toList

theorem trim_inj {cs ds : List Char} :
    Text.trim (String.ofList cs) = Text.trim (String.ofList ds) ↔
      Text.trimmed cs = Text.trimmed ds := by
  rw [Text.trim, Text.trim, String.toList_ofList, String.toList_ofList, String.ofList_inj]

theorem reported_holds (s : String) : Reported s (reported s) where
  cut := ⟨_, (strips_withoutPlaces s.toList).cut, rfl⟩
  whole_iff := by
    rw [← trimmed_withoutPlaces_iff, ← trim_inj, String.ofList_toList]
    rfl

/-! ## Throwing texts -/

/-- A text was thrown inside all wrappers. -/
def Throws (f : Failure) (s : String) : Prop := ∃ place, f.root = .thrown (.text s) place

/-- The text that was thrown. -/
def thrown? (f : Failure) : Option String :=
  match f.root with
  | .thrown (.text s) _ => some s
  | _ => none

theorem Throws.of_thrown? {f : Failure} {s : String} (thrown : f.thrown? = some s) :
    f.Throws s := by
  unfold thrown? at thrown
  split at thrown
  · rename_i text place root
    cases thrown
    exact ⟨place, root⟩
  · cases thrown

/-- The failure that is left of a thrown text, once all wrappers are taken off and its place is
cleared, is the text itself. -/
theorem throws_iff_cause {f : Failure} {s : String} :
    f.Throws s ↔ f.cause = .thrown (.text s) none := by
  constructor
  · intro ⟨place, root⟩
    rw [cause, root]
    rfl
  · intro same
    rcases root_cases f with ⟨value, place, root⟩ | ⟨x, place, root⟩
    · rw [cause, root] at same
      injection same with same
      exact ⟨place, by rw [root, same]⟩
    · rw [cause, root] at same
      cases same

/-- What is thrown in functions of any depth is thrown where the outermost of them was called. -/
theorem throws_left_iff {f : Failure} {s : String} (calls : List (FunctionName × Option Position)) :
    (f.left calls).Throws s ↔ f.Throws s := by
  rw [throws_iff_cause, throws_iff_cause, cause_left]

theorem Throws.goes {f : Failure} {s : String} (throws : f.Throws s) : ¬ f.Terminates := by
  intro ⟨place, terminated⟩
  obtain ⟨_, root⟩ := throws
  rw [root] at terminated
  cases terminated

theorem Throws.matcherFailure? {f : Failure} {s : String} (throws : f.Throws s) :
    f.matcherFailure? = none := by
  obtain ⟨place, root⟩ := throws
  rw [Failure.matcherFailure?, root]

theorem Throws.message {f : Failure} {s : String} (throws : f.Throws s) :
    f.message = reported s := by
  rw [Failure.message, throws.matcherFailure?]
  obtain ⟨place, root⟩ := throws
  rw [root]
  rfl

theorem Throws.report {f : Failure} {s : String} (throws : f.Throws s) (interrupted : Bool)
    (budgetMs : Nat) : ∃ line column,
      f.report interrupted budgetMs = .execution (reported s) line column := by
  rw [report_of_goes fun stopped => throws.goes stopped.2, throws.message]
  exact ⟨_, _, rfl⟩

theorem Throws.failedRecord {f : Failure} {s : String} (throws : f.Throws s) (name : String) :
    Eval.failedRecord name f = ⟨name, false, none, none, reported s⟩ := by
  rw [Eval.failedRecord, throws.matcherFailure?, throws.message]
  rfl

end Failure

/-! ## Whole scripts -/

namespace Script

/-- The failure that ends a script. -/
def failure? (around : Surroundings) (budget : Duration) (script : String) (o : Occasion) :
    Option Failure :=
  if Text.isBlank script then none
  else
    match Program.parse script with
    | .error _ => none
    | .ok program =>
      match ((program.run around).run (machine around budget o.host)).1 with
      | .error (.failed f) => some f
      | _ => none

/-- A script that a failure ends reports that failure, with its budget, as its error. -/
theorem error_of_failure {around : Surroundings} {budget : Duration} {script : String}
    {o : Occasion} {f : Failure} (failed : failure? around budget script o = some f) :
    (conduct.execute around budget script o).result.error =
      some (f.report true budget.wordMilliseconds) := by
  unfold failure? at failed
  unfold Scripting.execute
  split at failed
  · cases failed
  · rename_i written
    rw [if_neg written]
    change (conduct script around budget o.host).error = _
    unfold conduct
    cases parsed : Program.parse script with
    | error fault =>
      rw [parsed] at failed
      cases failed
    | ok program =>
      simp only [parsed] at failed ⊢
      split at failed
      · rename_i f ended
        cases failed
        rw [ended, errorOf]
      · cases failed

end Script

/-- Throwing a text ends in a failure that throws it. -/
theorem Evaluator.run_throw {ev : Evaluator} {e : Expr} {m after : Machine} {s : String}
    (evaluated : (ev.evaluate e).run m = (.ok (.text s), after)) (place : Position) :
    ∃ f, (ev.evaluateStep (.throw (some e) place)).run m = (.error (.failed f), after) ∧
      f.Throws s := by
  refine ⟨.thrown (.text s) place, ?_, place, rfl⟩
  rw [evaluateStep, optional, Eval.run_bind_of_ok evaluated]
  rfl

namespace Script

/-- A thrown text is reported by scripts and by tests alike, as thrown up to white space exactly when
it shows no place. -/
theorem thrown_text_reported (s : String) :
    Failure.Reported s (Failure.reported s) ∧
    (∀ (around : Surroundings) (budget : Duration) (script : String) (o : Occasion) (f : Failure),
      failure? around budget script o = some f → f.Throws s →
      ∃ line column, (conduct.execute around budget script o).result.error =
        some (.execution (Failure.reported s) line column)) ∧
    (∀ (caller : Caller) (name : String) (body : FunctionName) (captured : List Nat)
      (m after : Machine) (f : Failure),
      (caller.apply body captured none []).run { m with host := m.host.begin } =
        (.error (.failed f), after) →
      f.Throws s →
      Native.answer? caller "test" [.text name, .function body captured] m =
        some (.ok (.unit, none),
          after.record ⟨name, false, none, none, Failure.reported s⟩)) ∧
    (∀ (ev : Evaluator) (e : Expr) (place : Position) (m after : Machine),
      (ev.evaluate e).run m = (.ok (.text s), after) →
      ∃ f, (ev.evaluateStep (.throw (some e) place)).run m = (.error (.failed f), after) ∧
        f.Throws s) ∧
    -- A text that is thrown in a function is thrown where the function was called, at any depth.
    (∀ (f : Failure) (calls : List (FunctionName × Option Position)),
      (f.left calls).Throws s ↔ f.Throws s) ∧
    ∀ (ev : Evaluator) (function : Function) (captured : List Nat) (receiver : Option Datum)
      (arguments : List Datum) (place : Option Position) (m after : Machine) (f : Failure),
      m.frame.nesting < maxNesting →
      (ev.enter function captured receiver arguments).run m = (.error (.failed f), after) →
      f.Throws s →
      ∃ g, (ev.callFunction function captured receiver arguments place).run m =
        (.error (.failed g), after) ∧ g.Throws s := by
  refine ⟨Failure.reported_holds s, ?_, ?_, ?_, fun f calls => Failure.throws_left_iff calls, ?_⟩
  · intro around budget script o f failed throws
    obtain ⟨line, column, report⟩ := throws.report true budget.wordMilliseconds
    exact ⟨line, column, by rw [error_of_failure failed, report]⟩
  · intro caller name body captured m after f failed throws
    have answer := Native.answer?_test_of_left name [] failed throws.goes
    rw [answer, throws.failedRecord]
  · intro ev e place m after evaluated
    exact Evaluator.run_throw evaluated place
  · intro ev function captured receiver arguments place m after f shallow failed throws
    exact ⟨_, Evaluator.run_callFunction_of_failed shallow failed throws.goes,
      (Failure.throws_left_iff [(function.name, place)]).mpr throws⟩

/-- A place that a script quotes is left out of what it throws. -/
theorem quoted_place_left_out :
    let s := "see (line 3, position 4) there"
    let script := "throw \"see (line 3, position 4) there\";"
    ∃ f line column, failure? default (.ofMilliseconds 1) script default = some f ∧ f.Throws s ∧
      (conduct.execute default (.ofMilliseconds 1) script default).result.error =
        some (.execution "see there" line column) ∧
      Text.trim s ≠ "see there" := by
  intro s script
  have ran : (failure? default (.ofMilliseconds 1) script default).bind Failure.thrown? = some s := by
    decide +kernel
  obtain ⟨f, failed, thrown⟩ := Option.bind_eq_some_iff.mp ran
  have throws : f.Throws s := .of_thrown? thrown
  have shown : Failure.reported s = "see there" := by
    have parts : s.toList = "see".toList ++
        ((Failure.placeText (some ⟨3, 4⟩)).toList ++ " there".toList) := by decide
    have clean : ¬ Failure.ShowsPlace " there".toList := fun shows =>
      absurd shows.bracket (by decide)
    rw [Failure.reported, parts, Failure.withoutPlaces_append_plain rfl,
      Failure.withoutPlaces_placeText, Failure.withoutPlaces_of_clean clean]
    decide
  obtain ⟨line, column, report⟩ := throws.report true (Duration.ofMilliseconds 1).wordMilliseconds
  rw [shown] at report
  exact ⟨f, line, column, failed, throws, (error_of_failure failed).trans (congrArg some report),
    by decide⟩

end Script

end CollectionRunner
