import CollectionRunner.Proofs.Script.Endings

/-!
# Records of tests

A test runs its body once and then says in one record how the body ended, unless the body was cut
off: then it says nothing and the failure goes on.  Records are only added
(`Evolves.assertions_extend`), and a computation that is not cut off leaves as many as it began
tests, however deep they are nested, which is what the type of computations keeps (`Eval.balanced`).
Main statement: `Script.tests_recorded`.
-/

namespace CollectionRunner

/-! ## Why a body failed -/

namespace Failure

/-- Inside all wrappers the script was cut off. -/
def Terminates (f : Failure) : Prop := ∃ place, f.root = .fault .terminated place

/-- Inside all wrappers a matcher failed. -/
def FromMatcher (f : Failure) (m : MatcherFailure) : Prop :=
  ∃ place, f.root = .thrown (.handle (.failure m)) place

theorem isTermination_iff {f : Failure} : f.isTermination = true ↔ f.Terminates := by
  unfold isTermination Terminates
  split
  · rename_i place root
    exact ⟨fun _ => ⟨place, root⟩, fun _ => rfl⟩
  · rename_i other
    refine ⟨nofun, fun ⟨place, root⟩ => absurd root (other place)⟩

/-- The matcher failure that a record is made of is the one inside all wrappers. -/
theorem matcherFailure?_eq_some_iff {f : Failure} {m : MatcherFailure} :
    f.matcherFailure? = some m ↔ f.FromMatcher m := by
  unfold matcherFailure? FromMatcher
  split
  · rename_i failed place root
    rw [root]
    constructor
    · rintro ⟨⟩
      exact ⟨place, rfl⟩
    · rintro ⟨_, ⟨⟩⟩
      rfl
  · rename_i other
    exact ⟨nofun, fun ⟨place, root⟩ => absurd root (other m place)⟩

/-- The record of a test whose body failed: that of the matcher inside all wrappers if there is one,
else the failure in words. -/
inductive Recorded (name : String) (f : Failure) : AssertionResult → Prop
  | matcher {m : MatcherFailure} : f.FromMatcher m →
    Recorded name f ⟨name, false, m.expected, m.actual, m.message⟩
  | other : (∀ m, ¬ f.FromMatcher m) → Recorded name f ⟨name, false, none, none, f.message⟩

/-- A test that fails is recorded as failed, with what its matcher said or else with the message of
its failure. -/
theorem recorded_failedRecord (name : String) (f : Failure) :
    f.Recorded name (Eval.failedRecord name f) := by
  unfold Eval.failedRecord
  cases found : f.matcherFailure? with
  | some m =>
    have words : f.message = m.message := by
      rw [message, found]
    simp only [AssertionResult.fail, words]
    exact .matcher (matcherFailure?_eq_some_iff.mp found)
  | none =>
    refine .other fun m matcher => ?_
    rw [matcherFailure?_eq_some_iff.mpr matcher] at found
    cases found

end Failure

theorem cutOff_failed {f : Failure} :
    cutOff (.error (.failed f) : Except Stop α) = true ↔ f.Terminates :=
  Failure.isTermination_iff

/-! ## One test -/

theorem Host.Evolves.assertions_extend {start h : Host} (evolves : start.Evolves h) :
    start.assertions <+: h.assertions := by
  induction evolves with
  | refl => exact List.prefix_rfl
  | effect e _ ih =>
    rw [assertions_apply]
    exact ih
  | begin _ ih => exact ih
  | record r _ ih => exact ih.trans (List.prefix_append _ _)

/-- A machine with a further record. -/
def Machine.record (m : Machine) (r : AssertionResult) : Machine :=
  { m with host := m.host.record r }

/-- What a test comes to, from what its body came to. -/
structure Tested (name : String) (body : Except Stop Datum × Machine)
    (test : Except Stop Given × Machine) : Prop where
  /-- A body that does not fail has answered: no jump leads out of a function. -/
  passed : (∀ f, body.1 ≠ .error (.failed f)) →
    test = (.ok (.unit, none), body.2.record ⟨name, true, none, none, ""⟩)
  failed : ∀ f, body.1 = .error (.failed f) → ¬ f.Terminates →
    ∃ r, f.Recorded name r ∧ test = (.ok (.unit, none), body.2.record r)
  terminated : ∀ f, body.1 = .error (.failed f) → f.Terminates →
    test = (.error (.failed f), body.2)

namespace Eval

theorem whole_of_unfailed {ending : Except Stop α} (unfailed : ∀ f, ending ≠ .error (.failed f)) :
    cutOff ending = false := by
  cases ending with
  | ok => rfl
  | error s =>
    cases s with
    | failed f => exact absurd rfl (unfailed f)
    | broke | continued | returned => rfl

theorem recordOf_of_unfailed {ending : Except Stop α}
    (unfailed : ∀ f, ending ≠ .error (.failed f)) (name : String) :
    recordOf name ending = ⟨name, true, none, none, ""⟩ := by
  unfold recordOf
  split
  · rename_i f
    exact absurd rfl (unfailed f)
  · rfl

variable {body : Eval α} {m : Machine} (name : String)

theorem run_test_of_whole (whole : cutOff (body.run { m with host := m.host.begin }).1 = false) :
    (test name body).run m =
      (.ok (), (body.run { m with host := m.host.begin }).2.record
        (recordOf name (body.run { m with host := m.host.begin }).1)) := by
  unfold run test
  exact congrArg Subtype.val (dif_pos whole)

/-- A test whose body is cut off records nothing and passes the failure on. -/
theorem run_test_of_cut {f : Failure}
    (ended : (body.run { m with host := m.host.begin }).1 = .error (.failed f))
    (cut : f.Terminates) :
    (test name body).run m =
      (.error (.failed f), (body.run { m with host := m.host.begin }).2) := by
  unfold run at ended ⊢
  unfold test
  generalize body { m with host := m.host.begin } = outcome at ended ⊢
  obtain ⟨⟨r, after⟩, leads⟩ := outcome
  cases ended
  have notWhole : ¬ cutOff (.error (.failed f) : Except Stop α) = false := by
    rw [cutOff_failed.mpr cut]
    exact Bool.noConfusion
  exact congrArg Subtype.val (dif_neg notWhole)

end Eval

/-- What a call of `test` does on a machine: its body runs once, on the machine as it is when the
test has begun. -/
structure Native.Tests (caller : Caller) (name : String) (f : FunctionName) (captured : List Nat)
    (m : Machine) (body : Except Stop Datum × Machine) : Prop where
  once : body = (caller.apply f captured none []).run { m with host := m.host.begin }
  /-- What the body itself records comes after the earlier records. -/
  earlier : m.host.assertions <+: body.2.host.assertions
  /-- It is one record for each test that the body begins. -/
  nested : cutOff body.1 = false → m.host.begin.Balanced body.2.host
  answers : ∃ test, answer? caller "test" [.text name, .function f captured] m = some test ∧
    Tested name body test

/-- A call of `test` with a name and a function runs the test on the call of that function. -/
theorem Native.answer?_test (caller : Caller) (name : String) (f : FunctionName)
    (captured : List Nat) (m : Machine) :
    answer? caller "test" [.text name, .function f captured] m =
      some (match (Eval.test name (caller.apply f captured none [])).run m with
        | (.ok (), after) => (.ok (.unit, none), after)
        | (.error s, after) => (.error s, after)) := by
  change some ((do Eval.test name (caller.apply f captured none []); return (.unit, none) :
    Eval Given).run m) = _
  unfold Eval.run
  simp only [bind, Eval.andThen]
  generalize Eval.test name (caller.apply f captured none []) m = outcome
  obtain ⟨⟨_ | _, after⟩, leads⟩ := outcome
  · rfl
  · rfl

/-- What a test call does goes by how its body ended: it records a pass or a failure, or nothing
when the body was cut off. -/
theorem Native.tests (caller : Caller) (name : String) (f : FunctionName) (captured : List Nat)
    (m : Machine) :
    Tests caller name f captured m
      ((caller.apply f captured none []).run { m with host := m.host.begin }) where
  once := rfl
  earlier := ((caller.apply f captured none []).evolves
    { m with host := m.host.begin }).assertions_extend
  nested := (caller.apply f captured none []).balanced { m with host := m.host.begin }
  answers := by
    generalize ran : (caller.apply f captured none []).run { m with host := m.host.begin } = body
    obtain ⟨ending, after⟩ := body
    refine ⟨_, answer?_test caller name f captured m, fun unfailed => ?_, ?_, ?_⟩
    · have whole := Eval.whole_of_unfailed unfailed
      have run := Eval.run_test_of_whole name (by rw [ran]; exact whole)
      rw [ran, Eval.recordOf_of_unfailed unfailed] at run
      rw [run]
    · rintro f rfl going
      have whole : cutOff (.error (.failed f) : Except Stop Datum) = false :=
        Bool.eq_false_iff.mpr (mt cutOff_failed.mp going)
      have run := Eval.run_test_of_whole name (by rw [ran]; exact whole)
      rw [ran] at run
      refine ⟨_, Failure.recorded_failedRecord name f, ?_⟩
      rw [run]
      rfl
    · rintro f rfl cut
      have run := Eval.run_test_of_cut name (by rw [ran]) cut
      rw [ran] at run
      rw [run]

/-! ## Whole scripts -/

namespace Script

/-- A script that is cut off reports the budget it had. -/
theorem errorOf_of_cut {ending : Except Stop Unit} (cut : cutOff ending = true)
    (budget : Duration) : errorOf budget ending = some (.timeout budget.wordMilliseconds) := by
  cases ending with
  | ok => cases cut
  | error s =>
    cases s with
    | failed f =>
      have stopped : f.isTermination = true := cut
      simp only [errorOf, Failure.report, stopped, Bool.and_self, if_true]
    | broke | continued | returned => cases cut

/-- The tests that a script begins end unless it is cut off. -/
theorem conduct_nests (script : String) (around : Surroundings) (budget : Duration)
    (start : Host) :
    (∃ ms, (conduct script around budget start).error = some (.timeout ms)) ∨
      start.Nests (conduct script around budget start).host := by
  unfold conduct
  cases Program.parse script with
  | error fault => exact .inr (.refl start)
  | ok program =>
    cases cut : cutOff ((program.run around).run (machine around budget start)).1 with
    | true => exact .inl ⟨_, errorOf_of_cut cut budget⟩
    | false => exact .inr ((program.run around).nests (machine around budget start) cut)

/-- A script that is not cut off leaves a record for each test that it begins. -/
theorem conduct_balanced (script : String) (around : Surroundings) (budget : Duration)
    (start : Host) :
    (∃ ms, (conduct script around budget start).error = some (.timeout ms)) ∨
      start.Balanced (conduct script around budget start).host :=
  (conduct_nests script around budget start).imp_right
    (conduct script around budget start).evolves.balanced

/-- Every test leaves one record, of what its body came to, and a script that is not cut off as many
records as it began tests. -/
theorem tests_recorded :
    (∀ caller name f captured m, ∃ body, Native.Tests caller name f captured m body) ∧
    ∀ (around : Surroundings) (budget : Duration) (script : String) (o : Occasion),
      (∃ ms, (conduct.execute around budget script o).result.error = some (.timeout ms)) ∨
        (conduct.execute around budget script o).result.assertions.length =
          (conduct.ending around budget script o).begun := by
  refine ⟨fun caller name f captured m => ⟨_, Native.tests caller name f captured m⟩, ?_⟩
  intro around budget script o
  unfold Scripting.execute Scripting.ending
  split
  · exact .inr rfl
  · rcases conduct_balanced script around budget o.host with cut | balanced
    · exact .inl cut
    · refine .inr ?_
      have none : o.host.begun = 0 ∧ o.host.assertions.length = 0 := ⟨rfl, rfl⟩
      unfold Host.Balanced at balanced
      change (conduct script around budget o.host).host.assertions.length = _
      omega

end Script

end CollectionRunner
