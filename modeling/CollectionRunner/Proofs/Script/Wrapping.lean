import CollectionRunner.Proofs.Script.Places
import CollectionRunner.Proofs.Script.Tests

/-!
# Wrapped failures

A failure that leaves functions and modules is wrapped by each of them, or is put at the place of the
call.  Neither changes its cause, which is what is told of it (`Failure.cause_wrapped`,
`Failure.cause_left`); only its place is also read off the outermost wrapper.  Main statement:
`Failure.classified_by_cause`.
-/

namespace CollectionRunner

/-- What a failure is wrapped in when it leaves a function or a module. -/
inductive Wrapper
  | ofFunction (name : String) (place : Option Position)
  | ofModule (name : String) (place : Option Position)
  deriving DecidableEq

namespace Wrapper

/-- Where the failure left. -/
def place : Wrapper → Option Position
  | ofFunction _ place => place
  | ofModule _ place => place

/-- What a function wraps failures in when it was called at a place. -/
def ofCall (call : FunctionName × Option Position) : Wrapper := .ofFunction call.1.shown call.2

/-- Wrap a failure. -/
def wrap (f : Failure) : Wrapper → Failure
  | ofFunction name place => .inFunction name f place
  | ofModule name place => .inModule name f place

end Wrapper

namespace Failure

/-- The failure in wrappers, the outermost first. -/
def wrapped (f : Failure) : List Wrapper → Failure
  | [] => f
  | w :: ws => w.wrap (f.wrapped ws)

/-- What a failure is wrapped in, the outermost first. -/
def wrappers : Failure → List Wrapper
  | thrown _ _ | fault _ _ => []
  | inFunction name inner place => .ofFunction name place :: inner.wrappers
  | inModule name inner place => .ofModule name place :: inner.wrappers

/-- The failure as it leaves functions of the script that were called at places, the innermost
first. -/
def left (f : Failure) : List (FunctionName × Option Position) → Failure
  | [] => f
  | (name, place) :: calls => (f.leaving name place).left calls

/-- There is no wrapper. -/
def Bare : Failure → Prop
  | thrown _ _ | fault _ _ => True
  | inFunction _ _ _ | inModule _ _ _ => False

/-- What failed inside all wrappers, wherever that was. -/
def cause (f : Failure) : Failure := f.root.placed none

/-- The failure is a text thrown at a place, in some wrappers. -/
def isThrown (f : Failure) (s : String) (place : Option Position) (ws : List Wrapper) : Bool :=
  f.wrappers == ws &&
    match f.root with
    | .thrown (.text t) p => t == s && p == place
    | _ => false

/-! ## Wrappers -/

theorem Bare.root_eq {f : Failure} (bare : f.Bare) : f.root = f := by
  cases f with
  | thrown | fault => rfl
  | inFunction | inModule => exact bare.elim

theorem bare_root (f : Failure) : f.root.Bare := by
  induction f with
  | thrown | fault => trivial
  | inFunction _ _ _ ih | inModule _ _ _ ih => exact ih

theorem root_wrap (w : Wrapper) (f : Failure) : (w.wrap f).root = f.root := by
  cases w <;> rfl

theorem place_wrap (w : Wrapper) (f : Failure) : (w.wrap f).place = w.place := by
  cases w <;> rfl

theorem root_wrapped (f : Failure) (ws : List Wrapper) : (f.wrapped ws).root = f.root := by
  induction ws with
  | nil => rfl
  | cons w ws ih => rw [wrapped, root_wrap, ih]

theorem wrappers_wrapped (f : Failure) (ws : List Wrapper) :
    (f.wrapped ws).wrappers = ws ++ f.wrappers := by
  induction ws with
  | nil => rfl
  | cons w ws ih => cases w <;> exact congrArg _ ih

/-- Every failure is its root in wrappers. -/
theorem wrapped_root (f : Failure) : f.root.wrapped f.wrappers = f := by
  induction f with
  | thrown | fault => rfl
  | inFunction name inner place ih => exact congrArg (inFunction name · place) ih
  | inModule name inner place ih => exact congrArg (inModule name · place) ih

/-- The test for a thrown text in wrappers is exact: it holds of that failure and of no other. -/
theorem isThrown_iff {f : Failure} {s : String} {place : Option Position} {ws : List Wrapper} :
    f.isThrown s place ws = true ↔ f = (thrown (.text s) place).wrapped ws := by
  unfold isThrown
  rw [Bool.and_eq_true, beq_iff_eq]
  constructor
  · rintro ⟨rfl, told⟩
    split at told
    · rename_i root
      obtain ⟨rfl, rfl⟩ := by simpa only [Bool.and_eq_true, beq_iff_eq] using told
      rw [← root, wrapped_root]
    · cases told
  · rintro rfl
    rw [root_wrapped, wrappers_wrapped]
    exact ⟨List.append_nil ws, by simp [root]⟩

/-! ## Causes -/

theorem cause_wrapped (f : Failure) (ws : List Wrapper) : (f.wrapped ws).cause = f.cause :=
  congrArg (placed none) (root_wrapped f ws)

theorem cause_placed (place : Option Position) (f : Failure) : (f.placed place).cause = f.cause := by
  cases f <;> rfl

theorem cause_leaving (name : FunctionName) (place : Option Position) (f : Failure) :
    (f.leaving name place).cause = f.cause := by
  unfold leaving
  split
  · exact cause_placed place f
  · rfl

theorem cause_left (f : Failure) (calls : List (FunctionName × Option Position)) :
    (f.left calls).cause = f.cause := by
  induction calls generalizing f with
  | nil => rfl
  | cons call calls ih => rw [left, ih, cause_leaving]

/-- At its root a failure was thrown or is a fault. -/
theorem root_cases (f : Failure) :
    (∃ value place, f.root = thrown value place) ∨ ∃ x place, f.root = fault x place := by
  induction f with
  | thrown value place => exact .inl ⟨value, place, rfl⟩
  | fault x place => exact .inr ⟨x, place, rfl⟩
  | inFunction _ _ _ ih | inModule _ _ _ ih => exact ih

theorem isTermination_cause (f : Failure) : f.cause.isTermination = f.isTermination := by
  unfold isTermination cause
  rcases root_cases f with ⟨value, place, root⟩ | ⟨x, place, root⟩
  · rw [root]
    rfl
  · rw [root]
    cases x <;> rfl

theorem isFinal_cause (f : Failure) : f.cause.isFinal = f.isFinal := by
  unfold isFinal cause
  rcases root_cases f with ⟨value, place, root⟩ | ⟨x, place, root⟩
  · rw [root]
    rfl
  · rw [root]
    rfl

theorem wrapped_append (f : Failure) (outer inner : List Wrapper) :
    f.wrapped (outer ++ inner) = (f.wrapped inner).wrapped outer := by
  induction outer with
  | nil => rfl
  | cons w outer ih => rw [List.cons_append, wrapped, wrapped, ih]

/-- Functions wrap all failures but those that end the script. -/
theorem left_eq_wrapped {f : Failure} (caught : f.isFinal = false)
    (calls : List (FunctionName × Option Position)) :
    f.left calls = f.wrapped (calls.map Wrapper.ofCall).reverse := by
  induction calls generalizing f with
  | nil => rfl
  | cons call calls ih =>
    have leaves : f.leaving call.1 call.2 = (Wrapper.ofCall call).wrap f :=
      if_neg (Bool.eq_false_iff.mp caught)
    have still : (f.leaving call.1 call.2).isFinal = false := by
      rw [← isFinal_cause, cause_leaving, isFinal_cause, caught]
    rw [left, ih still, leaves, List.map_cons, List.reverse_cons, wrapped_append]
    rfl

theorem matcherFailure?_cause (f : Failure) : f.cause.matcherFailure? = f.matcherFailure? := by
  unfold matcherFailure? cause
  rcases root_cases f with ⟨value, place, root⟩ | ⟨x, place, root⟩
  · rw [root]
    cases value with
    | handle h => cases h <;> rfl
    | _ => rfl
  · rw [root]
    rfl

/-- Neither the wrappers of a failure nor its place are part of the message. -/
theorem message_cause (f : Failure) : f.cause.message = f.message := by
  unfold message
  rw [matcherFailure?_cause]
  rcases root_cases f with ⟨value, place, root⟩ | ⟨x, place, root⟩
  · have same : f.cause.root = thrown value none := by rw [cause, root]; rfl
    rw [root, same]
    cases value <;> rfl
  · have same : f.cause.root = fault x none := by rw [cause, root]; rfl
    have words := (trim_withoutPlaces_placeText x.text place).trans
      (trim_withoutPlaces_placeText x.text none).symm
    rw [root, same]
    simp only [text, words]

theorem terminates_iff_of_cause {f g : Failure} (same : f.cause = g.cause) :
    f.Terminates ↔ g.Terminates := by
  rw [← isTermination_iff, ← isTermination_iff, ← isTermination_cause, same, isTermination_cause]

/-- What a test records is told by the cause. -/
theorem failedRecord_of_cause {f g : Failure} (same : f.cause = g.cause) (name : String) :
    Eval.failedRecord name f = Eval.failedRecord name g := by
  have matcher : f.matcherFailure? = g.matcherFailure? := by
    rw [← matcherFailure?_cause, same, matcherFailure?_cause]
  have message : f.message = g.message := by
    rw [← message_cause, same, message_cause]
  unfold Eval.failedRecord
  rw [matcher, message]

/-! ## Reports -/

/-- Where a failure in wrappers is said to have happened. -/
structure Located (e : Failure) (ws : List Wrapper) (line column : Option Nat) : Prop where
  root : ∀ p, e.root.place = some p → line = some p.line ∧ column = some p.column
  /-- Only a failure without a place of its own takes that of a wrapper. -/
  outermost : ∀ w p, e.root.place = none → ws.head? = some w → w.place = some p →
    line = some p.line ∧ column = some p.column

/-- A failure in wrappers is said to be at its own place, and else at the one of the outermost
wrapper. -/
theorem located_location (e : Failure) (ws : List Wrapper) :
    Located e ws (e.wrapped ws).location.1 (e.wrapped ws).location.2 := by
  unfold location
  rw [root_wrapped]
  constructor
  · intro p own
    rw [own]
    exact ⟨rfl, rfl⟩
  · intro w p none first own
    obtain ⟨rest, rfl⟩ := List.head?_eq_some_iff.mp first
    rw [none, wrapped, place_wrap, own]
    exact ⟨rfl, rfl⟩

/-- What is told of a failure in wrappers. -/
structure Classified (e : Failure) (ws : List Wrapper) : Prop where
  termination : (e.wrapped ws).isTermination = e.isTermination
  matcher : (e.wrapped ws).matcherFailure? = e.matcherFailure?
  message : (e.wrapped ws).message = e.message
  recorded : ∀ name, Eval.failedRecord name (e.wrapped ws) = Eval.failedRecord name e
  timeout_iff : ∀ (interrupted : Bool) (budget : Duration) (ms : Nat),
    (e.wrapped ws).report interrupted budget.wordMilliseconds = .timeout ms ↔
      (interrupted = true ∧ e.Terminates) ∧ ms = budget.wordMilliseconds
  execution : ∀ (interrupted : Bool) (budget : Duration), ¬ (interrupted = true ∧ e.Terminates) →
    ∃ line column, Located e ws line column ∧
      (e.wrapped ws).report interrupted budget.wordMilliseconds = .execution e.message line column

theorem report_of_terminates {f : Failure} (terminates : f.Terminates) (budgetMs : Nat) :
    f.report true budgetMs = .timeout budgetMs := by
  rw [report, isTermination_iff.mpr terminates]
  rfl

theorem report_of_goes {f : Failure} {interrupted : Bool}
    (goes : ¬ (interrupted = true ∧ f.Terminates)) (budgetMs : Nat) :
    f.report interrupted budgetMs = .execution f.message f.location.1 f.location.2 := by
  rw [← isTermination_iff, ← Bool.and_eq_true] at goes
  rw [report, if_neg goes]

/-- All that is told of a failure but its location goes by its cause, which wrappers leave as it
is. -/
theorem classified (e : Failure) (ws : List Wrapper) : Classified e ws := by
  have same := cause_wrapped e ws
  have message : (e.wrapped ws).message = e.message := by
    rw [← message_cause, same, message_cause]
  have terminates := terminates_iff_of_cause same
  refine ⟨?_, ?_, message, failedRecord_of_cause same, ?_, ?_⟩
  · rw [← isTermination_cause, same, isTermination_cause]
  · rw [← matcherFailure?_cause, same, matcherFailure?_cause]
  · intro interrupted budget ms
    rw [← terminates]
    by_cases stopped : interrupted = true ∧ (e.wrapped ws).Terminates
    · obtain ⟨rfl, cut⟩ := stopped
      rw [report_of_terminates cut]
      constructor
      · intro told
        injection told with told
        exact ⟨⟨rfl, cut⟩, told.symm⟩
      · intro told
        rw [told.2]
    · rw [report_of_goes stopped]
      exact ⟨nofun, fun told => absurd told.1 stopped⟩
  · intro interrupted budget goes
    rw [← terminates] at goes
    exact ⟨_, _, located_location e ws, by rw [report_of_goes goes, message]⟩

end Failure

/-! ## Helper functions -/

theorem Eval.run_rescue_of_whole {x y : Eval α} {m after : Machine} {s : Stop}
    {f : Stop → Option (Eval α)} (stopped : x.run m = (.error s, after)) (whole : s.isCut = false)
    (goes : f s = some y) : (x.rescue f).run m = y.run after := by
  unfold run rescue at *
  generalize x m = outcome at stopped ⊢
  obtain ⟨⟨r, after⟩, leads⟩ := outcome
  cases stopped
  simp only [dif_pos whole, goes]

theorem Eval.run_bind_of_ok {x : Eval α} {f : α → Eval β} {m after : Machine} {a : α}
    (answered : x.run m = (.ok a, after)) : (x >>= f).run m = (f a).run after := by
  unfold run at *
  simp only [bind, andThen]
  generalize x m = outcome at answered ⊢
  obtain ⟨⟨r, after⟩, leads⟩ := outcome
  cases answered
  rfl

/-- A function of the script passes on what failed in it. -/
theorem Evaluator.run_callFunction_of_failed {ev : Evaluator} {f : Function} {captured : List Nat}
    {receiver : Option Datum} {arguments : List Datum} {place : Option Position} {m after : Machine}
    {e : Failure} (shallow : m.frame.nesting < maxNesting)
    (failed : (ev.enter f captured receiver arguments).run m = (.error (.failed e), after))
    (goes : ¬ e.Terminates) :
    (ev.callFunction f captured receiver arguments place).run m =
      (.error (.failed (e.leaving f.name place)), after) := by
  have whole : (Stop.failed e).isCut = false :=
    Bool.eq_false_iff.mpr (mt Failure.isTermination_iff.mp goes)
  have entered : ¬ maxNesting ≤ m.frame.nesting := Nat.not_le_of_lt shallow
  unfold callFunction
  have framed : Eval.frame.run m = (.ok m.frame, m) := rfl
  rw [Eval.run_bind_of_ok framed, if_neg entered]
  refine (Eval.run_rescue_of_whole (y := Eval.fail (e.leaving f.name place)) failed whole ?_).trans ?_
  · rfl
  · rfl

/-- A test records what failed in helper functions as if the body had failed so itself. -/
theorem Native.answer?_test_of_left {caller : Caller} (name : String) {f : FunctionName}
    {captured : List Nat} {m after : Machine} {e : Failure}
    (calls : List (FunctionName × Option Position))
    (failed : (caller.apply f captured none []).run { m with host := m.host.begin } =
      (.error (.failed (e.left calls)), after))
    (goes : ¬ e.Terminates) :
    answer? caller "test" [.text name, .function f captured] m =
      some (.ok (.unit, none), after.record (Eval.failedRecord name e)) := by
  have same := Failure.cause_left e calls
  have whole : cutOff (.error (.failed (e.left calls)) : Except Stop Datum) = false := by
    rw [← Failure.terminates_iff_of_cause same] at goes
    exact Bool.eq_false_iff.mpr (mt cutOff_failed.mp goes)
  have run := Eval.run_test_of_whole name (by rw [failed]; exact whole)
  rw [failed, Eval.recordOf, Failure.failedRecord_of_cause same] at run
  rw [answer?_test, run]

/-- Failures are classified by what failed inside all wrappers. -/
theorem Failure.classified_by_cause :
    (∀ (e : Failure) (ws : List Wrapper), e.Classified ws) ∧
    (∀ budget : Duration, budget.milliseconds < wordBound →
      budget.wordMilliseconds = budget.milliseconds) ∧
    -- Every failure is one without wrappers in some, and that one is its own root.
    (∀ f : Failure, ∃ (e : Failure) (ws : List Wrapper), e.Bare ∧ f = e.wrapped ws) ∧
    (∀ e : Failure, e.Bare → e.root = e) ∧
    -- Functions of the script wrap what fails in them, unless it ends the script.
    (∀ (ev : Evaluator) (f : Function) (captured : List Nat) (receiver : Option Datum)
      (arguments : List Datum) (place : Option Position) (m after : Machine) (e : Failure),
      m.frame.nesting < maxNesting →
      (ev.enter f captured receiver arguments).run m = (.error (.failed e), after) →
      ¬ e.Terminates →
      (ev.callFunction f captured receiver arguments place).run m =
        (.error (.failed (e.left [(f.name, place)])), after)) ∧
    (∀ (e : Failure) (calls : List (FunctionName × Option Position)), e.isFinal = false →
      e.left calls = e.wrapped (calls.map Wrapper.ofCall).reverse) ∧
    -- Tests record what failed in functions as if it had failed in their bodies.
    ∀ (caller : Caller) (name : String) (f : FunctionName) (captured : List Nat)
      (m after : Machine) (e : Failure) (calls : List (FunctionName × Option Position)),
      (caller.apply f captured none []).run { m with host := m.host.begin } =
        (.error (.failed (e.left calls)), after) →
      ¬ e.Terminates →
      Native.answer? caller "test" [.text name, .function f captured] m =
        some (.ok (.unit, none), after.record (Eval.failedRecord name e)) := by
  refine ⟨classified, ?_, ?_, fun e bare => bare.root_eq, ?_, fun e calls caught =>
    left_eq_wrapped caught calls, ?_⟩
  · intro budget fits
    exact Nat.mod_eq_of_lt fits
  · intro f
    exact ⟨f.root, f.wrappers, bare_root f, f.wrapped_root.symm⟩
  · intro ev f captured receiver arguments place m after e shallow failed goes
    exact Evaluator.run_callFunction_of_failed shallow failed goes
  · intro caller name f captured m after e calls failed goes
    exact Native.answer?_test_of_left name calls failed goes

/-! ## A failure in nested functions -/

theorem eq_ok_of_toOption {x : Except ε α} {a : α} (found : x.toOption = some a) : x = .ok a := by
  cases x with
  | ok => exact congrArg Except.ok (Option.some.inj found)
  | error => cases found

/-- The failure that a computation ends with. -/
def Eval.failure? (x : Eval α) (m : Machine) : Option Failure :=
  match (x.run m).1 with
  | .error (.failed f) => some f
  | _ => none

theorem Eval.run_of_failure? {x : Eval α} {m : Machine} {f : Failure}
    (failed : x.failure? m = some f) : x.run m = (.error (.failed f), (x.run m).2) := by
  unfold failure? at failed
  split at failed
  · rename_i ended
    cases failed
    exact Prod.ext ended rfl
  · cases failed

namespace NestedThrow

/-- A function that throws, called by a function that a test calls. -/
def script : String :=
  "fn inner() \x7b throw \"no token\"; \x7d fn outer() \x7b inner(); \x7d " ++
    "test(\"login\", || outer());"

/-- What fails in the inner function. -/
def raised : Failure := .thrown (.text "no token") (some ⟨1, 14⟩)

/-- The call of the inner function. -/
def call : FunctionName × Option Position := (.named "inner", some ⟨1, 47⟩)

/-- The calls that the failure leaves, the innermost first. -/
def calls : List (FunctionName × Option Position) :=
  [call, (.named "outer", some ⟨1, 75⟩), (.anonymous 0, none)]

/-- The machine before the test. -/
def machine : Machine := Script.machine default (.ofMilliseconds 1) (default : Occasion).host

/-- The script's own way of doing tasks. -/
def evaluator (program : Program) : Evaluator := ⟨program, default, program.perform default 50⟩

theorem not_terminates : ¬ raised.Terminates := by
  rw [← Failure.isTermination_iff]
  decide

/-- The inner function ends with the failure, and the body of the test with what is left of it. -/
theorem exists_failures : ∃ program inner, Program.parse script = .ok program ∧
    program.function? call.1 0 = some inner ∧ inner.name = call.1 ∧
    ((evaluator program).enter inner [] none []).failure? machine = some raised ∧
    ((evaluator program).caller.apply (.anonymous 0) [] none []).failure?
      { machine with host := machine.host.begin } = some (raised.left calls) := by
  have told : (Program.parse script).toOption.bind (fun program =>
      (program.function? call.1 0).bind fun inner =>
        (((evaluator program).enter inner [] none []).failure? machine).bind fun f =>
          (((evaluator program).caller.apply (.anonymous 0) [] none []).failure?
            { machine with host := machine.host.begin }).map fun g =>
              inner.name == call.1 && f.isThrown "no token" (some ⟨1, 14⟩) [] &&
                g.isThrown "no token" (some ⟨1, 14⟩) (calls.map Wrapper.ofCall).reverse) =
      some true := by decide +kernel
  obtain ⟨program, read, told⟩ := Option.bind_eq_some_iff.mp told
  obtain ⟨inner, named, told⟩ := Option.bind_eq_some_iff.mp told
  obtain ⟨f, entered, told⟩ := Option.bind_eq_some_iff.mp told
  obtain ⟨g, applied, told⟩ := Option.map_eq_some_iff.mp told
  simp only [Bool.and_eq_true, beq_iff_eq, Failure.isThrown_iff] at told
  obtain ⟨⟨name, rfl⟩, left⟩ := told
  have wrapped : raised.left calls = raised.wrapped (calls.map Wrapper.ofCall).reverse :=
    Failure.left_eq_wrapped rfl calls
  exact ⟨program, inner, eq_ok_of_toOption read, named, name, entered,
    by rw [applied, left, wrapped]; rfl⟩

/-- A test records what two functions passed on, and the report keeps where it was raised. -/
theorem classified_by_cause_of_nested :
    ∃ (program : Program) (inner : Function) (entered left : Machine),
      let ev := evaluator program
      Program.parse script = .ok program ∧ program.function? call.1 0 = some inner ∧
      machine.frame.nesting < maxNesting ∧ ¬ raised.Terminates ∧
      (ev.enter inner [] none []).run machine = (.error (.failed raised), entered) ∧
      (ev.callFunction inner [] none [] call.2).run machine =
        (.error (.failed (raised.left [call])), entered) ∧
      (ev.caller.apply (.anonymous 0) [] none []).run
        { machine with host := machine.host.begin } =
          (.error (.failed (raised.left calls)), left) ∧
      Native.answer? ev.caller "test" [.text "login", .function (.anonymous 0) []] machine =
        some (.ok (.unit, none), left.record (.fail "login" "no token")) ∧
      (raised.left calls).report true (Duration.ofMilliseconds 1).wordMilliseconds =
        .execution "no token" (some 1) (some 14) := by
  obtain ⟨classified, -, -, -, passedOn, wrapped, recorded⟩ := Failure.classified_by_cause
  obtain ⟨program, inner, read, named, name, entered, applied⟩ := exists_failures
  have shallow : machine.frame.nesting < maxNesting := by decide
  have entered := Eval.run_of_failure? entered
  have called := passedOn _ inner [] none [] call.2 machine _ raised shallow entered not_terminates
  rw [name] at called
  have applied := Eval.run_of_failure? applied
  have tested := recorded _ "login" (.anonymous 0) [] machine _ raised calls applied not_terminates
  rw [show Eval.failedRecord "login" raised = .fail "login" "no token" by decide +kernel] at tested
  obtain ⟨line, column, located, report⟩ :=
    (classified raised (calls.map Wrapper.ofCall).reverse).execution true (.ofMilliseconds 1)
      fun stopped => not_terminates stopped.2
  obtain ⟨rfl, rfl⟩ := located.root ⟨1, 14⟩ rfl
  rw [← wrapped raised calls rfl, show raised.message = "no token" by decide +kernel] at report
  exact ⟨program, inner, _, _, read, named, shallow, not_terminates, entered, called, applied,
    tested, report⟩

end NestedThrow

end CollectionRunner
