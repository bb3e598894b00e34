import CollectionRunner.Proofs.Number.Texts
import CollectionRunner.Proofs.Script.Endings
import CollectionRunner.Proofs.Script.Exchange
import CollectionRunner.Proofs.Script.Negation

/-!
# Integers of scripts

The host knows doubles only, so an integer that a script hands to it is rounded to 53 significant
bits.  Expectations about integers are expectations about the rounded ones, and integers of less
than sixteen digits are kept in variables digit by digit.  Main statement:
`Datum.integers_cross`; `Datum.integers_meet` are two integers that become one.
-/

namespace CollectionRunner

/-! ## Texts of whole doubles -/

namespace ScriptValue

theorem integral?_ofInt_of_le {i : Int} (large : 9000000000000000 ≤ i.natAbs)
    (word : i.natAbs < 2 ^ 64) : integral? (Number.ofInt i) = none := by
  have kept : ¬ (Number.rounded i).natAbs < 9000000000000000 := by
    rcases Nat.le_total i.natAbs (2 ^ 53) with short | long
    · rw [Number.rounded_of_short short]
      omega
    · have := Number.le_natAbs_rounded long
      omega
  rw [integral?, Number.whole?_ofInt word]
  exact if_neg kept

theorem toVariable_number (x : Float) : (number x).toVariable = (numberJson x).compact := rfl

theorem toVariable_ofInt {i : Int} (small : i.natAbs < 9000000000000000) :
    (number (Number.ofInt i)).toVariable = toString i := by
  rw [toVariable_number, numberJson, integral?_ofInt small]
  rfl

theorem toVariable_ofInt_of_le {i : Int} (large : 9000000000000000 ≤ i.natAbs)
    (word : i.natAbs < 2 ^ 64) :
    (number (Number.ofInt i)).toVariable = Number.documentText (Number.ofInt i) := by
  have bounded := finite_ofInt word
  rw [toVariable_number, numberJson, integral?_ofInt_of_le large word]
  simp only [bounded, if_true, Json.compact, Json.doubleText]

end ScriptValue

/-! ## Expecting and storing -/

theorem Tracker.get?_set_self (t : Tracker) (name value : String) :
    (t.set name value).get? name = some value := by
  have named : name = (Change.setting name value (t.get? name)).name := rfl
  unfold get? set
  rw [lastOutcome_eq, Change.last?_concat, if_pos named]
  rfl

namespace Native

/-- Only the functions of the name are asked. -/
theorem call?_eq (table : List (String × Native)) (caller : Caller) (name : String)
    (arguments : List Datum) :
    call? table caller name arguments =
      (table.filter (·.1 == name)).findSome? (·.2 caller arguments) := by
  unfold call?
  induction table with
  | nil => rfl
  | cons entry rest ih =>
    obtain ⟨key, native⟩ := entry
    rw [List.findSome?_cons, List.filter_cons, ih]
    cases named : key == name with
    | true => simp only [named, if_true, List.findSome?_cons]
    | false => simp only [named, Bool.false_eq_true, if_false]

/-- Matchers that compare a value with an expected one. -/
inductive Compares : String → (ScriptValue → Matcher) → Prop
  | toBe : Compares "toBe" .be
  | toEqual : Compares "toEqual" .equal

theorem Compares.exists_native {name : String} {matcher : ScriptValue → Matcher}
    (compares : Compares name matcher) : ∃ native, all.filter (·.1 == name) = [(name, native)] ∧
      ∀ caller e d, native caller [.handle (.expectation e), d] = matched e (matcher d.toValue) := by
  cases compares with
  | toBe => exact ⟨_, rfl, fun _ _ _ => rfl⟩
  | toEqual => exact ⟨_, rfl, fun _ _ _ => rfl⟩

/-- A script expects something of a datum, and the expectation is met. -/
def Passes (caller : Caller) (name : String) (actual expected : Datum) (m : Machine) : Prop :=
  ∃ e, answer? caller "expect" [actual] m = some (.ok (e, none), m) ∧
    answer? caller name [e, expected] m = some (.ok (.unit, none), m)

theorem answer?_expect (caller : Caller) (d : Datum) (m : Machine) :
    answer? caller "expect" [d] m = some (.ok (.handle (.expectation (.of d.toValue)), none), m) :=
  rfl

/-- A call of a matcher answers, and changes nothing, exactly when its expectation is met. -/
theorem run_matched_iff (e : Expectation) (matcher : Matcher) (m : Machine) :
    (matched e matcher).map (·.run m) = some (.ok (.unit, none), m) ↔ e.Met matcher := by
  unfold matched Expectation.Met
  cases e.check matcher with
  | none => exact ⟨fun _ => rfl, fun _ => rfl⟩
  | some failure =>
    constructor
    · intro passed
      cases passed
    · intro met
      cases met

/-- A call of a comparing matcher passes exactly when both values are equal as script values. -/
theorem Compares.passes_iff {name : String} {matcher : ScriptValue → Matcher}
    (compares : Compares name matcher) (caller : Caller) (actual expected : Datum) (m : Machine) :
    Passes caller name actual expected m ↔ actual.toValue.same expected.toValue = true := by
  obtain ⟨native, only, gives⟩ := compares.exists_native
  have answer : ∀ e, answer? caller name [.handle (.expectation e), expected] m =
      (matched e (matcher expected.toValue)).map (·.run m) := by
    intro e
    rw [answer?, call?_eq, only, List.findSome?_singleton]
    exact congrArg _ (gives caller e expected)
  have met : (Expectation.of actual.toValue).Met (matcher expected.toValue) ↔
      actual.toValue.same expected.toValue = true := by
    cases compares <;> exact Expectation.met_iff_of_ok rfl false
  rw [← met, ← run_matched_iff _ _ m, ← answer]
  constructor
  · rintro ⟨e, made, passed⟩
    cases made
    exact passed
  · intro passed
    exact ⟨_, answer?_expect caller actual m, passed⟩

/-- A script sets a variable to a datum, and finds a text in it. -/
def Stores (caller : Caller) (store : Store) (name : String) (d : Datum) (m : Machine)
    (s : String) : Prop :=
  ∃ m', answer? caller "set" [.handle store.handle, .text name, d] m =
      some (.ok (.unit, none), m') ∧
    answer? caller "get" [.handle store.handle, .text name] m' =
      some (.ok (.text s, none), m')

theorem answer?_set (caller : Caller) (store : Store) (name : String) (d : Datum) (m : Machine) :
    answer? caller "set" [.handle store.handle, .text name, d] m =
      some (.ok (.unit, none),
        { m with host := m.host.apply (.set store name d.toValue.toVariable) }) := by
  cases store with
  | environment => rfl
  | globals => rfl

/-- A variable that was set to a datum is read as that datum in text, in either store. -/
theorem stores_iff {caller : Caller} {store : Store} {name : String} {d : Datum} {m : Machine}
    {s : String} : Stores caller store name d m s ↔ d.toValue.toVariable = s := by
  have held : ((m.host.apply (.set store name d.toValue.toVariable)).tracker store).get? name =
      some d.toValue.toVariable := by
    rw [Host.apply, Host.tracker_onTracker, if_pos rfl, Tracker.get?_set_self]
  constructor
  · rintro ⟨m', set, get⟩
    rw [answer?_set] at set
    cases set
    rw [answer?_get, held] at get
    cases get
    rfl
  · rintro rfl
    refine ⟨_, answer?_set caller store name d m, ?_⟩
    rw [answer?_get, held]
    rfl

end Native

/-! ## Integers -/

namespace Datum

theorem natAbs_toInt_lt (a : Int64) : a.toInt.natAbs < 2 ^ 64 := by
  have upper := a.toInt_lt
  have lower := a.le_toInt
  omega

/-- What scripts see of two integers once the host has had them. -/
structure Crosses (a b : Int64) : Prop where
  /-- The integers that they are rounded to are compared. -/
  compared : ∀ {name matcher}, Native.Compares name matcher → ∀ caller m,
    Native.Passes caller name (.int a) (.int b) m ↔
      Number.rounded a.toInt = Number.rounded b.toInt
  /-- At most one of them has more bits than a double holds. -/
  exact : a.toInt.natAbs ≤ 2 ^ 53 → b.toInt.natAbs ≤ 2 ^ 53 ∨ a.toInt.natAbs < 2 ^ 53 →
    ∀ {name matcher}, Native.Compares name matcher → ∀ caller m,
      Native.Passes caller name (.int a) (.int b) m ↔ a = b
  digits : a.toInt.natAbs < 9000000000000000 → ∀ caller store key m,
    Native.Stores caller store key (.int a) m (toString a.toInt)
  double : 9000000000000000 ≤ a.toInt.natAbs → ∀ caller store key m,
    Native.Stores caller store key (.int a) m (Number.documentText (Number.ofInt a.toInt))
  apart : a.toInt.natAbs < 9000000000000000 → a ≠ b → ∀ caller store key m s t,
    Native.Stores caller store key (.int a) m s → Native.Stores caller store key (.int b) m t → s ≠ t

theorem passes_int_iff {name : String} {matcher : ScriptValue → Matcher}
    (compares : Native.Compares name matcher) (a b : Int64) (caller : Caller) (m : Machine) :
    Native.Passes caller name (.int a) (.int b) m ↔
      Number.rounded a.toInt = Number.rounded b.toInt := by
  rw [compares.passes_iff]
  exact Number.ofInt_beq_iff (natAbs_toInt_lt a) (natAbs_toInt_lt b)

theorem toVariable_int {a : Int64} (small : a.toInt.natAbs < 9000000000000000) :
    (int a).toValue.toVariable = toString a.toInt :=
  ScriptValue.toVariable_ofInt small

theorem toVariable_int_of_le {a : Int64} (large : 9000000000000000 ≤ a.toInt.natAbs) :
    (int a).toValue.toVariable = Number.documentText (Number.ofInt a.toInt) :=
  ScriptValue.toVariable_ofInt_of_le large (natAbs_toInt_lt a)

/-- An integer below the limit is stored as no other integer is. -/
theorem toVariable_int_ne {a b : Int64} (small : a.toInt.natAbs < 9000000000000000)
    (different : a ≠ b) : (int a).toValue.toVariable ≠ (int b).toValue.toVariable := by
  rw [toVariable_int small]
  intro alike
  rcases Nat.lt_or_ge b.toInt.natAbs 9000000000000000 with short | long
  · rw [toVariable_int short] at alike
    exact different (Int64.toInt_inj.mp (Int.repr_inj.mp alike))
  · -- The text of a double has a point or an exponent.
    have bounded := ScriptValue.finite_ofInt (natAbs_toInt_lt b)
    have number := ScriptValue.notANumber_of_finite bounded
    have marked : Number.Marked (Number.documentText (Number.ofInt b.toInt)) :=
      Number.Layout.marked_text rfl number bounded
    rw [← toVariable_int_of_le long, ← alike] at marked
    exact Number.not_marked_toString _ marked

/-- Integers are compared by what a double holds of them.  Those that it holds whole are compared as
they are, and those below the bound of whole numbers are stored digit by digit, as no other is. -/
theorem integers_cross (a b : Int64) : Crosses a b where
  compared compares caller m := passes_int_iff compares a b caller m
  exact := by
    intro short other name matcher compares caller m
    rw [passes_int_iff compares, Number.rounded_eq_iff short other, Int64.toInt_inj]
  digits small caller store key m := Native.stores_iff.mpr (toVariable_int small)
  double large caller store key m := Native.stores_iff.mpr (toVariable_int_of_le large)
  apart := by
    intro small different caller store key m s t first second
    rw [← Native.stores_iff.mp first, ← Native.stores_iff.mp second]
    exact toVariable_int_ne small different

/-- Two integers that become one for the host, and one that is not stored by its digits. -/
theorem integers_meet :
    (9007199254740993 : Int64) ≠ 9007199254740992 ∧
    (∀ caller m, Native.Passes caller "toBe" (.int 9007199254740993) (.int 9007199254740992) m) ∧
    (∀ caller store key m s, Native.Stores caller store key (.int 9007199254740993) m s →
      Native.Stores caller store key (.int 9007199254740992) m s) ∧
    ∀ caller store key m,
      Native.Stores caller store key (.int 9000000000000000) m "9000000000000000.0" := by
  refine ⟨by decide, fun caller m => ?_, fun caller store key m s stored => ?_,
    fun caller store key m => ?_⟩
  · exact (passes_int_iff .toBe _ _ caller m).mpr (by decide)
  · rw [Native.stores_iff] at stored ⊢
    rw [← stored]
    decide +kernel
  · exact Native.stores_iff.mpr (by decide +kernel)

end Datum

end CollectionRunner
