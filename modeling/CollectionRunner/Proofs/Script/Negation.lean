import CollectionRunner.Script.Expectation
import Mathlib.Logic.Function.Iterate

/-!
# Expectations and their opposites

Whether a matcher applies to a value does not depend on the negation, so an expectation and its
opposite share one failure when it does not (`Matcher.Opposed.misfit`).  When it applies, the value
is judged once, and one of the two passes while the other fails with a message that names its side
(`Matcher.Opposed.judged`).  Main statement: `Expectation.check_opposed`, for every value and every
matcher, however often the expectation is turned around.
-/

namespace CollectionRunner

/-! ## What matchers apply to -/

namespace ScriptValue

/-- The value stands for a number in comparisons. -/
inductive Numeric : ScriptValue → Prop
  | number (x : Float) : Numeric (number x)
  | bool (b : Bool) : Numeric (bool b)
  | text {s : String} {x : Float} (reads : Number.parse (Text.trim s) = some x) : Numeric (text s)

/-- The value has a length. -/
inductive Sized : ScriptValue → Prop
  | text (s : String) : Sized (text s)
  | list (items : List ScriptValue) : Sized (list items)
  | map (entries : List (String × ScriptValue)) : Sized (map entries)

/-- The values that comparisons of size accept: numbers, and texts that a number is read off. -/
theorem exists_toNumber?_iff {v : ScriptValue} : (∃ x, v.toNumber? = some x) ↔ v.Numeric := by
  constructor
  · rintro ⟨x, number⟩
    cases v with
    | number y => exact .number y
    | bool b => exact .bool b
    | text s => exact .text number
    | null | list | map => cases number
  · rintro (x | b | reads)
    · exact ⟨x, rfl⟩
    · exact ⟨_, rfl⟩
    · exact ⟨_, reads⟩

/-- The values that have a length are texts, lists and maps. -/
theorem exists_length?_iff {v : ScriptValue} : (∃ n, v.length? = some n) ↔ v.Sized := by
  constructor
  · rintro ⟨n, length⟩
    cases v with
    | text s => exact .text s
    | list items => exact .list items
    | map entries => exact .map entries
    | null | bool | number => cases length
  · rintro (s | items | entries)
    · exact ⟨_, rfl⟩
    · exact ⟨_, rfl⟩
    · exact ⟨_, rfl⟩

end ScriptValue

namespace Matcher

/-- The matcher can judge the value. -/
def Applies (actual : ScriptValue) : Matcher → Prop
  | contain _ => (∃ s, actual = .text s) ∨ ∃ items, actual = .list items
  | property _ => ∃ entries, actual = .map entries
  | greater v | less v | greaterOrEqual v | lessOrEqual v => actual.Numeric ∧ v.Numeric
  | pattern text => ∃ p, Pattern.parse text = some p
  | length v => actual.Sized ∧ v.Numeric
  | be _ | equal _ | truthy | falsy | null | undefined | defined => True

theorem exists_compare_iff {actual bound : ScriptValue} {holds : Float → Float → Bool} :
    (∃ verdict, compare actual bound holds = .ok verdict) ↔ actual.Numeric ∧ bound.Numeric := by
  rw [← ScriptValue.exists_toNumber?_iff, ← ScriptValue.exists_toNumber?_iff]
  unfold compare
  cases actual.toNumber? with
  | none => simp
  | some a =>
    cases bound.toNumber? with
    | none => simp
    | some b => simp

/-- A matcher judges the values that it applies to, and no others. -/
theorem exists_judge_iff {actual : ScriptValue} {m : Matcher} :
    (∃ verdict, m.judge actual = .ok verdict) ↔ m.Applies actual := by
  cases m with
  | be | equal | truthy | falsy | null | undefined | defined =>
    exact ⟨fun _ => trivial, fun _ => ⟨_, rfl⟩⟩
  | contain item =>
    constructor
    · rintro ⟨verdict, judged⟩
      cases actual with
      | text s => exact .inl ⟨s, rfl⟩
      | list items => exact .inr ⟨items, rfl⟩
      | null | bool | number | map => cases judged
    · rintro (⟨s, rfl⟩ | ⟨items, rfl⟩)
      · cases item <;> exact ⟨_, rfl⟩
      · exact ⟨_, rfl⟩
  | property name =>
    constructor
    · rintro ⟨verdict, judged⟩
      cases actual with
      | map entries => exact ⟨entries, rfl⟩
      | null | bool | number | text | list => cases judged
    · rintro ⟨entries, rfl⟩
      exact ⟨_, rfl⟩
  | greater | less | greaterOrEqual | lessOrEqual => exact exists_compare_iff
  | pattern text =>
    simp only [Applies, judge]
    cases Pattern.parse text with
    | none => simp
    | some p => simp
  | length v =>
    simp only [Applies, judge, ← ScriptValue.exists_length?_iff,
      ← ScriptValue.exists_toNumber?_iff]
    cases actual.length? with
    | none => simp
    | some n =>
      cases v.toNumber? with
      | none => simp
      | some wanted => simp

/-! ## An expectation and its opposite -/

/-- The failure of a value that the matcher judged against what was expected of it. -/
def unmet (m : Matcher) (actual : ScriptValue) (negated : Bool) : MatcherFailure where
  message := "Expected " ++ actual.describe ++ " " ++ (if negated then "not to" else "to") ++ " " ++
    m.verb ++ (m.argument?.map (" " ++ ·)).getD ""
  expected := m.argument?
  actual := some actual.describe

end Matcher

namespace Expectation

theorem message_eq (actual : ScriptValue) (negated : Bool) (m : Matcher) :
    message ⟨actual, negated⟩ m = (m.unmet actual negated).message := by
  unfold message Matcher.unmet
  cases m.argument? with
  | none => exact String.append_empty.symm
  | some argument => exact String.append_assoc

theorem check_of_error {actual : ScriptValue} {m : Matcher} {message : String}
    (misfit : m.judge actual = .error message) (negated : Bool) :
    check ⟨actual, negated⟩ m = some ⟨message, none, some actual.describe⟩ := by
  rw [check, misfit]

theorem check_of_ok {actual : ScriptValue} {m : Matcher} {verdict : Bool}
    (judged : m.judge actual = .ok verdict) (negated : Bool) :
    check ⟨actual, negated⟩ m =
      if verdict = negated then some (m.unmet actual negated) else none := by
  rw [check, judged]
  cases verdict <;> cases negated <;> simp [message_eq, Matcher.unmet]

theorem iterate_not (n : Nat) (actual : ScriptValue) :
    not^[n] (.of actual) = ⟨actual, n % 2 == 1⟩ := by
  induction n with
  | zero => rfl
  | succ n ih =>
    have turned : (!(n % 2 == 1)) = ((n + 1) % 2 == 1) := by grind
    rw [Function.iterate_succ_apply', ih, not, turned]

/-- The expectation is met. -/
def Met (e : Expectation) (m : Matcher) : Prop := e.check m = none

theorem met_iff_of_ok {actual : ScriptValue} {m : Matcher} {verdict : Bool}
    (judged : m.judge actual = .ok verdict) (negated : Bool) :
    Met ⟨actual, negated⟩ m ↔ verdict = !negated := by
  rw [Met, check_of_ok judged]
  cases verdict <;> cases negated <;> simp

end Expectation

/-- How a matcher deals with a value, and with the opposite of what it expects of it. -/
structure Matcher.Opposed (m : Matcher) (actual : ScriptValue) : Prop where
  /-- Of the times that an expectation is turned around, only the parity counts. -/
  parity : ∀ n,
    (Expectation.not^[n] (.of actual)).check m = Expectation.check ⟨actual, n % 2 == 1⟩ m
  /-- A matcher that does not apply fails whatever the negation. -/
  misfit : ¬ m.Applies actual → ∃ message, ∀ negated,
    Expectation.check ⟨actual, negated⟩ m = some ⟨message, none, some actual.describe⟩
  /-- Of an expectation and its opposite one is met, and the other is not. -/
  judged : m.Applies actual → ∃ negated,
    Expectation.check ⟨actual, negated⟩ m = none ∧
      Expectation.check ⟨actual, !negated⟩ m = some (m.unmet actual !negated)

/-- Each matcher fails for a value whatever the negation, or passes for exactly one of the two. -/
theorem Matcher.opposed (m : Matcher) (actual : ScriptValue) : m.Opposed actual where
  parity n := by rw [Expectation.iterate_not]
  misfit := by
    intro unfit
    cases judged : m.judge actual with
    | error message => exact ⟨message, Expectation.check_of_error judged⟩
    | ok verdict => exact absurd (exists_judge_iff.mp ⟨verdict, judged⟩) unfit
  judged := by
    intro fit
    obtain ⟨verdict, judged⟩ := exists_judge_iff.mpr fit
    refine ⟨!verdict, ?_, ?_⟩
    · rw [Expectation.check_of_ok judged, if_neg (by simp)]
    · rw [Expectation.check_of_ok judged, if_pos (by simp)]

/-- Matchers that ask the same, or the opposite, of every value. -/
structure ScriptValue.Paired (actual : ScriptValue) (negated : Bool) : Prop where
  absent : Expectation.Met ⟨actual, negated⟩ .null ↔ (actual = .null ↔ negated = false)
  undefined : Expectation.Met ⟨actual, negated⟩ .undefined ↔ Expectation.Met ⟨actual, negated⟩ .null
  defined : Expectation.Met ⟨actual, negated⟩ .defined ↔ ¬ Expectation.Met ⟨actual, negated⟩ .null
  falsy : Expectation.Met ⟨actual, negated⟩ .falsy ↔ ¬ Expectation.Met ⟨actual, negated⟩ .truthy
  equal : ∀ expected, Expectation.Met ⟨actual, negated⟩ (.equal expected) ↔
    Expectation.Met ⟨actual, negated⟩ (.be expected)

theorem ScriptValue.isAbsent_iff {v : ScriptValue} : v.isAbsent = true ↔ v = .null := by
  cases v <;> simp [isAbsent]

/-- The pairs of matchers agree, or disagree, on every value, turned around or not. -/
theorem ScriptValue.paired (actual : ScriptValue) (negated : Bool) : actual.Paired negated where
  absent := by
    rw [Expectation.met_iff_of_ok rfl, ← isAbsent_iff]
    cases actual.isAbsent <;> cases negated <;> decide
  undefined := by rw [Expectation.met_iff_of_ok rfl, Expectation.met_iff_of_ok rfl]
  defined := by
    rw [Expectation.met_iff_of_ok rfl, Expectation.met_iff_of_ok rfl]
    cases actual.isAbsent <;> cases negated <;> decide
  falsy := by
    rw [Expectation.met_iff_of_ok rfl, Expectation.met_iff_of_ok rfl]
    cases actual.isTruthy <;> cases negated <;> decide
  equal := by
    intro expected
    rw [Expectation.met_iff_of_ok rfl, Expectation.met_iff_of_ok rfl]

/-- Every matcher either fails in the same words for an expectation and its opposite, or lets one of
the two pass.  The values that are null are those that are undefined, and all others are defined. -/
theorem Expectation.check_opposed (actual : ScriptValue) :
    (∀ m : Matcher, m.Opposed actual) ∧ ∀ negated, actual.Paired negated :=
  ⟨fun m => m.opposed actual, actual.paired⟩

end CollectionRunner
