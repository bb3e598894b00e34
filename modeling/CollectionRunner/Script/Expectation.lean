import CollectionRunner.Pattern.Parse
import CollectionRunner.Script.Value

/-!
# Expectations

An expectation holds a value and whether it is negated. A matcher either does not apply to the
value, which is a failure whatever the negation, or judges it; the verdict passes when it differs
from the negation.
-/

namespace CollectionRunner

/-- What is expected of a value. -/
inductive Matcher
  | be (expected : ScriptValue)
  | equal (expected : ScriptValue)
  | truthy
  | falsy
  | contain (item : ScriptValue)
  | property (name : String)
  | greater (bound : ScriptValue)
  | less (bound : ScriptValue)
  | greaterOrEqual (bound : ScriptValue)
  | lessOrEqual (bound : ScriptValue)
  | pattern (text : String)
  | null
  | undefined
  | defined
  | length (expected : ScriptValue)
  deriving Repr, Inhabited

/-- Why an expectation is not met. -/
structure MatcherFailure where
  message : String
  expected : Option String
  actual : Option String
  deriving DecidableEq, Repr, Inhabited

/-- A value of which something is expected. -/
structure Expectation where
  actual : ScriptValue
  negated : Bool
  deriving Repr, Inhabited

namespace Matcher

/-- What is expected, in words. -/
def verb : Matcher → String
  | be _ => "be"
  | equal _ => "equal"
  | truthy => "be truthy"
  | falsy => "be falsy"
  | contain _ => "contain"
  | property _ => "have property"
  | greater _ => "be greater than"
  | less _ => "be less than"
  | greaterOrEqual _ => "be greater than or equal to"
  | lessOrEqual _ => "be less than or equal to"
  | pattern _ => "match"
  | null => "be null"
  | undefined => "be undefined"
  | defined => "be defined"
  | length _ => "have length"

/-- The argument in words, for matchers that have one. -/
def argument? : Matcher → Option String
  | be v => some v.describe
  | equal v => some v.describe
  | contain v => some v.describe
  | property name => some (Text.quoted name)
  | greater v => some v.describe
  | less v => some v.describe
  | greaterOrEqual v => some v.describe
  | lessOrEqual v => some v.describe
  | pattern text => some ("/" ++ text ++ "/")
  | length v => some v.describe
  | _ => none

/-- Whether a list of characters starts with another. -/
def startsWith : List Char → List Char → Bool
  | _, [] => true
  | [], _ :: _ => false
  | c :: cs, d :: ds => c == d && startsWith cs ds

/-- Whether a list of characters contains another. -/
def containsChars (needle : List Char) : List Char → Bool
  | [] => needle.isEmpty
  | c :: cs => startsWith (c :: cs) needle || containsChars needle cs

/-- Whether a text contains another. -/
def containsText (haystack needle : String) : Bool :=
  containsChars needle.toList haystack.toList

/-- Compare two values as numbers; the error says that they are none. -/
def compare (actual bound : ScriptValue) (holds : Float → Float → Bool) : Except String Bool :=
  match actual.toNumber?, bound.toNumber? with
  | some a, some b => .ok (holds a b)
  | _, _ => .error s!"Expected {actual.describe} and {bound.describe} to be numbers"

/-- Whether the matcher holds of a value; the error says why it does not apply. An invalid pattern is
only named: what its reader finds wrong with it, which would follow after a colon, is left out. -/
def judge (actual : ScriptValue) : Matcher → Except String Bool
  | be v => .ok (actual.same v)
  | equal v => .ok (actual.same v)
  | truthy => .ok actual.isTruthy
  | falsy => .ok !actual.isTruthy
  | contain v =>
    match actual, v with
    | .text haystack, .text needle => .ok (containsText haystack needle)
    | .text haystack, other => .ok (containsText haystack other.display)
    | .list items, needle => .ok (items.any (·.same needle))
    | _, _ =>
      .error s!"Expected {actual.describe} to be a string for toContain, got {actual.typeName}"
  | property name =>
    match actual with
    | .map entries => .ok (entries.any (·.1 == name))
    | _ =>
      .error s!"Expected {actual.describe} to be a map for toHaveProperty, got {actual.typeName}"
  | greater v => compare actual v (· > ·)
  | less v => compare actual v (· < ·)
  | greaterOrEqual v => compare actual v (· ≥ ·)
  | lessOrEqual v => compare actual v (· ≤ ·)
  | pattern text =>
    match Pattern.parse text with
    | some p => .ok (p.matchesIn actual.display)
    | none => .error ("Invalid pattern /" ++ text ++ "/")
  | null => .ok actual.isAbsent
  | undefined => .ok actual.isAbsent
  | defined => .ok !actual.isAbsent
  | length v =>
    match actual.length? with
    | none => .error s!"Expected {actual.describe} to have a length, got {actual.typeName}"
    | some n =>
      match v.toNumber? with
      | none => .error s!"toHaveLength expects a number, got {v.describe}"
      | some wanted => .ok (Number.ofInt n == wanted)

end Matcher

namespace Expectation

/-- The expectation of a value. -/
def of (actual : ScriptValue) : Expectation := ⟨actual, false⟩

/-- The opposite expectation. -/
def not (e : Expectation) : Expectation := { e with negated := !e.negated }

/-- Message of an expectation that is not met. -/
def message (e : Expectation) (m : Matcher) : String :=
  let polarity := if e.negated then "not to" else "to"
  let start := s!"Expected {e.actual.describe} {polarity} {m.verb}"
  match m.argument? with
  | some argument => start ++ " " ++ argument
  | none => start

/-- Check an expectation; the answer is the failure when it is not met. -/
def check (e : Expectation) (m : Matcher) : Option MatcherFailure :=
  match m.judge e.actual with
  | .error message => some ⟨message, none, some e.actual.describe⟩
  | .ok holds =>
    if holds != e.negated then none
    else some ⟨e.message m, m.argument?, some e.actual.describe⟩

end Expectation

end CollectionRunner
