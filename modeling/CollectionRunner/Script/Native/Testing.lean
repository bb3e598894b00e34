import CollectionRunner.Script.Native

/-!
# Tests and expectations

`test` runs a function and records how it ended. A matcher that does not hold throws what is wrong.
-/

namespace CollectionRunner.Native

/-- Check a matcher of an expectation; what is wrong is thrown. -/
def matched (e : Expectation) (m : Matcher) : Option (Eval Given) :=
  match e.check m with
  | none => give .unit
  | some failure => some (Eval.fail (.thrown (.handle (.failure failure)) none))

/-- Matchers without argument. -/
def plainMatchers : List (String × Matcher) :=
  [("toBeTruthy", .truthy), ("toBeFalsy", .falsy), ("toBeNull", .null),
   ("toBeUndefined", .undefined), ("toBeDefined", .defined)]

/-- Matchers with a value as argument. -/
def valueMatchers : List (String × (ScriptValue → Matcher)) :=
  [("toBe", .be), ("toEqual", .equal), ("toContain", .contain), ("toBeGreaterThan", .greater),
   ("toBeLessThan", .less), ("toBeGreaterThanOrEqual", .greaterOrEqual),
   ("toBeLessThanOrEqual", .lessOrEqual), ("toHaveLength", .length)]

/-- Matchers with a text as argument. -/
def textMatchers : List (String × (String → Matcher)) :=
  [("toHaveProperty", .property), ("toMatch", .pattern)]

/-- The methods of expectations. -/
def matchers : List (String × Native) :=
  plainMatchers.map (fun (name, m) => (name, fun _ => fun
    | [.handle (.expectation e)] => matched e m
    | _ => none)) ++
  valueMatchers.map (fun (name, m) => (name, fun _ => fun
    | [.handle (.expectation e), d] => matched e (m d.toValue)
    | _ => none)) ++
  textMatchers.map (fun (name, m) => (name, fun _ => fun
    | [.handle (.expectation e), .text s] => matched e (m s)
    | _ => none))

/-- Functions that test. -/
def testing : List (String × Native) :=
  [("expect", fun _ => fun
    | [] => give (.handle (.expectation (.of .null)))
    | [d] => give (.handle (.expectation (.of d.toValue)))
    | _ => none),
   ("test", fun caller => fun
    | [.text name, .function f captured] => act (.test name (caller.apply f captured none []))
    | _ => none)] ++ matchers

end CollectionRunner.Native
