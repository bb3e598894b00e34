import CollectionRunner.Duration
import CollectionRunner.Env.Change

/-!
# Results of scripts

What a script left behind: its console output, the assertions it made, the changes to variables,
whether it set anything on the request, and why it ended early if it did.
-/

namespace CollectionRunner

/-- Why a script did not run to its end. -/
inductive ScriptError
  | badSyntax (message : String) (line column : Option Nat)
  | execution (message : String) (line column : Option Nat)
  | timeout (budgetMs : Nat)
  | internal (message : String)
  deriving DecidableEq, Repr, Inhabited

namespace ScriptError

/-- Name of the kind of error. -/
def kind : ScriptError → String
  | badSyntax .. => "SyntaxError"
  | execution .. => "ExecutionError"
  | timeout _ => "TimeoutError"
  | internal _ => "InternalError"

/-- Line of the error, from one. -/
def line : ScriptError → Option Nat
  | badSyntax _ line _ => line
  | execution _ line _ => line
  | _ => none

/-- Column of the error, from one. -/
def column : ScriptError → Option Nat
  | badSyntax _ _ column => column
  | execution _ _ column => column
  | _ => none

/-- The place of an error in words. -/
def location : Option Nat → Option Nat → String
  | some line, some column => s!" (line {line}, column {column})"
  | some line, none => s!" (line {line})"
  | none, _ => ""

/-- The error in words. -/
def text : ScriptError → String
  | badSyntax message line column => "SyntaxError: " ++ message ++ location line column
  | execution message line column => "ExecutionError: " ++ message ++ location line column
  | timeout budgetMs => s!"TimeoutError: script exceeded {budgetMs} ms"
  | internal message => "InternalError: " ++ message

/-- A message with the place it is about. -/
def placedRecord : Record (String × Option Nat × Option Nat) :=
  (Record.cons (.required "message" .string) (.cons (.nullable "line" (.natural 64))
    (.cons (.nullable "column" (.natural 64)) .nil))).map
    (fun (message, line, column, _) => (message, line, column))
    (fun (message, line, column) => (message, line, column, ()))

/-- Errors as documents. -/
def codec : Codec ScriptError :=
  .tagged "type"
    [.ofRecord "SyntaxError" placedRecord (fun (m, l, c) => badSyntax m l c)
      (fun | badSyntax m l c => some (m, l, c) | _ => none),
     .ofRecord "ExecutionError" placedRecord (fun (m, l, c) => execution m l c)
      (fun | execution m l c => some (m, l, c) | _ => none),
     .ofRecord "TimeoutError"
      ((Record.cons (.required "budget_ms" (.natural 64)) .nil).map
        (fun (ms, _) => ms) (fun ms => (ms, ())))
      timeout (fun | timeout ms => some ms | _ => none),
     .ofRecord "InternalError" TransportError.messageRecord internal
      (fun | internal m => some m | _ => none)]

end ScriptError

/-- How a line of console output was written. -/
inductive ConsoleLevel
  | log
  | info
  | warn
  | error
  | debug
  deriving DecidableEq, Repr, Inhabited

namespace ConsoleLevel

/-- Name of the level. -/
def name : ConsoleLevel → String
  | log => "log"
  | info => "info"
  | warn => "warn"
  | error => "error"
  | debug => "debug"

/-- Levels as documents. -/
def codec : Codec ConsoleLevel :=
  .choice [("log", log), ("info", info), ("warn", warn), ("error", error), ("debug", debug)] name

end ConsoleLevel

/-- One line of console output. -/
structure ConsoleEntry where
  level : ConsoleLevel
  message : String
  deriving DecidableEq, Repr, Inhabited

/-- Lines of console output as documents. -/
def ConsoleEntry.record : Record ConsoleEntry :=
  (Record.cons (.required "level" ConsoleLevel.codec) (.cons (.required "message" .string)
    .nil)).map (fun (level, message, _) => ⟨level, message⟩) (fun e => (e.level, e.message, ()))

/-- What became of one test. -/
structure AssertionResult where
  name : String
  passed : Bool
  expected : Option String
  actual : Option String
  message : String
  deriving DecidableEq, Repr, Inhabited

namespace AssertionResult

/-- A test that passed. -/
def pass (name : String) : AssertionResult := ⟨name, true, none, none, ""⟩

/-- A test that failed. -/
def fail (name message : String) : AssertionResult := ⟨name, false, none, none, message⟩

/-- Tests as documents. -/
def record : Record AssertionResult :=
  (Record.cons (.required "name" .string) (.cons (.required "passed" .bool)
    (.cons (.optional "expected" .string) (.cons (.optional "actual" .string)
      (.cons (.defaulted "message" .string "") .nil))))).map
    (fun (name, passed, expected, actual, message, _) => ⟨name, passed, expected, actual, message⟩)
    (fun a => (a.name, a.passed, a.expected, a.actual, a.message, ()))

end AssertionResult

/-- What a script left behind. -/
structure ScriptResult where
  success : Bool
  duration : Duration
  error : Option ScriptError
  console : List ConsoleEntry
  assertions : List AssertionResult
  envChanges : List Change
  globalChanges : List Change
  requestModified : Bool
  deriving DecidableEq, Repr, Inhabited

namespace ScriptResult

/-- What no script leaves behind. -/
def empty : ScriptResult := ⟨true, .zero, none, [], [], [], [], false⟩

/-- Number of tests that passed. -/
def passedAssertions (r : ScriptResult) : Nat := (r.assertions.filter (·.passed)).length

/-- Number of tests that failed. -/
def failedAssertions (r : ScriptResult) : Nat := (r.assertions.filter (!·.passed)).length

/-- Whether a test failed. -/
def hasFailedAssertions (r : ScriptResult) : Bool := r.assertions.any (!·.passed)

/-- Results as documents. -/
def record : Record ScriptResult :=
  (Record.cons (.required "success" .bool)
    (.cons (.required "durationMs" Duration.fractionalCodec)
      (.cons (.optional "error" ScriptError.codec)
        (.cons (.defaulted "consoleOutput" ConsoleEntry.record.codec.list [])
          (.cons (.defaulted "assertions" AssertionResult.record.codec.list [])
            (.cons (.defaulted "envChanges" Change.record.codec.list [])
              (.cons (.defaulted "globalChanges" Change.record.codec.list [])
                (.cons (.defaulted "requestModified" .bool false) .nil)))))))).map
    (fun (success, duration, error, console, assertions, envChanges, globalChanges, modified, _) =>
      ⟨success, duration, error, console, assertions, envChanges, globalChanges, modified⟩)
    (fun r => (r.success, r.duration, r.error, r.console, r.assertions, r.envChanges,
      r.globalChanges, r.requestModified, ()))

end ScriptResult

end CollectionRunner
