import CollectionRunner.Run.Report

/-!
# Results on a terminal

One block for each request and a summary at the end. Colours are escape sequences around a text; a
text that ends the colours itself gets them back.
-/

namespace CollectionRunner

/-- How a text is shown. -/
inductive Style
  | bold
  | dimmed
  | red
  | green
  | yellow
  | magenta
  | cyan
  | white
  deriving DecidableEq, Repr

namespace Style

/-- Number of the style in escape sequences. -/
def code : Style → String
  | bold => "1"
  | dimmed => "2"
  | red => "31"
  | green => "32"
  | yellow => "33"
  | magenta => "35"
  | cyan => "36"
  | white => "37"

/-- The sequence that ends all styles. -/
def reset : String := "\x1b[0m"

/-- The sequence that begins styles. -/
def start (styles : List Style) : String :=
  "\x1b[" ++ String.intercalate ";" (styles.map code) ++ "m"

/-- A text in some styles, when colours are on. -/
def apply (color : Bool) (styles : List Style) (text : String) : String :=
  if color then
    start styles ++ String.intercalate (reset ++ start styles) (text.splitOn reset) ++ reset
  else text

end Style

namespace Printer

/-- Colour of a status. -/
def statusStyle : RequestStatus → Style
  | .passed => .green
  | .failed => .red
  | .error => .magenta
  | .skipped => .yellow
  | .pending => .white
  | .running => .white

/-- Style of the level of a line of output. -/
def levelStyle : ConsoleLevel → Style
  | .error => .red
  | .warn => .yellow
  | _ => .dimmed

/-- A line of output of a script. -/
def consoleLine (color : Bool) (label : String) (e : ConsoleEntry) : String :=
  "  " ++ Style.apply color [.dimmed] label ++ " [" ++
    Style.apply color [levelStyle e.level] e.level.name ++ "] " ++ e.message ++ "\n"

/-- The line of a test. -/
def assertionLine (color : Bool) (a : AssertionResult) : String :=
  if a.passed then "  " ++ Style.apply color [.green] "✓" ++ " " ++ a.name ++ "\n"
  else
    "  " ++ Style.apply color [.red] "✗" ++ " " ++ a.name ++ " " ++
      Style.apply color [.dimmed] a.message ++ "\n"

/-- The lines of a script. -/
def scriptLines (color : Bool) (label : String) : Option ScriptResult → String
  | some r =>
    String.join (r.console.map (consoleLine color label)) ++
      String.join (r.assertions.map (assertionLine color))
  | none => ""

/-- The block of a request. -/
def requestBlock (color : Bool) (r : RequestResult) : String :=
  let status := "[" ++ Text.asciiUpper r.status.name ++ "]"
  let head := Style.apply color [.bold, statusStyle r.status] status ++ " " ++
    Style.apply color [.bold] r.info.method ++ " " ++ Style.apply color [.cyan] r.info.url ++ " " ++
    Style.apply color [.dimmed] ("(" ++ Number.tenthsText r.durationMs ++ " ms)") ++ "\n"
  let response := match r.response with
    | some response =>
      "  " ++ Style.apply color [.bold] "Status:" ++ " " ++ toString response.status ++ " " ++
        Style.apply color [.dimmed] response.statusText ++ "\n"
    | none => ""
  let error := match r.error with
    | some e => "  " ++ Style.apply color [.bold, .red] "Error:" ++ " " ++ e.text ++ "\n"
    | none => ""
  head ++ response ++ scriptLines color ScriptPhase.preRequest.name r.preScript ++
    scriptLines color ScriptPhase.postResponse.name r.postScript ++ error

/-- A number in a colour. -/
def countText (color : Bool) (style : Style) (n : Nat) : String :=
  Style.apply color [style] (toString n)

/-- The summary of a run. -/
def summary (color : Bool) (r : RunReport) : String :=
  let s := r.summary
  let headline :=
    if s.allPassed then Style.apply color [.bold, .green] "Run passed"
    else Style.apply color [.bold, .red] "Run failed"
  headline ++ " " ++ Style.apply color [.dimmed] ("(" ++ r.session.status.name ++ ")") ++
    "\n  " ++ Style.apply color [.bold] "Requests:" ++ " " ++ toString s.completedRequests ++ "/" ++
    toString s.totalRequests ++ " requests, " ++ countText color .green s.passed ++ " passed, " ++
    countText color .red s.failed ++ " failed, " ++ countText color .magenta s.errors ++
    " errors, " ++ countText color .yellow s.skipped ++ " skipped\n  " ++
    Style.apply color [.bold] "Assertions:" ++ " " ++ countText color .green s.passedAssertions ++
    " passed, " ++ countText color .red s.failedAssertions ++ " failed\n  " ++
    Style.apply color [.bold] "Duration:" ++ " " ++ Number.tenthsText s.totalDurationMs ++ " ms\n"

end Printer

end CollectionRunner
