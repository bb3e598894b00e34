import CollectionRunner.Json.Print
import CollectionRunner.Run.Session

/-!
# Reports

A report is what is kept of a run. It is written into a directory under a name made of the moment
the run started, with a number when that name is taken, so that no report replaces another file.
-/

namespace CollectionRunner

/-- What a report says about its run. -/
structure SessionInfo where
  id : String
  collection : String
  folderPath : Option String
  environment : Option String
  status : RunStatus
  config : RunConfig
  totalRequests : Nat
  startedAt : Option Moment
  finishedAt : Option Moment
  deriving DecidableEq, Repr, Inhabited

/-- Facts about runs as documents. -/
def SessionInfo.record : Record SessionInfo :=
  (Record.cons (.required "id" .string) (.cons (.required "collection" .string)
    (.cons (.optional "folderPath" .string) (.cons (.optional "environment" .string)
      (.cons (.required "status" RunStatus.codec)
        (.cons (.required "config" RunConfig.record.codec)
          (.cons (.required "totalRequests" (.natural 64))
            (.cons (.optional "startedAt" Moment.codec)
              (.cons (.optional "finishedAt" Moment.codec) .nil))))))))).map
    (fun (id, collection, folderPath, environment, status, config, total, started, finished, _) =>
      ⟨id, collection, folderPath, environment, status, config, total, started, finished⟩)
    (fun i => (i.id, i.collection, i.folderPath, i.environment, i.status, i.config,
      i.totalRequests, i.startedAt, i.finishedAt, ()))

/-- The results of a run in numbers. -/
structure RunSummary where
  totalRequests : Nat
  completedRequests : Nat
  passed : Nat
  failed : Nat
  errors : Nat
  skipped : Nat
  passedAssertions : Nat
  failedAssertions : Nat
  totalDurationMs : Float
  deriving Repr, Inhabited

namespace RunSummary

/-- Count one more result. Only results that passed or failed count for the assertions. -/
def count (s : RunSummary) (r : RequestResult) : RunSummary :=
  let s := { s with totalDurationMs := s.totalDurationMs + r.durationMs }
  let assertions (s : RunSummary) : RunSummary :=
    { s with
      passedAssertions := s.passedAssertions + r.passedAssertions
      failedAssertions := s.failedAssertions + r.failedAssertions }
  match r.status with
  | .passed => assertions { s with passed := s.passed + 1 }
  | .failed => assertions { s with failed := s.failed + 1 }
  | .error => { s with errors := s.errors + 1 }
  | .skipped => { s with skipped := s.skipped + 1 }
  | .pending => s
  | .running => s

/-- The summary of results. -/
def tally (totalRequests : Nat) (results : List RequestResult) : RunSummary :=
  results.foldl count ⟨totalRequests, results.length, 0, 0, 0, 0, 0, 0, 0.0⟩

/-- Whether no request failed. -/
def allPassed (s : RunSummary) : Bool := s.failed == 0 && s.errors == 0

/-- Summaries as documents. -/
def record : Record RunSummary :=
  (Record.cons (.required "totalRequests" (.natural 64))
    (.cons (.required "completedRequests" (.natural 64))
      (.cons (.required "passed" (.natural 64))
        (.cons (.required "failed" (.natural 64))
          (.cons (.required "errors" (.natural 64))
            (.cons (.required "skipped" (.natural 64))
              (.cons (.required "passedAssertions" (.natural 64))
                (.cons (.required "failedAssertions" (.natural 64))
                  (.cons (.required "totalDurationMs" .double) .nil))))))))).map
    (fun (total, completed, passed, failed, errors, skipped, passedA, failedA, duration, _) =>
      ⟨total, completed, passed, failed, errors, skipped, passedA, failedA, duration⟩)
    (fun s => (s.totalRequests, s.completedRequests, s.passed, s.failed, s.errors, s.skipped,
      s.passedAssertions, s.failedAssertions, s.totalDurationMs, ()))

end RunSummary

/-- What is kept of a run. -/
structure RunReport where
  session : SessionInfo
  summary : RunSummary
  results : List RequestResult
  deriving Repr, Inhabited

/-- The report of a session as it stands. -/
def Session.report (s : Session) : RunReport where
  session := ⟨s.id, s.collection, s.folderPath, s.environment, s.status, s.config,
    s.totalRequests, s.startedAt, s.finishedAt⟩
  summary := .tally s.totalRequests s.results
  results := s.results

namespace RunReport

/-- Reports as documents. -/
def record : Record RunReport :=
  (Record.cons (.required "sessionInfo" SessionInfo.record.codec)
    (.cons (.required "summary" RunSummary.record.codec)
      (.cons (.required "results" RequestResult.record.codec.list) .nil))).map
    (fun (session, summary, results, _) => ⟨session, summary, results⟩)
    (fun r => (r.session, r.summary, r.results, ()))

/-- Name of a report without its ending: the moment the run started, or the current one when it never
did. -/
def stem (r : RunReport) (now : Moment) : String :=
  "run-" ++ (r.session.startedAt.getD now).preciseStamp

/-- Name of the file for a report. -/
def fileName (r : RunReport) (now : Moment) : String := r.stem now ++ ".json"

/-- The text of the file for a report. -/
def fileText (r : RunReport) : String := (record.codec.encode r).pretty

end RunReport

/-! ## Directories of reports -/

/-- The files of a directory with their texts. -/
abbrev Directory := List (String × String)

namespace Directory

/-- Whether there is a file of this name. -/
def has (d : Directory) (name : String) : Bool := d.any (·.1 == name)

/-- Write a file. One of the same name is replaced. -/
def put (name text : String) : Directory → Directory
  | [] => [(name, text)]
  | file :: rest =>
    if file.1 = name then (name, text) :: rest else file :: put name text rest

/-- Names to try for a report after its first one. -/
def numbered (stem : String) (index : Nat) : String := stem ++ "-" ++ toString index ++ ".json"

/-- The first free name from a number on. Among one name more than there are files one is free. -/
def firstFree (d : Directory) (stem : String) (index : Nat) : Nat → String
  | 0 => numbered stem index
  | fuel + 1 =>
    if d.has (numbered stem index) then firstFree d stem (index + 1) fuel
    else numbered stem index

/-- A name for a report that no file has. -/
def unusedName (d : Directory) (stem : String) : String :=
  let name := stem ++ ".json"
  if d.has name then firstFree d stem 1 d.length else name

/-- Write a report; also answers its name. -/
def write (d : Directory) (r : RunReport) (now : Moment) : Directory × String :=
  let name := d.unusedName (r.stem now)
  (d.put name r.fileText, name)

end Directory

end CollectionRunner
