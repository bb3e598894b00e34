import CollectionRunner.CommandLine.Options
import CollectionRunner.Env.Load
import CollectionRunner.Http.Refusal
import CollectionRunner.Path
import CollectionRunner.Run.Printer
import CollectionRunner.Run.Runner

/-!
# The command

Everything the program does between reading files and printing: `run` loads the collection, the
environment and the settings and runs the collection, and `conclude` says what to print, what to
write and how to exit. A failure is reported with all that was being done.
-/

namespace CollectionRunner

/-! ## Failures -/

/-- What was being done when something failed, outermost first, and why it failed. -/
structure CommandError where
  doing : List String
  cause : String
  deriving DecidableEq, Repr

namespace CommandError

/-- A text whose lines after the first are moved to the right. -/
def indented (margin : String) (s : String) : String :=
  String.intercalate ("\n" ++ margin) (s.splitOn "\n")

/-- One of several causes. -/
def numbered (index : Nat) (cause : String) : String :=
  let number := toString index
  String.ofList (List.replicate (5 - number.length) ' ') ++ number ++ ": " ++
    indented "       " cause

/-- The causes of a failure in words. -/
def causesText : List String → String
  | [] => ""
  | [cause] => "\n\nCaused by:\n    " ++ indented "    " cause
  | causes =>
    "\n\nCaused by:\n" ++
      String.intercalate "\n" (causes.zipIdx.map fun (cause, i) => numbered i cause)

/-- The failure in words. -/
def text (e : CommandError) : String :=
  match e.doing with
  | [] => "Error: " ++ e.cause
  | first :: rest => "Error: " ++ first ++ causesText (rest ++ [e.cause])

/-- A file that could not be used. -/
def ofLoad (doing : List String) (f : LoadFailure) : CommandError :=
  ⟨doing ++ [f.doing], f.cause.text⟩

end CommandError

/-! ## What is there and what is done -/

/-- The directory of the report. -/
inductive ReportPlace
  /-- The names of its files; there are none when it has to be made. -/
  | files (names : List String)
  | closed (cause : LoadCause)
  deriving Inhabited

/-- What a command finds. -/
structure Situation where
  /-- The current directory. -/
  directory : String
  /-- The paths that were looked at. -/
  files : List (String × FileState)
  now : Moment
  seed : UInt64

/-- What is at a path. -/
def Situation.file (s : Situation) (path : String) : FileState :=
  (s.files.lookup path).getD .missing

/-- What a command does in the end. -/
structure Outcome where
  exit : Nat
  /-- The blocks that are printed, in order. -/
  output : List String
  /-- What is printed as an error. -/
  error : Option CommandError
  /-- The report that is written, and where. -/
  report : Option (String × RunReport)
  deriving Inhabited

/-- The outcome of a command that failed. -/
def Outcome.failed (output : List String) (e : CommandError) : Outcome := ⟨1, output, some e, none⟩

/-! ## Loading -/

namespace Options

/-- Path of the collection. -/
def collectionPath (o : Options) (directory : String) : String := Path.join directory o.collection

/-- Path of the environment. -/
def environmentPath (o : Options) (directory : String) : Option String :=
  o.environment.map (Path.join directory)

/-- Where the settings are looked for: a file, or a directory that has one. -/
def configTarget (o : Options) (directory : String) : String :=
  match o.config with
  | some path => Path.join directory path
  | none => Path.parent (o.collectionPath directory)

/-- Path of the directory of the report. -/
def reportPath (o : Options) (directory : String) : Option String :=
  o.reportDirectory.map (Path.join directory)

/-- The paths that a command looks at. -/
def lookedAt (o : Options) (directory : String) : List String :=
  let target := o.configTarget directory
  o.collectionPath directory :: (o.environmentPath directory).toList ++
    [target, Path.join target RunConfig.fileName]

/-- The settings with those of the command line over those of the file. -/
def overriding (o : Options) (c : RunConfig) : RunConfig where
  stopOnFailure := o.stopOnFailure || c.stopOnFailure
  delayMs := o.delayMs.getD c.delayMs
  requestTimeout := (o.timeoutMs.map Duration.ofMilliseconds).getD c.requestTimeout
  scriptTimeout := (o.scriptTimeoutMs.map Duration.ofMilliseconds).getD c.scriptTimeout

end Options

namespace Situation

/-- Load the environment of a command. -/
def environment (s : Situation) (o : Options) : Except CommandError (Option Environment) :=
  match o.environmentPath s.directory with
  | none => .ok none
  | some path =>
    match Environment.load path (s.file path) with
    | .ok e => .ok (some e)
    | .error f => .error (.ofLoad ["loading environment"] f)

/-- Load the settings of a command. -/
def config (s : Situation) (o : Options) : Except CommandError RunConfig := do
  let target := o.configTarget s.directory
  let path := match s.file target with
    | .directory => Path.join target RunConfig.fileName
    | _ => target
  let loaded ← (RunConfig.load path (s.file path)).mapError (.ofLoad ["loading run configuration"])
  let config := o.overriding (loaded.getD .standard)
  config.validate.mapError fun e => ⟨["invalid run configuration"], e.text⟩
  return config

end Situation

/-! ## Running -/

/-- A sender without a network: it refuses what is never sent, and reaches nobody. -/
def Sender.offline : Sender := fun _ request =>
  match request.refusal with
  | some e => .failure e
  | none => .failure (.network "no connection can be made")

/-- The runner of a command. -/
def Situation.runner (s : Situation) : Runner where
  scripting := Script.conduct
  sender := .offline
  canceled _ _ := false
  now := s.now
  seed := s.seed

/-- The block of a request that a run finished. -/
def RunEvent.block : RunEvent → Option String
  | requestFinished result => some (Printer.requestBlock false result)
  | _ => none

/-- Load what a command needs and run the collection. -/
def Situation.run (s : Situation) (o : Options) : Except CommandError Progress := do
  let path := o.collectionPath s.directory
  let collection ← (Collection.load path (s.file path)).mapError (.ofLoad [])
  let environment ← s.environment o
  let config ← s.config o
  (s.runner.run collection o.folder environment config ⟨⟨.empty⟩, []⟩).mapError
    fun e => ⟨["running collection " ++ collection.name], e.text⟩

/-- The blocks of the requests of a run. -/
def Progress.blocks (p : Progress) : List String := p.events.filterMap RunEvent.block

/-- The end of a command whose run is over. -/
def Situation.conclude (s : Situation) (o : Options) (reports : ReportPlace) (p : Progress) :
    Outcome :=
  let report := p.session.report
  let output := p.blocks ++ [Printer.summary false report]
  let exit := if report.summary.allPassed then 0 else 1
  match o.reportPath s.directory, reports with
  | none, _ => ⟨exit, output, none, none⟩
  | some directory, .closed cause =>
    .failed output ⟨["creating report directory " ++ directory], cause.text⟩
  | some directory, .files names =>
    let name := Directory.unusedName (names.map fun n => (n, "")) (report.stem s.now)
    let path := Path.join directory name
    ⟨exit, output ++ ["Report: " ++ path ++ "\n"], none, some (path, report)⟩

/-- Do what the command line asks for. -/
def Situation.perform (s : Situation) (o : Options) (reports : ReportPlace) : Outcome :=
  match s.run o with
  | .ok p => s.conclude o reports p
  | .error e => .failed [] e

end CollectionRunner
