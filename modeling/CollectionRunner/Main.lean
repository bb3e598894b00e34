import CollectionRunner.CommandLine.Command
import Std.Time.DateTime.Timestamp

/-!
# The program

Reads the files that the command line names, performs the command, and prints and writes what it
says.
-/

namespace CollectionRunner.Command

/-- What is at a path. -/
def look (path : String) : IO FileState := do
  try
    return .contents (← IO.FS.readBinFile path)
  catch
    | .inappropriateType _ 21 _ => return .directory
    | .inappropriateType _ 20 _ => return .blocked
    | _ => return .missing

/-- The names of earlier reports that stand in the way of one with the stem. -/
partial def takenNames (directory stem : String) (index : Nat) : IO (List String) := do
  let name := if index = 0 then stem ++ ".json" else Directory.numbered stem index
  match ← look (Path.join directory name) with
  | .contents _ => return name :: (← takenNames directory stem (index + 1))
  | .directory => return name :: (← takenNames directory stem (index + 1))
  | _ => return []

/-- Make the directory of a report. -/
def openReports (directory stem : String) : IO ReportPlace := do
  try
    IO.FS.createDirAll directory
    return .files (← takenNames directory stem 0)
  catch
    | .alreadyExists .. => return .closed .occupied
    | _ => return .closed .blocked

/-- The current moment. -/
def currentMoment : IO Moment := do
  let nanoseconds := (← Std.Time.Timestamp.now).toNanosecondsSinceUnixEpoch.val
  return ⟨nanoseconds / 1000000000, (nanoseconds % 1000000000).toNat⟩

/-- Where random values come from. -/
def randomSeed : IO UInt64 := do
  return (← IO.getRandomBytes 8).foldl (fun seed b => seed * 256 + b.toUInt64) 0

/-- Print the block of each request, and wait before the next. -/
def printBlocks (delayMs : Nat) : List String → IO Unit
  | [] => return
  | block :: rest => do
    IO.print block
    (← IO.getStdout).flush
    if !rest.isEmpty then IO.sleep delayMs.toUInt32
    printBlocks delayMs rest

/-- Perform a command. -/
def perform (o : Options) : IO UInt32 := do
  let directory := toString (← IO.currentDir)
  let files ← (o.lookedAt directory).mapM fun path => return (path, ← look path)
  let situation : Situation := ⟨directory, files, ← currentMoment, ← randomSeed⟩
  match situation.run o with
  | .error e =>
    IO.eprintln e.text
    return 1
  | .ok p =>
    printBlocks p.session.config.delayMs p.blocks
    let reports ← match o.reportPath directory with
      | some path => openReports path (p.session.report.stem situation.now)
      | none => pure (.files [])
    let outcome := situation.conclude o reports p
    match outcome.report with
    | some (path, report) => IO.FS.writeFile path report.fileText
    | none => pure ()
    IO.print (String.join (outcome.output.drop p.blocks.length))
    match outcome.error with
    | some e => IO.eprintln e.text
    | none => pure ()
    return outcome.exit.toUInt32

end CollectionRunner.Command

/-- Run the program. -/
def main (arguments : List String) : IO UInt32 := do
  match CollectionRunner.Options.read arguments with
  | .ok o => CollectionRunner.Command.perform o
  | .error .help => return 0
  | .error .wrong =>
    IO.eprintln "error: unusable arguments"
    return 2
