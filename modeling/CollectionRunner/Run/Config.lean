import CollectionRunner.Duration
import CollectionRunner.Files

/-!
# Settings of a run
-/

namespace CollectionRunner

/-- Settings of a run. -/
structure RunConfig where
  /-- Whether the first failure ends the run. -/
  stopOnFailure : Bool
  /-- Milliseconds to wait between two requests. -/
  delayMs : Nat
  requestTimeout : Duration
  scriptTimeout : Duration
  deriving DecidableEq, Repr

namespace RunConfig

/-- Longest delay between two requests, in milliseconds. -/
def maxDelayMs : Nat := 10000

/-- Name of the file with the settings of the collections in a directory. -/
def fileName : String := "runner.json"

/-- The settings of a run that has none of its own. -/
def standard : RunConfig where
  stopOnFailure := false
  delayMs := 0
  requestTimeout := .ofMilliseconds 30000
  scriptTimeout := .ofMilliseconds 5000

instance : Inhabited RunConfig := ⟨standard⟩

/-- Settings as documents. -/
def record : Record RunConfig :=
  (Record.cons (.defaulted "stopOnFailure" .bool standard.stopOnFailure)
    (.cons (.defaulted "delayMs" (.natural 64) standard.delayMs)
      (.cons (.defaulted "requestTimeoutMs" Duration.wholeCodec standard.requestTimeout)
        (.cons (.defaulted "scriptTimeoutMs" Duration.wholeCodec standard.scriptTimeout)
          .nil)))).map
    (fun (stop, delay, request, script, _) => ⟨stop, delay, request, script⟩)
    (fun c => (c.stopOnFailure, c.delayMs, c.requestTimeout, c.scriptTimeout, ())) |>.titled
      "RunConfig"

end RunConfig

/-- Why settings are refused. -/
inductive ConfigError
  | delayOutOfRange (delayMs : Nat)
  | zeroRequestTimeout
  | zeroScriptTimeout
  deriving DecidableEq, Repr

/-- The reason in words. -/
def ConfigError.text : ConfigError → String
  | delayOutOfRange delayMs =>
    s!"delayMs must be between 0 and {RunConfig.maxDelayMs}, got {delayMs}"
  | zeroRequestTimeout => "requestTimeout must be greater than zero"
  | zeroScriptTimeout => "scriptTimeout must be greater than zero"

namespace RunConfig

/-- Refuse settings no run can have. -/
def validate (c : RunConfig) : Except ConfigError Unit :=
  if maxDelayMs < c.delayMs then .error (.delayOutOfRange c.delayMs)
  else if c.requestTimeout = .zero then .error .zeroRequestTimeout
  else if c.scriptTimeout = .zero then .error .zeroScriptTimeout
  else .ok ()

/-- Load the settings at a path; there are none when there is no file. -/
def load (path : String) (file : FileState) : Except LoadFailure (Option RunConfig) :=
  if file.present then do
    let content ← LoadCause.during ("reading run config " ++ path) file.read
    let config ← LoadCause.during ("parsing run config " ++ path) (record.codec.parse content)
    return some config
  else return none

end RunConfig

end CollectionRunner
