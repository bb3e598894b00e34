import CollectionRunner.Run.Collection
import CollectionRunner.Run.Config
import CollectionRunner.Script.Result
import CollectionRunner.Time

/-!
# Sessions

A session is the state of one run: its status, the results so far and the variables that scripts
work on. The status moves from pending to running and from there to one of three ends; any other
move is refused and changes nothing.
-/

namespace CollectionRunner

/-- Where a run stands. -/
inductive RunStatus
  | pending
  | running
  | completed
  | canceled
  | stopped
  deriving DecidableEq, Repr, Inhabited

namespace RunStatus

/-- Whether the run is over. -/
def terminal : RunStatus → Bool
  | completed => true
  | canceled => true
  | stopped => true
  | _ => false

/-- Name of the status. -/
def name : RunStatus → String
  | pending => "pending"
  | running => "running"
  | completed => "completed"
  | canceled => "canceled"
  | stopped => "stopped"

/-- Statuses as documents. -/
def codec : Codec RunStatus :=
  .choice [("pending", pending), ("running", running), ("completed", completed),
    ("canceled", canceled), ("stopped", stopped)] name

end RunStatus

/-- What became of a request. -/
inductive RequestStatus
  | pending
  | running
  | passed
  | failed
  | error
  | skipped
  deriving DecidableEq, Repr, Inhabited

namespace RequestStatus

/-- Name of the status. -/
def name : RequestStatus → String
  | pending => "pending"
  | running => "running"
  | passed => "passed"
  | failed => "failed"
  | error => "error"
  | skipped => "skipped"

/-- Statuses as documents. -/
def codec : Codec RequestStatus :=
  .choice [("pending", pending), ("running", running), ("passed", passed), ("failed", failed),
    ("error", error), ("skipped", skipped)] name

end RequestStatus

/-- When a script runs. -/
inductive ScriptPhase
  | preRequest
  | postResponse
  deriving DecidableEq, Repr, Inhabited

namespace ScriptPhase

/-- Name of the phase. -/
def name : ScriptPhase → String
  | preRequest => "pre-request"
  | postResponse => "post-response"

/-- Phases as documents. -/
def codec : Codec ScriptPhase :=
  .choice [("pre-request", preRequest), ("post-response", postResponse)] name

end ScriptPhase

/-- Why a request ended in an error. -/
inductive RequestError
  | transport (error : TransportError)
  | script (phase : ScriptPhase) (error : ScriptError)
  deriving DecidableEq, Repr, Inhabited

namespace RequestError

/-- The error in words. -/
def text : RequestError → String
  | transport e => "transport error: " ++ e.text
  | script phase e => phase.name ++ " script failed: " ++ e.text

/-- Errors as documents. -/
def codec : Codec RequestError :=
  .tagged "source"
    [.ofCodec "transport" TransportError.codec transport (fun | transport e => some e | _ => none),
     .ofRecord "script"
      ((Record.cons (.required "phase" ScriptPhase.codec)
        (.cons (.required "error" ScriptError.codec) .nil)).map
        (fun (phase, error, _) => (phase, error)) (fun (phase, error) => (phase, error, ())))
      (fun (phase, error) => script phase error)
      (fun | script phase error => some (phase, error) | _ => none)]

end RequestError

/-- What a result says about its request. -/
structure RequestInfo where
  id : String
  name : String
  method : String
  url : String
  deriving DecidableEq, Repr, Inhabited

namespace RequestInfo

/-- The facts about a saved request. -/
def ofItem (item : RequestItem) : RequestInfo :=
  ⟨item.id, item.name, Text.asciiUpper item.method, item.url⟩

/-- Facts about requests as documents. -/
def record : Record RequestInfo :=
  (Record.cons (.required "id" .string) (.cons (.required "name" .string)
    (.cons (.required "method" .string) (.cons (.required "url" .string) .nil)))).map
    (fun (id, name, method, url, _) => ⟨id, name, method, url⟩)
    (fun i => (i.id, i.name, i.method, i.url, ()))

end RequestInfo

/-- What became of one request of a run. -/
structure RequestResult where
  index : Nat
  info : RequestInfo
  status : RequestStatus
  response : Option Response
  preScript : Option ScriptResult
  postScript : Option ScriptResult
  error : Option RequestError
  durationMs : Float
  deriving Repr, Inhabited

namespace RequestResult

/-- The result of a request nothing was done about. -/
def pending (index : Nat) (info : RequestInfo) : RequestResult :=
  ⟨index, info, .pending, none, none, none, none, 0.0⟩

/-- The result of a request that was skipped. -/
def skipped (index : Nat) (info : RequestInfo) : RequestResult :=
  { pending index info with status := .skipped }

/-- The results of the scripts that ran, in the order they ran. -/
def scripts (r : RequestResult) : List ScriptResult := r.preScript.toList ++ r.postScript.toList

/-- Number of tests that passed. -/
def passedAssertions (r : RequestResult) : Nat :=
  r.scripts.foldl (fun n s => n + s.passedAssertions) 0

/-- Number of tests that failed. -/
def failedAssertions (r : RequestResult) : Nat :=
  r.scripts.foldl (fun n s => n + s.failedAssertions) 0

/-- Whether the request failed, be it by a test or by an error. -/
def isFailure (r : RequestResult) : Bool := r.status == .failed || r.status == .error

/-- Results as documents. -/
def record : Record RequestResult :=
  (Record.cons (.required "index" (.natural 64))
    (.cons (.required "requestInfo" RequestInfo.record.codec)
      (.cons (.required "status" RequestStatus.codec)
        (.cons (.optional "response" Response.record.codec)
          (.cons (.optional "preScriptResult" ScriptResult.record.codec)
            (.cons (.optional "postScriptResult" ScriptResult.record.codec)
              (.cons (.optional "error" RequestError.codec)
                (.cons (.required "durationMs" .double) .nil)))))))).map
    (fun (index, info, status, response, pre, post, error, durationMs, _) =>
      ⟨index, info, status, response, pre, post, error, durationMs⟩)
    (fun r => (r.index, r.info, r.status, r.response, r.preScript, r.postScript, r.error,
      r.durationMs, ()))

end RequestResult

/-- A refused move of a run from one status to another. -/
structure InvalidTransition where
  source : RunStatus
  target : RunStatus
  deriving DecidableEq, Repr

/-- The refusal in words. -/
def InvalidTransition.text (e : InvalidTransition) : String :=
  "cannot move run from " ++ e.source.name ++ " to " ++ e.target.name

/-- The state of one run. -/
structure Session where
  id : String
  collection : String
  folderPath : Option String
  environment : Option String
  status : RunStatus
  config : RunConfig
  results : List RequestResult
  currentIndex : Nat
  totalRequests : Nat
  createdAt : Moment
  startedAt : Option Moment
  finishedAt : Option Moment
  /-- The variables that the scripts of the run work on. -/
  values : Variables

namespace Session

/-! ## Names of sessions -/

/-- Letters and digits that names of sessions are made of. -/
def slugChar (c : Char) : Bool := c.isAlphanum

/-- Lower-case letters and digits, each run of other characters being one hyphen. `slug` is what was
written so far, last character first. -/
def slugFrom (slug : List Char) : List Char → List Char
  | [] => slug
  | c :: rest =>
    if slugChar c then slugFrom (c.toLower :: slug) rest
    else if slug.head? = some '-' then slugFrom slug rest
    else slugFrom ('-' :: slug) rest

/-- A name reduced to lower-case letters, digits and single hyphens between them. -/
def slug (name : String) : String :=
  let backwards := slugFrom [] (Text.trimmed name.toList)
  let cut := ((backwards.dropWhile (· == '-')).reverse).dropWhile (· == '-')
  if cut.isEmpty then "run" else String.ofList cut

/-! ## The state machine -/

/-- A run that has not started. The variables are those of the environment. -/
def new (collection : String) (folderPath : Option String) (environment : Option Environment)
    (config : RunConfig) (now : Moment) : Session where
  id := slug collection ++ "-" ++ now.stamp
  collection := collection
  folderPath := folderPath
  environment := environment.map Environment.name
  status := .pending
  config := config
  results := []
  currentIndex := 0
  totalRequests := 0
  createdAt := now
  startedAt := none
  finishedAt := none
  values := (environment.map Environment.values).getD .empty

/-- Move to a status from one of those allowed. -/
def transition (s : Session) (target : RunStatus) (allowed : List RunStatus) :
    Except InvalidTransition Session :=
  if allowed.contains s.status then .ok { s with status := target }
  else .error ⟨s.status, target⟩

/-- Begin a run of a number of requests. -/
def start (s : Session) (total : Nat) (now : Moment) : Except InvalidTransition Session :=
  (s.transition .running [.pending]).map fun s =>
    { s with totalRequests := total, startedAt := some now }

/-- End a run. -/
def finish (s : Session) (target : RunStatus) (allowed : List RunStatus) (now : Moment) :
    Except InvalidTransition Session :=
  (s.transition target allowed).map fun s => { s with finishedAt := some now }

/-- End a run that went through. -/
def complete (s : Session) (now : Moment) : Except InvalidTransition Session :=
  s.finish .completed [.running] now

/-- End a run that was canceled. -/
def cancel (s : Session) (now : Moment) : Except InvalidTransition Session :=
  s.finish .canceled [.pending, .running] now

/-- End a run at a failure. -/
def stop (s : Session) (now : Moment) : Except InvalidTransition Session :=
  s.finish .stopped [.running] now

/-- Add a result. -/
def addResult (s : Session) (r : RequestResult) : Session :=
  { s with results := s.results ++ [r], currentIndex := s.results.length + 1 }

/-- Make the changes of a script to the variables. -/
def applyChanges (s : Session) (log : List Change) : Session :=
  { s with values := s.values.replay log }

end Session

end CollectionRunner
