import CollectionRunner.Http.Expansion
import CollectionRunner.Run.Session
import CollectionRunner.Script.Execution

/-!
# Runs

A `Runner` takes a collection, or one folder of it, through its requests in order: the script before
a request, the request with its placeholders expanded, and the script after its response. A run ends
when there are no more requests, at the first failure if the settings say so, or when it is canceled;
the requests that are left are then skipped.
-/

namespace CollectionRunner

/-- What a run meets. -/
structure Runner where
  scripting : Scripting
  sender : Sender
  /-- Whether the run is found canceled before the request at an index, after what was sent. -/
  canceled : (index : Nat) → (sent : List Request) → Bool
  now : Moment
  seed : UInt64

/-- What runs change together: the global variables, and the requests sent so far. -/
structure Shared where
  globals : Globals
  sent : List Request
  deriving Inhabited

/-! ## One request -/

/-- A script, unless it is blank. -/
def nonBlank (script : Option String) : Option String := script.filter fun s => !Text.isBlank s

/-- What there is when the script before a request ended. -/
structure Prepared where
  script : Option ScriptResult
  /-- The request with its placeholders. -/
  request : Request
  values : Variables
  shared : Shared
  deriving Inhabited

namespace Runner

/-- What is around the scripts of the request at an index. -/
def around (r : Runner) (index : Nat) (phase : ScriptPhase) : Surroundings where
  sender := some r.sender
  now := r.now
  seed := r.seed + UInt64.ofNat (2 * index) + (match phase with
    | .preRequest => 0
    | .postResponse => 1)

/-- Run the script before a request. -/
def prepare (r : Runner) (config : RunConfig) (values : Variables) (index : Nat)
    (item : RequestItem) (shared : Shared) : Prepared :=
  match nonBlank item.preRequestScript with
  | none => ⟨none, item.request, values, shared⟩
  | some script =>
    let after := r.scripting.execute (r.around index .preRequest) config.scriptTimeout script
      ⟨.editable item.request, none, values, shared.globals, shared.sent⟩
    ⟨some after.result, after.request.applyTo item.request,
      values.replay after.result.envChanges, ⟨after.globals, after.sent⟩⟩

/-- Send a request. No answer in time is a failure. -/
def send (r : Runner) (config : RunConfig) (request : Request) (shared : Shared) :
    Except TransportError Response × Shared :=
  let shared' := { shared with sent := shared.sent ++ [request] }
  match r.sender shared.sent request with
  | .response response => (.ok response, shared')
  | .failure e => (.error e, shared')
  | .silence => (.error (.timeout config.requestTimeout.wordMilliseconds), shared')

/-- Run the script after a response. -/
def conclude (r : Runner) (config : RunConfig) (values : Variables) (index : Nat)
    (item : RequestItem) (request : Request) (response : Response) (shared : Shared) :
    Option ScriptResult × Shared :=
  match nonBlank item.postResponseScript with
  | none => (none, shared)
  | some script =>
    let after := r.scripting.execute (r.around index .postResponse) config.scriptTimeout script
      ⟨.readOnly request, some response, values, shared.globals, shared.sent⟩
    (some after.result, ⟨after.globals, after.sent⟩)

end Runner

namespace RequestResult

/-- The result of a request that ended in an error. -/
def withError (r : RequestResult) (e : RequestError) : RequestResult :=
  { r with status := .error, error := some e }

/-- The result of a request that was answered: an error if the last script ended with one, failed if
a test failed, else passed. -/
def judged (r : RequestResult) : RequestResult :=
  match r.postScript.bind (·.error) with
  | some e => r.withError (.script .postResponse e)
  | none => { r with status := if 0 < r.failedAssertions then .failed else .passed }

end RequestResult

namespace Runner

/-- Take one request through its scripts. -/
def execute (r : Runner) (config : RunConfig) (values : Variables) (index : Nat)
    (item : RequestItem) (shared : Shared) : RequestResult × Shared :=
  let p := r.prepare config values index item shared
  let result := { RequestResult.pending index (.ofItem item) with preScript := p.script }
  match p.script.bind (·.error) with
  | some e => (result.withError (.script .preRequest e), p.shared)
  | none =>
    let request := p.request.expand (.visible p.shared.globals.values p.values)
    let result := { result with info := { result.info with url := request.url } }
    match r.send config request p.shared with
    | (.error e, shared) => (result.withError (.transport e), shared)
    | (.ok response, shared) =>
      let (script, shared) := r.conclude config p.values index item request response shared
      ({ result with response := some response, postScript := script }.judged, shared)

end Runner

/-! ## All requests -/

/-- What a run tells while it goes on. -/
inductive RunEvent
  | started (status : RunStatus) (total : Nat)
  | requestStarted (index total : Nat) (item : RequestItem)
  | requestFinished (result : RequestResult)
  deriving Inhabited

/-- How far a run has come. -/
structure Progress where
  session : Session
  shared : Shared
  /-- What the run told, first things first. -/
  events : List RunEvent

namespace Progress

/-- Skip requests, the first of which has an index. -/
def skip (p : Progress) (index : Nat) : List RequestItem → Progress
  | [] => p
  | item :: rest =>
    skip { p with session := p.session.addResult (.skipped index (.ofItem item)) } (index + 1) rest

/-- Tell something. -/
def tell (p : Progress) (e : RunEvent) : Progress := { p with events := p.events ++ [e] }

/-- Add the result of a request; its scripts change the variables. -/
def record (p : Progress) (result : RequestResult) : Progress :=
  let changes (script : Option ScriptResult) := (script.map ScriptResult.envChanges).getD []
  { p with
    session := ((p.session.applyChanges (changes result.preScript)).addResult result).applyChanges
      (changes result.postScript) }

end Progress

/-- Why there was no run. -/
inductive RunError
  | config (e : ConfigError)
  | folderNotFound (path : String)
  | session (e : InvalidTransition)
  deriving DecidableEq, Repr

/-- The reason in words. -/
def RunError.text : RunError → String
  | config e => "invalid run configuration: " ++ e.text
  | folderNotFound path => "folder not found in collection: " ++ path
  | session e => e.text

namespace Runner

/-- Take the request at an index through its scripts and note what became of it. -/
def advance (r : Runner) (index : Nat) (item : RequestItem) (p : Progress) :
    RequestResult × Progress :=
  let p := p.tell (.requestStarted index p.session.totalRequests item)
  let (result, shared) :=
    r.execute p.session.config p.session.values index item p.shared
  (result, ({ p with shared := shared }.tell (.requestFinished result)).record result)

/-- Go on with the requests from an index on, to the end of the run. -/
def proceed (r : Runner) (index : Nat) (items : List RequestItem) (p : Progress) :
    Except InvalidTransition Progress :=
  match items with
  | [] => do return { p with session := ← p.session.complete r.now }
  | item :: rest =>
    if r.canceled index p.shared.sent then do
      return { p with session := ← p.session.cancel r.now }.skip index (item :: rest)
    else
      let (result, p) := r.advance index item p
      if p.session.config.stopOnFailure && result.isFailure then do
        return { p with session := ← p.session.stop r.now }.skip (index + 1) rest
      else r.proceed (index + 1) rest p

/-- The requests of a collection, or of one folder of it. -/
def requests (collection : Collection) (folder : Option String) :
    Except RunError (List RequestItem) :=
  match folder with
  | none => .ok collection.flatten
  | some path =>
    match collection.folder? path with
    | some folder => .ok folder.flatten
    | none => .error (.folderNotFound path)

/-- Run a collection, or one folder of it. -/
def run (r : Runner) (collection : Collection) (folder : Option String)
    (environment : Option Environment) (config : RunConfig) (shared : Shared) :
    Except RunError Progress := do
  config.validate.mapError .config
  let items ← requests collection folder
  let session := Session.new collection.name folder environment config r.now
  let session ← (session.start items.length r.now).mapError .session
  let begun : Progress := ⟨session, shared, [.started session.status session.totalRequests]⟩
  (r.proceed 0 items begun).mapError .session

end Runner

end CollectionRunner
