import CollectionRunner.Proofs.Run.Course

/-!
# Refused runs

A run is refused for its settings, or for a folder that is not there, and for nothing else.  Main
statement: `Runner.run_guarded`.  As `Runner.run` says nothing about what a run without a session
leaves behind, the same run is written out once more in place (`Runner.runIn`): each of its writes to
the shared variables, to the observer and to the list of scripts that ran stays written when an error
comes after it.  `Runner.proceedIn_run` shows that it is the same run, by an induction that the status
of the session carries: it is running at every request, so that the one move that ends it is allowed.
-/

namespace CollectionRunner

/-- Why there is no run: the settings are looked at before the folder. -/
inductive Refused (collection : Collection) (folder : Option String) (config : RunConfig) :
    RunError → Prop
  | config {e : ConfigError} : config.validate = .error e →
    Refused collection folder config (.config e)
  | folderNotFound {path : String} : config.validate = .ok () → folder = some path →
    collection.folder? path = none → Refused collection folder config (.folderNotFound path)

/-! ## Runs in place -/

/-- What a run writes to besides its session. -/
structure World where
  shared : Shared
  /-- The calls on the observer. -/
  events : List RunEvent
  /-- What became of the scripts that ran. -/
  scripts : List ScriptResult

/-- Something done in place: what was written before an error stays. -/
abbrev Action := EStateM RunError World

/-- The world at a progress of a run. -/
def Progress.world (p : Progress) : World :=
  ⟨p.shared, p.events, p.session.results.flatMap RequestResult.scripts⟩

/-- The progress of a session in a world. -/
def World.progress (w : World) (s : Session) : Progress := ⟨s, w.shared, w.events⟩

/-- Call the observer. -/
def tellIn (e : RunEvent) : Action Unit := modify fun w => { w with events := w.events ++ [e] }

/-- A move of the session in place. -/
def moveIn (moved : Except InvalidTransition Session) : Action Session :=
  ofExcept (moved.mapError .session)

namespace Runner

/-- Take a request through its scripts in place. -/
def executeIn (r : Runner) (index : Nat) (item : RequestItem) (s : Session) :
    Action RequestResult := do
  let w ← get
  let (result, shared) := r.execute s.config s.values index item w.shared
  set { w with shared := shared, scripts := w.scripts ++ result.scripts }
  return result

/-- Take the request at an index through its scripts and note what became of it, in place. -/
def advanceIn (r : Runner) (index : Nat) (item : RequestItem) (s : Session) :
    Action (RequestResult × Session) := do
  tellIn (.requestStarted index s.totalRequests item)
  let result ← r.executeIn index item s
  tellIn (.requestFinished result)
  return (result, (((← get).progress s).record result).session)

/-- Move the session to its end and skip the requests from an index on, in place. -/
def haltIn (moved : Except InvalidTransition Session) (index : Nat) (left : List RequestItem) :
    Action Session := do
  let s ← moveIn moved
  return (((← get).progress s).skip index left).session

/-- Go on with the requests from an index on, in place. -/
def proceedIn (r : Runner) (index : Nat) (items : List RequestItem) (s : Session) :
    Action Session :=
  match items with
  | [] => moveIn (s.complete r.now)
  | item :: rest => do
    if r.canceled index (← get).shared.sent then haltIn (s.cancel r.now) index (item :: rest)
    else
      let (result, s) ← r.advanceIn index item s
      if s.config.stopOnFailure && result.isFailure then haltIn (s.stop r.now) (index + 1) rest
      else r.proceedIn (index + 1) rest s

/-- Run a collection, or one folder of it, in place. -/
def runIn (r : Runner) (collection : Collection) (folder : Option String)
    (environment : Option Environment) (config : RunConfig) : Action Session := do
  ofExcept (config.validate.mapError .config)
  let items ← ofExcept (requests collection folder)
  let session := Session.new collection.name folder environment config r.now
  let session ← moveIn (session.start items.length r.now)
  tellIn (.started session.status session.totalRequests)
  r.proceedIn 0 items session

end Runner

/-! ## The same run -/

/-- Requests that are skipped do nothing to the world. -/
theorem Progress.world_skip (p : Progress) (index : Nat) (items : List RequestItem) :
    (p.skip index items).world = p.world := by
  have none_ran : (items.mapIdx fun i item =>
      RequestResult.skipped (index + i) (.ofItem item)).flatMap RequestResult.scripts = [] := by
    rw [List.flatMap_eq_nil_iff]
    intro result member
    obtain ⟨i, there, rfl⟩ := List.mem_mapIdx.mp member
    rfl
  unfold world
  rw [skip_shared, skip_events, skip_results, List.flatMap_append, none_ran, List.append_nil]

theorem moveIn_run {moved : Except InvalidTransition Session} {s : Session}
    (allowed : moved = .ok s) (w : World) : (moveIn moved).run w = .ok s w := by
  rw [allowed]
  rfl

namespace Runner

variable {r : Runner}

/-- A request that is taken in place leaves the world as the progress after it has it. -/
theorem advanceIn_run (r : Runner) (index : Nat) (item : RequestItem) (p : Progress) :
    (r.advanceIn index item p.session).run p.world =
      .ok ((r.advance index item p).1, (r.advance index item p).2.session)
        (r.advance index item p).2.world := by
  have ran : (r.advance index item p).2.session.results.flatMap RequestResult.scripts =
      p.session.results.flatMap RequestResult.scripts ++
        (r.advance index item p).1.scripts := by
    rw [advance_results, List.flatMap_append, List.flatMap_singleton]
  unfold Progress.world
  rw [ran]
  rfl

theorem haltIn_run {moved : Except InvalidTransition Session} {p : Progress} {status : RunStatus}
    {now : Moment} (allowed : moved = .ok (p.session.ended status now)) (index : Nat)
    (left : List RequestItem) :
    (haltIn moved index left).run p.world =
      .ok ((p.ended status now).skip index left).session
        ((p.ended status now).skip index left).world := by
  unfold haltIn
  rw [EStateM.run_bind, moveIn_run allowed, Progress.world_skip]
  rfl

theorem proceedIn_of_canceled {index : Nat} {item : RequestItem} {rest : List RequestItem}
    {p : Progress} (canceled : r.canceled index p.shared.sent = true) :
    (r.proceedIn index (item :: rest) p.session).run p.world =
      (haltIn (p.session.cancel r.now) index (item :: rest)).run p.world := by
  have here : r.canceled index p.world.shared.sent = true := canceled
  rw [proceedIn, EStateM.run_bind, EStateM.run_get]
  simp only [here, ↓reduceIte]

/-- In place as well, a run goes on after a request unless the request failed and failures stop
it. -/
theorem proceedIn_of_advance {index : Nat} {item : RequestItem} {rest : List RequestItem}
    {p : Progress} (notCanceled : r.canceled index p.shared.sent = false) :
    (r.proceedIn index (item :: rest) p.session).run p.world =
      (if p.session.config.stopOnFailure && (r.advance index item p).1.isFailure then
        haltIn ((r.advance index item p).2.session.stop r.now) (index + 1) rest
      else r.proceedIn (index + 1) rest (r.advance index item p).2.session).run
        (r.advance index item p).2.world := by
  have here : r.canceled index p.world.shared.sent = false := notCanceled
  rw [proceedIn, EStateM.run_bind, EStateM.run_get]
  simp only [here, Bool.false_eq_true, ↓reduceIte]
  rw [EStateM.run_bind, r.advanceIn_run index item p]
  rfl

/-- In place a run that is going on comes to the end that it comes to, and no move of its session is
refused. -/
theorem proceedIn_run (r : Runner) (index : Nat) (items : List RequestItem) {p : Progress}
    (running : p.session.status = .running) :
    ∃ q, r.proceed index items p = .ok q ∧
      (r.proceedIn index items p.session).run p.world = .ok q.session q.world := by
  induction items generalizing index p with
  | nil =>
    have completed : p.session.complete r.now = .ok (p.session.ended .completed r.now) :=
      Session.finish_eq_ended r.now (by simp [running])
    exact ⟨_, proceed_nil running, moveIn_run completed p.world⟩
  | cons item rest ih =>
    cases canceled : r.canceled index p.shared.sent with
    | true =>
      have moved : p.session.cancel r.now = .ok (p.session.ended .canceled r.now) :=
        Session.finish_eq_ended r.now (by simp [running])
      have inPlace := haltIn_run moved index (item :: rest)
      rw [← proceedIn_of_canceled canceled] at inPlace
      exact ⟨_, proceed_canceled running canceled, inPlace⟩
    | false =>
      have inPlace : (r.proceedIn index (item :: rest) p.session).run p.world = _ :=
        proceedIn_of_advance canceled
      cases failing : p.session.config.stopOnFailure && (r.advance index item p).1.isFailure with
      | true =>
        obtain ⟨stops, failure⟩ := Bool.and_eq_true_iff.mp failing
        have moved : (r.advance index item p).2.session.stop r.now =
            .ok ((r.advance index item p).2.session.ended .stopped r.now) :=
          Session.finish_eq_ended r.now (by simp [running])
        rw [if_pos failing, haltIn_run moved] at inPlace
        exact ⟨_, proceed_stopped running canceled stops failure, inPlace⟩
      | false =>
        have undisturbed : r.Undisturbed index [item] p := ⟨⟨canceled, failing⟩, trivial⟩
        have goesOn : r.proceed index (item :: rest) p = _ := proceed_append undisturbed rest
        obtain ⟨q, proceeds, later⟩ :=
          ih (index + 1) (p := (r.advance index item p).2) running
        rw [failing, if_neg Bool.false_ne_true, later] at inPlace
        exact ⟨q, goesOn.trans proceeds, inPlace⟩

/-! ## Refusals -/

variable {collection : Collection} {folder : Option String} {config : RunConfig}

/-- A refused run ends before anything is written. -/
theorem run_of_refused (r : Runner) {e : RunError} (refused : Refused collection folder config e)
    (environment : Option Environment) :
    (∀ shared, r.run collection folder environment config shared = .error e) ∧
      ∀ w, (r.runIn collection folder environment config).run w = .error e w := by
  cases refused with
  | config invalid =>
    unfold run runIn
    rw [invalid]
    exact ⟨fun _ => rfl, fun _ => rfl⟩
  | @folderNotFound path valid named missing =>
    have unfound : requests collection folder = .error (.folderNotFound path) := by
      unfold requests
      rw [named]
      simp only [missing]
    unfold run runIn
    rw [valid, unfound]
    exact ⟨fun _ => rfl, fun _ => rfl⟩

/-- A run that is not refused comes to its end, and comes to the same end in place. -/
theorem run_of_not_refused (r : Runner) (accepted : ∀ e, ¬ Refused collection folder config e)
    (environment : Option Environment) (shared : Shared) :
    ∃ p, r.run collection folder environment config shared = .ok p ∧
      (r.runIn collection folder environment config).run ⟨shared, [], []⟩ =
        .ok p.session p.world := by
  have valid : config.validate = .ok () := by
    cases validated : config.validate with
    | ok => rfl
    | error e => exact absurd (.config validated) (accepted (.config e))
  obtain ⟨items, found⟩ : ∃ items, requests collection folder = .ok items := by
    cases folder with
    | none => exact ⟨_, rfl⟩
    | some path =>
      cases there : collection.folder? path with
      | some found =>
        refine ⟨found.flatten, ?_⟩
        unfold requests
        simp only [there]
      | none => exact absurd (.folderNotFound valid rfl there) (accepted (.folderNotFound path))
  obtain ⟨q, proceeds, inPlace⟩ := r.proceedIn_run 0 items
    (p := r.opening collection folder environment config shared items) rfl
  refine ⟨q, ?_, ?_⟩
  · rw [run_eq_proceed valid found, proceeds]
    rfl
  · unfold runIn
    rw [valid, found]
    exact inPlace

end Runner

/-- When a run is refused, and what a refused run leaves. -/
structure Runner.Guarded (r : Runner) (collection : Collection) (folder : Option String)
    (environment : Option Environment) (config : RunConfig) : Prop where
  refused_iff : ∀ shared e, r.run collection folder environment config shared = .error e ↔
    Refused collection folder config e
  noTransition : ∀ shared e, r.run collection folder environment config shared ≠
    .error (.session e)
  /-- The shared variables, the requests sent, the calls on the observer and the scripts that ran stay
  what they were. -/
  untouched : ∀ e, Refused collection folder config e → ∀ w,
    (r.runIn collection folder environment config).run w = .error e w
  /-- The run in place is the run. -/
  same : (∀ e, ¬ Refused collection folder config e) → ∀ shared, ∃ p,
    r.run collection folder environment config shared = .ok p ∧
      (r.runIn collection folder environment config).run ⟨shared, [], []⟩ = .ok p.session p.world

/-- Whatever scripts, sender and cancellation do, a run is refused for its settings or for its folder
and for nothing else, and a refused run does nothing. -/
theorem Runner.run_guarded (r : Runner) (collection : Collection) (folder : Option String)
    (environment : Option Environment) (config : RunConfig) :
    r.Guarded collection folder environment config := by
  have refused_iff : ∀ shared e, r.run collection folder environment config shared = .error e ↔
      Refused collection folder config e := by
    intro shared e
    constructor
    · intro failed
      by_cases accepted : ∀ e, ¬ Refused collection folder config e
      · obtain ⟨p, ran, -⟩ := r.run_of_not_refused accepted environment shared
        cases failed.symm.trans ran
      · push Not at accepted
        obtain ⟨e', refused⟩ := accepted
        have ended := (r.run_of_refused refused environment).1 shared
        cases failed.symm.trans ended
        exact refused
    · intro refused
      exact (r.run_of_refused refused environment).1 shared
  exact {
    refused_iff := refused_iff
    noTransition := by
      intro shared e failed
      cases (refused_iff shared _).mp failed
    untouched := fun e refused => (r.run_of_refused refused environment).2
    same := fun accepted => r.run_of_not_refused accepted environment }

end CollectionRunner
