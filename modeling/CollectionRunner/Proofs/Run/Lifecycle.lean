import CollectionRunner.Proofs.Run.Course

/-!
# The life of a session

A session is pending, then running, and ends in one of three ways; `RunStatus.mayBecome` is the table
of these moves.  Every call on a session is a move of the table, adds a result, or is refused
(`Session.make_eq`), and a call that makes its writes one after the other in place leaves nothing of
them when it is refused (`Session.inPlace_run`).  Main statement: `Session.afterAll_lawful`, for
every sequence of calls on a new session.
-/

namespace CollectionRunner

/-- The moves of the state machine. -/
def RunStatus.mayBecome : RunStatus → RunStatus → Bool
  | pending, running => true
  | pending, canceled => true
  | running, canceled => true
  | running, completed => true
  | running, stopped => true
  | _, _ => false

theorem RunStatus.mayBecome_of_terminal {status : RunStatus} (terminal : status.terminal = true)
    (target : RunStatus) : status.mayBecome target = false := by
  cases status with
  | pending | running => cases terminal
  | completed | canceled | stopped => cases target <;> rfl

theorem RunStatus.not_pending_of_mayBecome {status target : RunStatus}
    (moves : status.mayBecome target = true) : target ≠ .pending := by
  rintro rfl
  cases status <;> cases moves

namespace Session

/-! ## Calls -/

/-- A call that moves a session or adds to it. -/
inductive Call
  | start (total : Nat)
  | complete
  | cancel
  | stop
  | addResult (result : RequestResult)

/-- The status that a call asks for. -/
def Call.target? : Call → Option RunStatus
  | start _ => some .running
  | complete => some .completed
  | cancel => some .canceled
  | stop => some .stopped
  | addResult _ => none

/-- What a call gives at a moment. -/
def make (s : Session) (now : Moment) : Call → Except InvalidTransition Session
  | .start total => s.start total now
  | .complete => s.complete now
  | .cancel => s.cancel now
  | .stop => s.stop now
  | .addResult result => .ok (s.addResult result)

/-- The session after a call; a refused one leaves the caller with what it had. -/
def after (s : Session) (call : Moment × Call) : Session :=
  match s.make call.1 call.2 with
  | .ok s' => s'
  | .error _ => s

def afterAll (s : Session) (calls : List (Moment × Call)) : Session := calls.foldl after s

/-- The session that is started. -/
def begun (s : Session) (total : Nat) (now : Moment) : Session :=
  { s with status := .running, totalRequests := total, startedAt := some now }

/-- The session after a call that is a move of the table, or adds a result. -/
def moved (s : Session) (now : Moment) : Call → Session
  | .start total => s.begun total now
  | .complete => s.ended .completed now
  | .cancel => s.ended .canceled now
  | .stop => s.ended .stopped now
  | .addResult result => s.addResult result

theorem finish_eq (s : Session) (target : RunStatus) (allowed : List RunStatus) (now : Moment) :
    s.finish target allowed now =
      if allowed.contains s.status then .ok (s.ended target now)
      else .error ⟨s.status, target⟩ := by
  unfold finish transition
  split <;> rfl

/-- A call that asks for a status is accepted if the table has the move, and refused otherwise. -/
theorem make_eq (s : Session) (now : Moment) {c : Call} {target : RunStatus}
    (asks : c.target? = some target) :
    s.make now c =
      if s.status.mayBecome target then .ok (s.moved now c) else .error ⟨s.status, target⟩ := by
  cases c with
  | start total =>
    cases asks
    unfold make start transition
    cases status : s.status <;> rfl
  | complete =>
    cases asks
    rw [make, complete, finish_eq]
    cases status : s.status <;> rfl
  | cancel =>
    cases asks
    rw [make, cancel, finish_eq]
    cases status : s.status <;> rfl
  | stop =>
    cases asks
    rw [make, stop, finish_eq]
    cases status : s.status <;> rfl
  | addResult result => cases asks

/-- What can come of a call: the session is started or ended, a result is added, or the call is
refused. -/
inductive Outcome (s : Session) (now : Moment) : Call → Session → Prop
  | started {total : Nat} : s.status = .pending → Outcome s now (.start total) (s.begun total now)
  | ended {c : Call} {target : RunStatus} : c.target? = some target → target.terminal = true →
    s.status.mayBecome target = true → Outcome s now c (s.ended target now)
  | added {result : RequestResult} : Outcome s now (.addResult result) (s.addResult result)
  | refused {c : Call} {target : RunStatus} : c.target? = some target →
    s.status.mayBecome target = false → Outcome s now c s

theorem after_of_mayBecome {s : Session} {now : Moment} {c : Call} {target : RunStatus}
    (asks : c.target? = some target) (moves : s.status.mayBecome target = true) :
    s.after (now, c) = s.moved now c := by
  unfold after
  rw [s.make_eq now asks, if_pos moves]

/-- What comes of a call is one of the outcomes, so whatever all outcomes keep is kept by every
call. -/
theorem outcome (s : Session) (now : Moment) (c : Call) :
    Outcome s now c (s.after (now, c)) := by
  cases asks : c.target? with
  | none =>
    cases c with
    | addResult result => exact .added
    | start | complete | cancel | stop => cases asks
  | some target =>
    cases moves : s.status.mayBecome target with
    | false =>
      have same : s.after (now, c) = s := by
        unfold after
        rw [s.make_eq now asks, moves]
        rfl
      rw [same]
      exact .refused asks moves
    | true =>
      rw [after_of_mayBecome asks moves]
      cases c with
      | start total =>
        cases asks
        refine .started ?_
        cases status : s.status <;> rw [status] at moves <;> first | rfl | cases moves
      | complete | cancel | stop =>
        cases asks
        exact .ended rfl rfl moves
      | addResult result => cases asks

theorem status_moved (s : Session) (now : Moment) {c : Call} {target : RunStatus}
    (asks : c.target? = some target) : (s.moved now c).status = target := by
  cases c with
  | start | complete | cancel | stop =>
    cases asks
    rfl
  | addResult result => cases asks

/-! ## Calls in place -/

/-- Move to a status in place, from one of those allowed. -/
def moveTo (target : RunStatus) (allowed : List RunStatus) :
    EStateM InvalidTransition Session Unit := do
  let s ← get
  if allowed.contains s.status then set { s with status := target }
  else throw ⟨s.status, target⟩

/-- A call in place, one write after the other; what was written before a refusal would stay. -/
def inPlace (now : Moment) : Call → EStateM InvalidTransition Session Unit
  | .start total => do
    moveTo .running [.pending]
    modify fun s => { s with totalRequests := total }
    modify fun s => { s with startedAt := some now }
  | .complete => do
    moveTo .completed [.running]
    modify fun s => { s with finishedAt := some now }
  | .cancel => do
    moveTo .canceled [.pending, .running]
    modify fun s => { s with finishedAt := some now }
  | .stop => do
    moveTo .stopped [.running]
    modify fun s => { s with finishedAt := some now }
  | .addResult result => do
    modify fun s => { s with results := s.results ++ [result] }
    modify fun s => { s with currentIndex := s.results.length }

/-- A call in place ends with what the call gives, or is refused with nothing written. -/
theorem inPlace_run (s : Session) (now : Moment) (c : Call) :
    (inPlace now c).run s =
      match s.make now c with
      | .ok s' => .ok () s'
      | .error e => .error e s := by
  obtain ⟨_, _, _, _, status, _, results, _⟩ := s
  cases c with
  | start total => cases status <;> rfl
  | complete => cases status <;> rfl
  | cancel => cases status <;> rfl
  | stop => cases status <;> rfl
  | addResult result =>
    have counted : (results ++ [result]).length = results.length + 1 := List.length_append
    unfold make addResult
    rw [← counted]
    rfl

/-! ## Sequences of calls -/

theorem afterAll_append (s : Session) (front back : List (Moment × Call)) :
    s.afterAll (front ++ back) = (s.afterAll front).afterAll back :=
  List.foldl_append

theorem afterAll_concat (s : Session) (calls : List (Moment × Call)) (call : Moment × Call) :
    s.afterAll (calls ++ [call]) = (s.afterAll calls).after call :=
  s.afterAll_append calls [call]

/-- One of the calls on a session started it, at a moment and for a number of requests. -/
def StartedBy (s : Session) (calls : List (Moment × Call)) (now : Moment) (total : Nat) : Prop :=
  ∃ front back, calls = front ++ (now, .start total) :: back ∧
    ∃ s', (s.afterAll front).start total now = .ok s'

/-- The results that calls add. -/
def addedBy (calls : List (Moment × Call)) : List RequestResult :=
  calls.filterMap fun
    | (_, .addResult result) => some result
    | _ => none

/-- What calls never touch. -/
structure Keeps (s s' : Session) : Prop where
  id : s'.id = s.id
  collection : s'.collection = s.collection
  folderPath : s'.folderPath = s.folderPath
  environment : s'.environment = s.environment
  config : s'.config = s.config
  createdAt : s'.createdAt = s.createdAt
  values : s'.values = s.values

theorem Keeps.refl (s : Session) : Keeps s s := ⟨rfl, rfl, rfl, rfl, rfl, rfl, rfl⟩

theorem Keeps.after {fresh s : Session} (keeps : Keeps fresh s) (now : Moment) (c : Call) :
    Keeps fresh (s.after (now, c)) := by
  obtain ⟨id, collection, folderPath, environment, config, createdAt, values⟩ := keeps
  have outcome := s.outcome now c
  generalize s.after (now, c) = s' at outcome
  cases outcome with
  | started | ended | added | refused =>
    exact ⟨id, collection, folderPath, environment, config, createdAt, values⟩

theorem Keeps.afterAll (s : Session) (calls : List (Moment × Call)) :
    Keeps s (s.afterAll calls) := by
  induction calls using List.reverseRecOn with
  | nil => exact .refl s
  | append_singleton calls call ih =>
    rw [afterAll_concat]
    exact ih.after call.1 call.2

/-- The times and counts of a session fit its status. -/
structure Sound (s : Session) : Prop where
  finished : s.finishedAt.isSome = s.status.terminal
  currentIndex : s.currentIndex = s.results.length

/-- A call leaves the times and counts as the status says: only a call that ends the session dates
its end, and only a result moves its index. -/
theorem Sound.after {s : Session} (sound : s.Sound) (now : Moment) (c : Call) :
    (s.after (now, c)).Sound := by
  obtain ⟨finished, currentIndex⟩ := sound
  have outcome := s.outcome now c
  generalize s.after (now, c) = s' at outcome
  cases outcome with
  | started pending =>
    rw [pending] at finished
    exact ⟨finished, currentIndex⟩
  | ended _ terminal => exact ⟨terminal.symm, currentIndex⟩
  | @added result =>
    have grown : (s.results ++ [result]).length = s.results.length + 1 := List.length_append
    exact ⟨finished, grown.symm⟩
  | refused => exact ⟨finished, currentIndex⟩

theorem Sound.afterAll {s : Session} (sound : s.Sound) (calls : List (Moment × Call)) :
    (s.afterAll calls).Sound := by
  induction calls using List.reverseRecOn with
  | nil => exact sound
  | append_singleton calls call ih =>
    rw [afterAll_concat]
    exact ih.after call.1 call.2

/-- Only a call that adds a result changes the results. -/
theorem results_after (s : Session) (now : Moment) (c : Call) :
    (s.after (now, c)).results = s.results ++ addedBy [(now, c)] := by
  have outcome := s.outcome now c
  generalize s.after (now, c) = s' at outcome
  cases outcome with
  | started => exact (List.append_nil _).symm
  | ended asks | refused asks =>
    cases c with
    | start | complete | cancel | stop => exact (List.append_nil _).symm
    | addResult => cases asks
  | added => rfl

theorem results_afterAll (s : Session) (calls : List (Moment × Call)) :
    (s.afterAll calls).results = s.results ++ addedBy calls := by
  induction calls using List.reverseRecOn with
  | nil => exact (List.append_nil _).symm
  | append_singleton calls call ih =>
    rw [afterAll_concat, results_after, ih, List.append_assoc]
    unfold addedBy
    rw [List.filterMap_append]

/-- A session that is no longer pending keeps what its start wrote. -/
theorem startedAt_after {s : Session} (begun : s.status ≠ .pending) (now : Moment) (c : Call) :
    (s.after (now, c)).status ≠ .pending ∧ (s.after (now, c)).startedAt = s.startedAt ∧
      (s.after (now, c)).totalRequests = s.totalRequests := by
  have outcome := s.outcome now c
  generalize s.after (now, c) = s' at outcome
  cases outcome with
  | started pending => exact absurd pending begun
  | ended _ _ moves => exact ⟨RunStatus.not_pending_of_mayBecome moves, rfl, rfl⟩
  | added | refused => exact ⟨begun, rfl, rfl⟩

/-- Once a session has begun, no call changes the time of its start or its total. -/
theorem startedAt_afterAll {s : Session} (begun : s.status ≠ .pending)
    (calls : List (Moment × Call)) :
    (s.afterAll calls).startedAt = s.startedAt ∧
      (s.afterAll calls).totalRequests = s.totalRequests := by
  induction calls generalizing s with
  | nil => exact ⟨rfl, rfl⟩
  | cons call rest ih =>
    obtain ⟨still, startedAt, total⟩ := startedAt_after begun call.1 call.2
    obtain ⟨startedAt', total'⟩ := ih still
    exact ⟨startedAt'.trans startedAt, total'.trans total⟩

/-- A session is started exactly when it waits, whatever the total and the moment. -/
theorem start_eq_ok_iff {s s' : Session} {total : Nat} {now : Moment} :
    s.start total now = .ok s' ↔ s.status = .pending ∧ s' = s.begun total now := by
  constructor
  · intro accepted
    unfold start transition at accepted
    cases status : s.status with
    | pending =>
      rw [status] at accepted
      cases accepted
      exact ⟨rfl, rfl⟩
    | running | completed | canceled | stopped =>
      rw [status] at accepted
      cases accepted
  · rintro ⟨pending, rfl⟩
    unfold start transition
    rw [pending]
    rfl

/-- A session has the time and the total of the call that started it, as later calls change
neither. -/
theorem StartedBy.eq {s : Session} {calls : List (Moment × Call)} {now : Moment} {total : Nat}
    (started : s.StartedBy calls now total) :
    (s.afterAll calls).startedAt = some now ∧ (s.afterAll calls).totalRequests = total := by
  obtain ⟨front, back, rfl, s', accepted⟩ := started
  obtain ⟨-, rfl⟩ := start_eq_ok_iff.mp accepted
  have made : (s.afterAll front).after (now, .start total) =
      (s.afterAll front).begun total now := by
    have asked : (s.afterAll front).make now (.start total) = _ := accepted
    unfold after
    rw [asked]
  have running : ((s.afterAll front).begun total now).status ≠ .pending := nofun
  obtain ⟨startedAt, requests⟩ := startedAt_afterAll running back
  rw [afterAll_append]
  change (((s.afterAll front).after (now, .start total)).afterAll back).startedAt = _ ∧
    (((s.afterAll front).after (now, .start total)).afterAll back).totalRequests = _
  rw [made, startedAt, requests]
  exact ⟨rfl, rfl⟩

/-- A session that no call started has the time and the total that it began with. -/
theorem startedAt_of_not_startedBy {s : Session} {calls : List (Moment × Call)}
    (never : ∀ now total, ¬ s.StartedBy calls now total) :
    (s.afterAll calls).startedAt = s.startedAt ∧
      (s.afterAll calls).totalRequests = s.totalRequests := by
  induction calls using List.reverseRecOn with
  | nil => exact ⟨rfl, rfl⟩
  | append_singleton calls call ih =>
    obtain ⟨now, c⟩ := call
    have earlier : ∀ now total, ¬ s.StartedBy calls now total := by
      rintro now' total ⟨front, back, rfl, accepted⟩
      refine never now' total ⟨front, back ++ [(now, c)], ?_, accepted⟩
      rw [List.append_assoc, List.cons_append]
    obtain ⟨startedAt, total⟩ := ih earlier
    rw [afterAll_concat, ← startedAt, ← total]
    have outcome := (s.afterAll calls).outcome now c
    generalize made : (s.afterAll calls).after (now, c) = s' at outcome
    cases outcome with
    | @started total pending =>
      have accepted : (s.afterAll calls).start total now = .ok _ :=
        start_eq_ok_iff.mpr ⟨pending, rfl⟩
      exact absurd ⟨calls, [], rfl, _, accepted⟩ (never now total)
    | ended | added | refused => exact ⟨rfl, rfl⟩

/-! ## The state machine -/

/-- A session that calls were made on is one that the state machine allows, and so is every call that
comes next. -/
structure Lawful (fresh : Session) (calls : List (Moment × Call)) (s : Session) : Prop where
  accepted : ∀ (now : Moment) (c : Call) (target : RunStatus), c.target? = some target →
    s.status.mayBecome target = true → s.make now c = .ok (s.moved now c) ∧
      (inPlace now c).run s = .ok () (s.moved now c) ∧ (s.moved now c).status = target
  refused : ∀ (now : Moment) (c : Call) (target : RunStatus), c.target? = some target →
    s.status.mayBecome target = false → s.make now c = .error ⟨s.status, target⟩ ∧
      (inPlace now c).run s = .error ⟨s.status, target⟩ s
  added : ∀ (now : Moment) (result : RequestResult),
    s.make now (.addResult result) = .ok (s.addResult result) ∧
      (inPlace now (.addResult result)).run s = .ok () (s.addResult result) ∧
      (s.addResult result).status = s.status
  terminal : s.status.terminal = true → ∀ target, s.status.mayBecome target = false
  finished : s.finishedAt.isSome ↔ s.status.terminal = true
  started : ∀ now total, fresh.StartedBy calls now total →
    s.startedAt = some now ∧ s.totalRequests = total
  unstarted : (∀ now total, ¬ fresh.StartedBy calls now total) →
    s.startedAt = none ∧ s.totalRequests = 0
  results : s.results = addedBy calls
  grows : ∀ front back, calls = front ++ back → (fresh.afterAll front).results <+: s.results
  currentIndex : s.currentIndex = s.results.length
  keeps : Keeps fresh s

/-- Whatever calls were made on a new session, in any order and each accepted or refused, the
state machine allows where it is, and what comes next is accepted or refused by the table of moves
alone. -/
theorem afterAll_lawful (collection : String) (folderPath : Option String)
    (environment : Option Environment) (config : RunConfig) (created : Moment)
    (calls : List (Moment × Call)) :
    let fresh := new collection folderPath environment config created
    Lawful fresh calls (fresh.afterAll calls) := by
  intro fresh
  have sound : (fresh.afterAll calls).Sound := .afterAll ⟨rfl, rfl⟩ calls
  refine {
    accepted := fun now c target asks moves => ?accepted
    refused := fun now c target asks stays => ?refused
    added := fun now result => ⟨rfl, inPlace_run _ now (.addResult result), rfl⟩
    terminal := RunStatus.mayBecome_of_terminal
    finished := ?finished
    started := fun now total started => started.eq
    unstarted := startedAt_of_not_startedBy
    results := fresh.results_afterAll calls
    grows := ?grows
    currentIndex := sound.currentIndex
    keeps := .afterAll fresh calls }
  case accepted =>
    have made := (fresh.afterAll calls).make_eq now asks
    rw [if_pos moves] at made
    refine ⟨made, ?_, status_moved _ now asks⟩
    rw [inPlace_run, made]
  case refused =>
    have made := (fresh.afterAll calls).make_eq now asks
    rw [stays] at made
    refine ⟨made, ?_⟩
    rw [inPlace_run, made]
    rfl
  case finished => rw [sound.finished]
  case grows =>
    rintro front back rfl
    rw [afterAll_append, results_afterAll _ back]
    exact List.prefix_append _ _

end Session

end CollectionRunner
