import CollectionRunner.Run.Runner
import Mathlib.Data.List.Induction

/-!
# The course of a run

A run takes its requests one after the other until it is over.  `Runner.through` is the part in
which nothing ends it, so the progress of a run before the request at index `n` is `through` of the
first `n` requests.  `Runner.Halts` lists the three ways in which a run is over, with the requests
it took and those it left, and `Runner.run_eq_halted` says that every run that begins is over in one
of them: what it took is `through`, what it left is skipped.  Everything about whole runs is read off
this theorem and off what one request does (`Runner.advance`).
-/

namespace CollectionRunner

/-! ## Ends of sessions -/

/-- The session at its end. -/
def Session.ended (s : Session) (status : RunStatus) (now : Moment) : Session :=
  { s with status := status, finishedAt := some now }

theorem Session.finish_eq_ended {s : Session} {target : RunStatus} {allowed : List RunStatus}
    (now : Moment) (member : s.status ∈ allowed) :
    s.finish target allowed now = .ok (s.ended target now) := by
  have listed : allowed.contains s.status = true := List.contains_iff_mem.mpr member
  unfold finish transition
  rw [if_pos listed]
  rfl

/-- The progress with its session at its end. -/
def Progress.ended (p : Progress) (status : RunStatus) (now : Moment) : Progress :=
  { p with session := p.session.ended status now }

/-! ## Skipped requests -/

@[simp]
theorem Progress.skip_shared (p : Progress) (index : Nat) (items : List RequestItem) :
    (p.skip index items).shared = p.shared := by
  induction items generalizing p index with
  | nil => rfl
  | cons item rest ih => exact ih _ _

@[simp]
theorem Progress.skip_events (p : Progress) (index : Nat) (items : List RequestItem) :
    (p.skip index items).events = p.events := by
  induction items generalizing p index with
  | nil => rfl
  | cons item rest ih => exact ih _ _

@[simp]
theorem Progress.skip_status (p : Progress) (index : Nat) (items : List RequestItem) :
    (p.skip index items).session.status = p.session.status := by
  induction items generalizing p index with
  | nil => rfl
  | cons item rest ih => exact ih _ _

@[simp]
theorem Progress.skip_values (p : Progress) (index : Nat) (items : List RequestItem) :
    (p.skip index items).session.values = p.session.values := by
  induction items generalizing p index with
  | nil => rfl
  | cons item rest ih => exact ih _ _

@[simp]
theorem Progress.skip_config (p : Progress) (index : Nat) (items : List RequestItem) :
    (p.skip index items).session.config = p.session.config := by
  induction items generalizing p index with
  | nil => rfl
  | cons item rest ih => exact ih _ _

@[simp]
theorem Progress.skip_totalRequests (p : Progress) (index : Nat) (items : List RequestItem) :
    (p.skip index items).session.totalRequests = p.session.totalRequests := by
  induction items generalizing p index with
  | nil => rfl
  | cons item rest ih => exact ih _ _

theorem Progress.skip_results (p : Progress) (index : Nat) (items : List RequestItem) :
    (p.skip index items).session.results = p.session.results ++
      items.mapIdx fun i item => RequestResult.skipped (index + i) (.ofItem item) := by
  induction items generalizing p index with
  | nil => simp [skip]
  | cons item rest ih =>
    have shift : ∀ i, index + 1 + i = index + (i + 1) := fun i => by omega
    rw [skip, ih, List.mapIdx_cons]
    simp only [Session.addResult, shift, List.append_assoc, List.singleton_append, Nat.add_zero]

/-- The index of a session stays the number of its results. -/
theorem Progress.skip_currentIndex {p : Progress}
    (counted : p.session.currentIndex = p.session.results.length) (index : Nat)
    (items : List RequestItem) :
    (p.skip index items).session.currentIndex = (p.skip index items).session.results.length := by
  induction items generalizing p index with
  | nil => exact counted
  | cons item rest ih =>
    refine ih ?_ (index + 1)
    simp [Session.addResult]

namespace Runner

variable {r : Runner}

/-! ## One request -/

theorem advance_result (index : Nat) (item : RequestItem) (p : Progress) :
    (r.advance index item p).1 =
      (r.execute p.session.config p.session.values index item p.shared).1 := rfl

theorem advance_shared (index : Nat) (item : RequestItem) (p : Progress) :
    (r.advance index item p).2.shared =
      (r.execute p.session.config p.session.values index item p.shared).2 := rfl

@[simp]
theorem advance_results (index : Nat) (item : RequestItem) (p : Progress) :
    (r.advance index item p).2.session.results =
      p.session.results ++ [(r.advance index item p).1] := rfl

theorem mem_advance_results {index : Nat} {item : RequestItem} {p : Progress}
    {result : RequestResult} : result ∈ (r.advance index item p).2.session.results ↔
      result ∈ p.session.results ∨ result = (r.advance index item p).1 := by
  rw [advance_results, List.mem_append, List.mem_singleton]

/-- A result is one that was there before or that of the request. -/
theorem getElem?_advance_results {n i : Nat} {item : RequestItem} {p : Progress}
    {result : RequestResult} (length : p.session.results.length = n)
    (found : (r.advance n item p).2.session.results[i]? = some result) :
    i < n ∧ p.session.results[i]? = some result ∨ i = n ∧ result = (r.advance n item p).1 := by
  rw [advance_results] at found
  rcases Nat.lt_trichotomy i n with before | rfl | after
  · rw [List.getElem?_append_left (by omega)] at found
    exact .inl ⟨before, found⟩
  · rw [List.getElem?_append_right (by omega), length, Nat.sub_self] at found
    cases found
    exact .inr ⟨rfl, rfl⟩
  · rw [List.getElem?_eq_none (by simp [length]; omega)] at found
    cases found

@[simp]
theorem advance_config (index : Nat) (item : RequestItem) (p : Progress) :
    (r.advance index item p).2.session.config = p.session.config := rfl

@[simp]
theorem advance_status (index : Nat) (item : RequestItem) (p : Progress) :
    (r.advance index item p).2.session.status = p.session.status := rfl

@[simp]
theorem advance_totalRequests (index : Nat) (item : RequestItem) (p : Progress) :
    (r.advance index item p).2.session.totalRequests = p.session.totalRequests := rfl

theorem advance_currentIndex (index : Nat) (item : RequestItem) (p : Progress) :
    (r.advance index item p).2.session.currentIndex = p.session.results.length + 1 := rfl

theorem advance_events (index : Nat) (item : RequestItem) (p : Progress) :
    (r.advance index item p).2.events = p.events ++
      [.requestStarted index p.session.totalRequests item,
        .requestFinished (r.advance index item p).1] :=
  List.append_assoc _ _ _

/-! ## Requests among which nothing ends the run -/

/-- The progress after requests, the first of which has an index, if nothing ends the run among
them. -/
def through (r : Runner) (index : Nat) : List RequestItem → Progress → Progress
  | [], p => p
  | item :: rest, p => r.through (index + 1) rest (r.advance index item p).2

theorem through_append (index : Nat) (front back : List RequestItem) (p : Progress) :
    r.through index (front ++ back) p =
      r.through (index + front.length) back (r.through index front p) := by
  induction front generalizing index p with
  | nil => rfl
  | cons item rest ih =>
    rw [List.cons_append, through, through, ih, List.length_cons, Nat.add_right_comm]
    rfl

theorem through_concat (index : Nat) (front : List RequestItem) (item : RequestItem)
    (p : Progress) :
    r.through index (front ++ [item]) p =
      (r.advance (index + front.length) item (r.through index front p)).2 :=
  through_append index front [item] p

@[simp]
theorem through_length (index : Nat) (items : List RequestItem) (p : Progress) :
    (r.through index items p).session.results.length =
      p.session.results.length + items.length := by
  induction items generalizing index p with
  | nil => rfl
  | cons item rest ih =>
    rw [through, ih, advance_results, List.length_append, List.length_singleton, List.length_cons]
    omega

/-- A run that had no results has one for each request that it took. -/
theorem length_through {items : List RequestItem} {p : Progress}
    (fresh : p.session.results = []) :
    (r.through 0 items p).session.results.length = items.length := by
  rw [through_length, fresh, List.length_nil, Nat.zero_add]

/-- Results stay, and new ones come after them. -/
theorem results_prefix_through (index : Nat) (items : List RequestItem) (p : Progress) :
    p.session.results <+: (r.through index items p).session.results := by
  induction items generalizing index p with
  | nil => exact List.prefix_rfl
  | cons item rest ih =>
    refine List.IsPrefix.trans ?_ (ih (index + 1) (r.advance index item p).2)
    rw [advance_results]
    exact List.prefix_append _ _

/-- What every request keeps holds after any first part of the requests. -/
theorem through_preserves {items : List RequestItem} {P : Nat → Progress → Prop}
    (step : ∀ n item p, items[n]? = some item → p.session.results.length = n → P n p →
      P (n + 1) (r.advance n item p).2)
    {p : Progress} (fresh : p.session.results = []) (start : P 0 p)
    {front back : List RequestItem} (split : items = front ++ back) :
    P front.length (r.through 0 front p) := by
  induction front using List.reverseRecOn generalizing back with
  | nil => exact start
  | append_singleton front item ih =>
    rw [List.append_assoc] at split
    have there : items[front.length]? = some item := by simp [split]
    rw [through_concat, List.length_append, List.length_singleton, Nat.zero_add]
    exact step front.length item _ there (length_through fresh) (ih split)

@[simp]
theorem through_config (index : Nat) (items : List RequestItem) (p : Progress) :
    (r.through index items p).session.config = p.session.config := by
  induction items generalizing index p with
  | nil => rfl
  | cons item rest ih => rw [through, ih, advance_config]

@[simp]
theorem through_status (index : Nat) (items : List RequestItem) (p : Progress) :
    (r.through index items p).session.status = p.session.status := by
  induction items generalizing index p with
  | nil => rfl
  | cons item rest ih => rw [through, ih, advance_status]

/-- The run goes on after the request at an index: it is not found canceled before it, and does not
stop at its failure. -/
def GoesOn (r : Runner) (index : Nat) (item : RequestItem) (p : Progress) : Prop :=
  r.canceled index p.shared.sent = false ∧
    (p.session.config.stopOnFailure && (r.advance index item p).1.isFailure) = false

/-- The run goes on after each of the requests, the first of which has an index. -/
def Undisturbed (r : Runner) (index : Nat) : List RequestItem → Progress → Prop
  | [], _ => True
  | item :: rest, p =>
    r.GoesOn index item p ∧ r.Undisturbed (index + 1) rest (r.advance index item p).2

theorem undisturbed_concat {index : Nat} {front : List RequestItem} {item : RequestItem}
    {p : Progress} : r.Undisturbed index (front ++ [item]) p ↔
      r.Undisturbed index front p ∧
        r.GoesOn (index + front.length) item (r.through index front p) := by
  induction front generalizing index p with
  | nil => simp [Undisturbed, through]
  | cons first rest ih =>
    have shift : index + 1 + rest.length = index + (rest.length + 1) := by omega
    rw [List.cons_append, Undisturbed, ih, Undisturbed, through, List.length_cons, shift, and_assoc]

/-- A run goes on after requests that nothing disturbed as if it began after them. -/
theorem proceed_append {index : Nat} {front : List RequestItem} {p : Progress}
    (undisturbed : r.Undisturbed index front p) (back : List RequestItem) :
    r.proceed index (front ++ back) p =
      r.proceed (index + front.length) back (r.through index front p) := by
  induction front generalizing index p with
  | nil => rfl
  | cons item rest ih =>
    obtain ⟨⟨notCanceled, notStopped⟩, later⟩ := undisturbed
    rw [List.cons_append, proceed, notCanceled]
    simp only [Bool.false_eq_true, ↓reduceIte, advance_config, notStopped]
    rw [ih later, List.length_cons, through, Nat.add_assoc, Nat.add_comm 1]

/-- Unless the run goes on after all requests, there is a first one it does not go on after. -/
theorem undisturbed_or_cut (r : Runner) (index : Nat) (items : List RequestItem) (p : Progress) :
    r.Undisturbed index items p ∨
      ∃ front item back, items = front ++ item :: back ∧ r.Undisturbed index front p ∧
        ¬ r.GoesOn (index + front.length) item (r.through index front p) := by
  induction items generalizing index p with
  | nil => exact .inl trivial
  | cons item rest ih =>
    by_cases goesOn : r.GoesOn index item p
    · rcases ih (index + 1) (r.advance index item p).2 with
        undisturbed | ⟨front, last, back, split, undisturbed, cut⟩
      · exact .inl ⟨goesOn, undisturbed⟩
      · refine .inr ⟨item :: front, last, back, by rw [split]; rfl, ⟨goesOn, undisturbed⟩, ?_⟩
        rw [List.length_cons, Nat.add_comm front.length, ← Nat.add_assoc]
        exact cut
    · exact .inr ⟨[], item, rest, rfl, trivial, goesOn⟩

/-! ## Ends of runs -/

/-- How a run of requests that starts from a progress is over: the requests it took, those it left,
and its last status. -/
inductive Halts (r : Runner) (items : List RequestItem) (p : Progress) :
    (taken left : List RequestItem) → RunStatus → Prop
  | completed : r.Undisturbed 0 items p → Halts r items p items [] .completed
  | canceled {front back : List RequestItem} {item : RequestItem} :
    items = front ++ item :: back → r.Undisturbed 0 front p →
    r.canceled front.length (r.through 0 front p).shared.sent = true →
    Halts r items p front (item :: back) .canceled
  | stopped {front back : List RequestItem} {item : RequestItem} :
    items = front ++ item :: back → r.Undisturbed 0 front p →
    r.canceled front.length (r.through 0 front p).shared.sent = false →
    p.session.config.stopOnFailure = true →
    (r.advance front.length item (r.through 0 front p)).1.isFailure = true →
    Halts r items p (front ++ [item]) back .stopped

theorem Halts.split {items taken left : List RequestItem} {p : Progress} {status : RunStatus}
    (halts : r.Halts items p taken left status) : items = taken ++ left := by
  cases halts with
  | completed => exact (List.append_nil _).symm
  | canceled split => exact split
  | stopped split => rw [split, List.append_assoc, List.singleton_append]

/-- The progress at the end of a run that took some requests and left others. -/
def halted (r : Runner) (taken left : List RequestItem) (status : RunStatus) (p : Progress) :
    Progress :=
  ((r.through 0 taken p).ended status r.now).skip taken.length left

theorem halted_results (taken left : List RequestItem) (status : RunStatus) (p : Progress) :
    (r.halted taken left status p).session.results =
      (r.through 0 taken p).session.results ++
        left.mapIdx fun i item => RequestResult.skipped (taken.length + i) (.ofItem item) :=
  Progress.skip_results _ _ _

@[simp]
theorem halted_status (taken left : List RequestItem) (status : RunStatus) (p : Progress) :
    (r.halted taken left status p).session.status = status :=
  Progress.skip_status _ _ _

@[simp]
theorem halted_config (taken left : List RequestItem) (status : RunStatus) (p : Progress) :
    (r.halted taken left status p).session.config = p.session.config :=
  (Progress.skip_config _ _ _).trans (through_config _ _ _)

@[simp]
theorem halted_values (taken left : List RequestItem) (status : RunStatus) (p : Progress) :
    (r.halted taken left status p).session.values = (r.through 0 taken p).session.values :=
  Progress.skip_values _ _ _

@[simp]
theorem halted_shared (taken left : List RequestItem) (status : RunStatus) (p : Progress) :
    (r.halted taken left status p).shared = (r.through 0 taken p).shared :=
  Progress.skip_shared _ _ _

theorem take_halted_results {taken left : List RequestItem} {status : RunStatus} {p : Progress}
    (fresh : p.session.results = []) :
    (r.halted taken left status p).session.results.take taken.length =
      (r.through 0 taken p).session.results := by
  rw [halted_results, ← length_through (r := r) fresh, List.take_left]

theorem getElem?_halted_results_of_lt {taken left : List RequestItem} {status : RunStatus}
    {p : Progress} (fresh : p.session.results = []) {i : Nat} (before : i < taken.length) :
    (r.halted taken left status p).session.results[i]? =
      (r.through 0 taken p).session.results[i]? := by
  rw [halted_results, List.getElem?_append_left (by rw [length_through fresh]; exact before)]

/-- From the cut on, requests are skipped. -/
theorem getElem?_halted_results_of_le {taken left : List RequestItem} {status : RunStatus}
    {p : Progress} (fresh : p.session.results = []) {i : Nat} (after : taken.length ≤ i) :
    (r.halted taken left status p).session.results[i]? =
      (taken ++ left)[i]?.map fun item => RequestResult.skipped i (.ofItem item) := by
  have length : (r.through 0 taken p).session.results.length = taken.length :=
    length_through fresh
  rw [halted_results, List.getElem?_append_right (by rw [length]; exact after), length,
    List.getElem?_mapIdx, List.getElem?_append_right after, Nat.add_sub_cancel' after]

theorem proceed_nil {index : Nat} {p : Progress} (running : p.session.status = .running) :
    r.proceed index [] p = .ok (p.ended .completed r.now) := by
  rw [proceed, Session.complete, Session.finish_eq_ended r.now (by simp [running])]
  rfl

theorem proceed_canceled {index : Nat} {item : RequestItem} {rest : List RequestItem}
    {p : Progress} (running : p.session.status = .running)
    (canceled : r.canceled index p.shared.sent = true) :
    r.proceed index (item :: rest) p =
      .ok ((p.ended .canceled r.now).skip index (item :: rest)) := by
  rw [proceed, if_pos canceled, Session.cancel,
    Session.finish_eq_ended r.now (by simp [running])]
  rfl

/-- A run that stops at failures ends after a request that failed, and skips the others. -/
theorem proceed_stopped {index : Nat} {item : RequestItem} {rest : List RequestItem}
    {p : Progress} (running : p.session.status = .running)
    (notCanceled : r.canceled index p.shared.sent = false)
    (stops : p.session.config.stopOnFailure = true)
    (failure : (r.advance index item p).1.isFailure = true) :
    r.proceed index (item :: rest) p =
      .ok (((r.advance index item p).2.ended .stopped r.now).skip (index + 1) rest) := by
  rw [proceed, notCanceled]
  simp only [Bool.false_eq_true, ↓reduceIte, advance_config, stops, failure, Bool.and_self]
  rw [Session.stop, Session.finish_eq_ended r.now (by simp [running])]
  rfl

/-- A run that is over in one of the three ways ends with what it took and skips what it left. -/
theorem Halts.proceed_eq {items taken left : List RequestItem} {p : Progress}
    {status : RunStatus} (halts : r.Halts items p taken left status)
    (running : p.session.status = .running) :
    r.proceed 0 items p = .ok (r.halted taken left status p) := by
  unfold halted
  cases halts with
  | completed undisturbed =>
    have whole := proceed_append undisturbed []
    rw [List.append_nil] at whole
    rw [whole, proceed_nil ((through_status _ _ _).trans running)]
    rfl
  | @canceled front back item split undisturbed canceled =>
    rw [split, proceed_append undisturbed, Nat.zero_add,
      proceed_canceled ((through_status _ _ _).trans running) canceled]
  | @stopped front back item split undisturbed notCanceled stops failure =>
    have stops' : (r.through 0 front p).session.config.stopOnFailure = true := by
      rw [through_config]
      exact stops
    rw [split, proceed_append undisturbed, Nat.zero_add,
      proceed_stopped ((through_status _ _ _).trans running) notCanceled stops' failure,
      through_concat, Nat.zero_add, List.length_append, List.length_singleton]

/-- Every run is over in one of the three ways. -/
theorem exists_halts (r : Runner) (items : List RequestItem) (p : Progress) :
    ∃ taken left status, r.Halts items p taken left status := by
  rcases r.undisturbed_or_cut 0 items p with
    undisturbed | ⟨front, item, back, split, undisturbed, cut⟩
  · exact ⟨_, _, _, .completed undisturbed⟩
  · rw [Nat.zero_add] at cut
    cases flag : r.canceled front.length (r.through 0 front p).shared.sent with
    | true => exact ⟨_, _, _, .canceled split undisturbed flag⟩
    | false =>
      have fails : (p.session.config.stopOnFailure &&
          (r.advance front.length item (r.through 0 front p)).1.isFailure) = true := by
        rw [← through_config 0 front p (r := r)]
        by_contra goesOn
        exact cut ⟨flag, Bool.eq_false_iff.mpr goesOn⟩
      rw [Bool.and_eq_true] at fails
      exact ⟨_, _, _, .stopped split undisturbed flag fails.1 fails.2⟩

/-! ## Whole runs -/

/-- The progress of a run that begins. -/
def opening (r : Runner) (collection : Collection) (folder : Option String)
    (environment : Option Environment) (config : RunConfig) (shared : Shared)
    (items : List RequestItem) : Progress where
  session := { Session.new collection.name folder environment config r.now with
    status := .running
    totalRequests := items.length
    startedAt := some r.now }
  shared := shared
  events := [.started .running items.length]

variable {collection : Collection} {folder : Option String} {config : RunConfig}
  {items : List RequestItem}

theorem run_eq_proceed (valid : config.validate = .ok ())
    (found : requests collection folder = .ok items) (environment : Option Environment)
    (shared : Shared) :
    r.run collection folder environment config shared =
      (r.proceed 0 items (r.opening collection folder environment config shared items)).mapError
        .session := by
  unfold run
  rw [valid, found]
  rfl

/-- A run that is over in some way ends with what it took and skips what it left. -/
theorem Halts.run_eq {taken left : List RequestItem} {status : RunStatus}
    {environment : Option Environment} {shared : Shared}
    (halts : r.Halts items (r.opening collection folder environment config shared items) taken left
      status) (valid : config.validate = .ok ())
    (found : requests collection folder = .ok items) :
    r.run collection folder environment config shared =
      .ok (r.halted taken left status
        (r.opening collection folder environment config shared items)) := by
  rw [run_eq_proceed valid found, halts.proceed_eq rfl]
  rfl

/-- A run with valid settings of requests that are found is over in one of the three ways. -/
theorem run_eq_halted (r : Runner) (valid : config.validate = .ok ())
    (found : requests collection folder = .ok items) (environment : Option Environment)
    (shared : Shared) :
    ∃ taken left status,
      r.Halts items (r.opening collection folder environment config shared items) taken left
        status ∧
      r.run collection folder environment config shared =
        .ok (r.halted taken left status
          (r.opening collection folder environment config shared items)) := by
  obtain ⟨taken, left, status, halts⟩ :=
    r.exists_halts items (r.opening collection folder environment config shared items)
  exact ⟨taken, left, status, halts, halts.run_eq valid found⟩

end Runner

end CollectionRunner
