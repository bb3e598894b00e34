import CollectionRunner.Proofs.Run.Course
import CollectionRunner.Proofs.Run.Outcome

/-!
# What a run accounts for

Every request of a run has one result, at its index, and there is one cut: the requests before it
were taken, those from it on were skipped.  `Accounts` is what holds while a run goes on, each
request keeps it (`Accounts.advance`), and `Account` is what it comes to when the run is over.  Main
statement: `run_accounted`, for every way in which a run can be over.
-/

namespace CollectionRunner

/-- What a run tells about requests and their results, in the order of the requests. -/
def told (total : Nat) (items : List RequestItem) (results : List RequestResult) :
    List RunEvent :=
  (items.zip results).flatMap fun (item, result) =>
    [.requestStarted result.index total item, .requestFinished result]

/-- The next result is told last, between the start and the end of its own request. -/
theorem told_concat {items : List RequestItem} {results : List RequestResult}
    {item : RequestItem} (there : items[results.length]? = some item) (total : Nat)
    (result : RequestResult) :
    told total items (results ++ [result]) = told total items results ++
      [.requestStarted result.index total item, .requestFinished result] := by
  induction results generalizing items with
  | nil =>
    cases items with
    | nil => cases there
    | cons first rest =>
      cases there
      simp [told]
  | cons first later ih =>
    cases items with
    | nil => cases there
    | cons head rest =>
      have tail := @ih rest there
      unfold told at tail ⊢
      rw [List.cons_append, List.zip_cons_cons, List.flatMap_cons, tail, List.zip_cons_cons,
        List.flatMap_cons, List.append_assoc]

/-! ## While a run goes on -/

/-- What holds of a run when it took `n` of its requests. -/
structure Accounts (items : List RequestItem) (n : Nat) (p : Progress) : Prop where
  currentIndex : p.session.currentIndex = n
  total : p.session.totalRequests = items.length
  described : ∀ (i : Nat) (result : RequestResult), p.session.results[i]? = some result →
    ∃ item, items[i]? = some item ∧ result.Describes i item
  settled : ∀ result ∈ p.session.results,
    result.status = .passed ∨ result.status = .failed ∨ result.status = .error
  events : p.events =
    .started .running items.length :: told items.length items p.session.results

/-- A request that is taken adds its own result, and tells it, and nothing else. -/
theorem Accounts.advance {items : List RequestItem} {n : Nat} {p : Progress}
    (accounts : Accounts items n p) (r : Runner) {item : RequestItem}
    (there : items[n]? = some item) (length : p.session.results.length = n) :
    Accounts items (n + 1) (r.advance n item p).2 where
  currentIndex := by rw [Runner.advance_currentIndex, length]
  total := by rw [Runner.advance_totalRequests, accounts.total]
  described := by
    intro i result found
    rcases Runner.getElem?_advance_results length found with ⟨-, earlier⟩ | ⟨rfl, rfl⟩
    · exact accounts.described i result earlier
    · exact ⟨item, there, r.execute_describes _ _ _ _ _⟩
  settled := by
    intro result member
    rcases Runner.mem_advance_results.mp member with earlier | rfl
    · exact accounts.settled result earlier
    · exact r.execute_settled _ _ _ _ _
  events := by
    have index := (r.execute_describes p.session.config p.session.values n item p.shared).index
    rw [Runner.advance_results, told_concat (by rw [length]; exact there), Runner.advance_events,
      accounts.events, accounts.total, Runner.advance_result, index]
    rfl

/-- A run that is about to begin has no results and told only that it began. -/
theorem Accounts.opening (r : Runner) (collection : Collection) (folder : Option String)
    (environment : Option Environment) (config : RunConfig) (shared : Shared)
    (items : List RequestItem) :
    Accounts items 0 (r.opening collection folder environment config shared items) where
  currentIndex := rfl
  total := rfl
  described := fun _ _ found => by cases found
  settled := fun _ member => by cases member
  events := by
    unfold told
    rw [show (r.opening collection folder environment config shared items).session.results = []
      from rfl, List.zip_nil_right]
    rfl

theorem Accounts.through {items front back : List RequestItem} {p : Progress}
    (accounts : Accounts items 0 p) (fresh : p.session.results = []) (r : Runner)
    (split : items = front ++ back) : Accounts items front.length (r.through 0 front p) :=
  Runner.through_preserves (P := Accounts items)
    (fun _ _ _ there length accounts => accounts.advance r there length) fresh accounts split

/-- A run that stops at failures and goes on has none so far. -/
theorem Runner.Undisturbed.noFailure {r : Runner} {index : Nat} {items : List RequestItem}
    {p : Progress} (undisturbed : r.Undisturbed index items p)
    (stops : p.session.config.stopOnFailure = true)
    (before : ∀ result ∈ p.session.results, result.isFailure = false) :
    ∀ result ∈ (r.through index items p).session.results, result.isFailure = false := by
  induction items generalizing index p with
  | nil => exact before
  | cons item rest ih =>
    obtain ⟨⟨-, notStopped⟩, later⟩ := undisturbed
    refine ih later stops fun result member => ?_
    rcases mem_advance_results.mp member with earlier | rfl
    · exact before result earlier
    · simpa [stops] using notStopped

/-! ## When a run is over -/

/-- What a run that is over accounts for: the requests before the cut were taken, the others were
skipped. -/
structure Account (r : Runner) (config : RunConfig) (items : List RequestItem) (p : Progress)
    (cut : Nat) : Prop where
  terminal : p.session.status.terminal = true
  total : p.session.totalRequests = items.length
  length : p.session.results.length = items.length
  currentIndex : p.session.currentIndex = items.length
  described : ∀ (i : Nat) (item : RequestItem), items[i]? = some item →
    ∃ result, p.session.results[i]? = some result ∧ result.Describes i item
  cut_le : cut ≤ items.length
  settled : ∀ result ∈ p.session.results.take cut,
    result.status = .passed ∨ result.status = .failed ∨ result.status = .error
  skipped : ∀ (i : Nat) (item : RequestItem), cut ≤ i → items[i]? = some item →
    p.session.results[i]? = some (.skipped i (.ofItem item))
  completed : p.session.status = .completed → cut = items.length ∧
    (config.stopOnFailure = true → ∀ result ∈ p.session.results, result.isFailure = false)
  /-- The last request before the cut failed, and no other. -/
  stopped : p.session.status = .stopped → config.stopOnFailure = true ∧ 0 < cut ∧
    ∀ (i : Nat) (result : RequestResult), p.session.results[i]? = some result →
      (result.isFailure = true ↔ i + 1 = cut)
  canceled : p.session.status = .canceled →
    cut < items.length ∧ r.canceled cut p.shared.sent = true
  /-- Only of requests before the cut is anything told. -/
  events : p.events = .started .running items.length ::
    told items.length items (p.session.results.take cut)

namespace Runner.Halts

variable {r : Runner} {items taken left : List RequestItem} {p : Progress} {status : RunStatus}

theorem terminal (halts : r.Halts items p taken left status) : status.terminal = true := by
  cases halts <;> rfl

theorem left_eq_nil (halts : r.Halts items p taken left .completed) : left = [] := by
  cases halts
  rfl

/-- A run that stops at failures and went through all requests met none. -/
theorem noFailure_of_completed (halts : r.Halts items p taken left .completed)
    (fresh : p.session.results = []) (stops : p.session.config.stopOnFailure = true) :
    ∀ result ∈ (r.halted taken left .completed p).session.results, result.isFailure = false := by
  cases halts with
  | completed undisturbed =>
    rw [halted_results, List.mapIdx_nil, List.append_nil]
    exact undisturbed.noFailure stops (by simp [fresh])

/-- A run that was stopped met one failure, at the last request that it took. -/
theorem isFailure_iff_of_stopped (halts : r.Halts items p taken left .stopped)
    (fresh : p.session.results = []) {i : Nat} {result : RequestResult}
    (found : (r.halted taken left .stopped p).session.results[i]? = some result) :
    result.isFailure = true ↔ i + 1 = taken.length := by
  cases halts with
  | @stopped front _ item split undisturbed notCanceled stops failure =>
    have length : (front ++ [item]).length = front.length + 1 := List.length_append
    rcases Nat.lt_or_ge i (front ++ [item]).length with early | late
    · rw [getElem?_halted_results_of_lt fresh early, through_concat, Nat.zero_add] at found
      rcases getElem?_advance_results (length_through fresh) found with
        ⟨before, earlier⟩ | ⟨rfl, rfl⟩
      · have passed : result.isFailure = false :=
          undisturbed.noFailure stops (by simp [fresh]) result (List.mem_of_getElem? earlier)
        rw [passed, length]
        exact ⟨fun impossible => (by cases impossible), fun last => by omega⟩
      · exact ⟨fun _ => length.symm, fun _ => failure⟩
    · rw [getElem?_halted_results_of_le fresh late, Option.map_eq_some_iff] at found
      obtain ⟨_, -, rfl⟩ := found
      exact ⟨fun impossible => (by cases impossible), fun last => by omega⟩

theorem canceled_flag (halts : r.Halts items p taken left .canceled) :
    taken.length < items.length ∧
      r.canceled taken.length (r.through 0 taken p).shared.sent = true := by
  cases halts with
  | canceled split undisturbed flag =>
    refine ⟨?_, flag⟩
    rw [split, List.length_append, List.length_cons]
    omega

theorem stopOnFailure_of_stopped (halts : r.Halts items p taken left .stopped) :
    p.session.config.stopOnFailure = true ∧ 0 < taken.length := by
  cases halts with
  | stopped split undisturbed notCanceled stops =>
    refine ⟨stops, ?_⟩
    rw [List.length_append, List.length_singleton]
    omega

/-- A run accounts for its requests, however it is over. -/
theorem account (halts : r.Halts items p taken left status) (accounts : Accounts items 0 p)
    (fresh : p.session.results = []) :
    Account r p.session.config items (r.halted taken left status p) taken.length := by
  have before := accounts.through fresh r halts.split
  have length : (r.through 0 taken p).session.results.length = taken.length :=
    length_through fresh
  have total : items.length = taken.length + left.length := by
    rw [halts.split, List.length_append]
  have results : (r.halted taken left status p).session.results.length = items.length := by
    rw [halted_results, List.length_append, length, List.length_mapIdx, total]
  have skipped : ∀ (i : Nat) (item : RequestItem), taken.length ≤ i → items[i]? = some item →
      (r.halted taken left status p).session.results[i]? = some (.skipped i (.ofItem item)) := by
    intro i item after there
    rw [getElem?_halted_results_of_le fresh after, ← halts.split, there]
    rfl
  refine {
    terminal := by rw [halted_status]; exact halts.terminal
    total := by
      unfold halted
      rw [Progress.skip_totalRequests]
      exact before.total
    length := results
    currentIndex := by
      rw [← results]
      exact Progress.skip_currentIndex (p := (r.through 0 taken p).ended status r.now)
        (before.currentIndex.trans length.symm) _ _
    described := ?_
    cut_le := by omega
    settled := by
      rw [take_halted_results fresh]
      exact before.settled
    skipped := skipped
    completed := ?_
    stopped := ?_
    canceled := ?_
    events := by
      rw [take_halted_results fresh]
      unfold halted
      rw [Progress.skip_events]
      exact before.events }
  · intro i item there
    rcases Nat.lt_or_ge i taken.length with early | late
    · obtain ⟨result, found⟩ : ∃ result,
          (r.through 0 taken p).session.results[i]? = some result :=
        ⟨_, List.getElem?_eq_getElem (by rw [length]; exact early)⟩
      obtain ⟨there', same, describes⟩ := before.described i result found
      cases there.symm.trans same
      exact ⟨result, (getElem?_halted_results_of_lt fresh early).trans found, describes⟩
    · exact ⟨_, skipped i item late there, RequestResult.skipped_describes i item⟩
  · rw [halted_status]
    rintro rfl
    refine ⟨?_, halts.noFailure_of_completed fresh⟩
    rw [halts.split, halts.left_eq_nil, List.append_nil]
  · rw [halted_status]
    rintro rfl
    obtain ⟨stops, positive⟩ := halts.stopOnFailure_of_stopped
    exact ⟨stops, positive, fun i result => halts.isFailure_iff_of_stopped fresh⟩
  · rw [halted_status, halted_shared]
    rintro rfl
    exact halts.canceled_flag

end Runner.Halts

/-- Every run with valid settings of requests that are found ends, and accounts for its requests:
each has one result, those before one cut were taken and the others skipped, and the last status
says why the cut is where it is. -/
theorem run_accounted (r : Runner) {collection : Collection} {folder : Option String}
    {config : RunConfig} {items : List RequestItem} (valid : config.validate = .ok ())
    (found : Runner.requests collection folder = .ok items) (environment : Option Environment)
    (shared : Shared) :
    ∃ p cut, r.run collection folder environment config shared = .ok p ∧
      Account r config items p cut := by
  obtain ⟨taken, left, status, halts, ran⟩ :=
    r.run_eq_halted valid found environment shared
  exact ⟨_, _, ran,
    halts.account (.opening r collection folder environment config shared items) rfl⟩

/-- A run that is canceled before the request in its inner folder. -/
theorem run_accounted_of_canceled :
    RunConfig.standard.validate = .ok () ∧
      Runner.requests ⟨"shop", none, [default], [⟨"users", [], [⟨"admin", [default], []⟩]⟩]⟩ none =
        .ok [default, default] ∧
      ∃ p cut, (Runner.mk Script.conduct (fun _ _ => .silence) (fun i _ => i == 1) default 0).run
          ⟨"shop", none, [default], [⟨"users", [], [⟨"admin", [default], []⟩]⟩]⟩ none none .standard
          default = .ok p ∧
        Account (Runner.mk Script.conduct (fun _ _ => .silence) (fun i _ => i == 1) default 0)
          .standard [default, default] p cut :=
  ⟨rfl, rfl, run_accounted _ rfl rfl none default⟩

end CollectionRunner
