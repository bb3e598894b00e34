import CollectionRunner.Proofs.Run.Accounting
import CollectionRunner.Run.Report
import Mathlib.Algebra.BigOperators.Group.List.Lemmas
import Mathlib.Algebra.GroupWithZero.Nat

/-!
# What a summary counts

A summary is made in one pass over the results.  `RequestResult.adds` is what one result adds to a
counter, and `RunSummary.counted_tally` says that the summary has the sum of it for every counter; so
results can be counted in parts and in any order.  Which assertions count, and how the counters of a
run hang together, is read off these sums and off what the results of a run can be
(`Runner.forall_halted_results`).  Main statement: `run_adds_up`.
-/

namespace CollectionRunner

/-- The numbers of a summary that are counted result by result. -/
inductive Counter
  | completed
  | passed
  | failed
  | errors
  | skipped
  | passedAssertions
  | failedAssertions
  deriving DecidableEq, Repr

/-- The tests of a result, those of both scripts. -/
def RequestResult.tests (r : RequestResult) : List AssertionResult :=
  r.scripts.flatMap ScriptResult.assertions

/-- The assertions of a result count when it passed or failed. -/
def RequestResult.tested (r : RequestResult) : Bool := r.status == .passed || r.status == .failed

/-- What a result adds to a counter. -/
def RequestResult.adds (r : RequestResult) : Counter → Nat
  | .completed => 1
  | .passed => if r.status = .passed then 1 else 0
  | .failed => if r.status = .failed then 1 else 0
  | .errors => if r.status = .error then 1 else 0
  | .skipped => if r.status = .skipped then 1 else 0
  | .passedAssertions => if r.tested then r.tests.countP (·.passed) else 0
  | .failedAssertions => if r.tested then r.tests.countP (!·.passed) else 0

namespace RequestResult

theorem passedAssertions_eq (r : RequestResult) :
    r.passedAssertions = r.tests.countP (·.passed) := by
  unfold passedAssertions tests scripts ScriptResult.passedAssertions
  cases r.preScript <;> cases r.postScript <;> simp [List.countP_eq_length_filter]

theorem failedAssertions_eq (r : RequestResult) :
    r.failedAssertions = r.tests.countP (!·.passed) := by
  unfold failedAssertions tests scripts ScriptResult.failedAssertions
  cases r.preScript <;> cases r.postScript <;> simp [List.countP_eq_length_filter]

end RequestResult

namespace RunSummary

/-- What a summary has for a counter. -/
def counted (s : RunSummary) : Counter → Nat
  | .completed => s.completedRequests
  | .passed => s.passed
  | .failed => s.failed
  | .errors => s.errors
  | .skipped => s.skipped
  | .passedAssertions => s.passedAssertions
  | .failedAssertions => s.failedAssertions

@[simp]
theorem completed_count (s : RunSummary) (r : RequestResult) :
    (s.count r).completedRequests = s.completedRequests := by
  unfold count
  cases r.status <;> rfl

@[simp]
theorem total_count (s : RunSummary) (r : RequestResult) :
    (s.count r).totalRequests = s.totalRequests := by
  unfold count
  cases r.status <;> rfl

theorem counted_count (s : RunSummary) (r : RequestResult) {c : Counter}
    (counts : c ≠ .completed) : (s.count r).counted c = s.counted c + r.adds c := by
  have passed := r.passedAssertions_eq
  have failed := r.failedAssertions_eq
  unfold count
  cases status : r.status <;> cases c <;>
    simp_all [counted, RequestResult.adds, RequestResult.tested]

theorem counted_foldl (results : List RequestResult) (s : RunSummary) {c : Counter}
    (counts : c ≠ .completed) :
    (results.foldl count s).counted c = s.counted c + (results.map (·.adds c)).sum := by
  induction results generalizing s with
  | nil => simp
  | cons result rest ih =>
    rw [List.foldl_cons, ih, counted_count s result counts, List.map_cons, List.sum_cons]
    omega

theorem completed_foldl (results : List RequestResult) (s : RunSummary) :
    (results.foldl count s).completedRequests = s.completedRequests := by
  induction results generalizing s with
  | nil => rfl
  | cons result rest ih => rw [List.foldl_cons, ih, completed_count]

theorem total_foldl (results : List RequestResult) (s : RunSummary) :
    (results.foldl count s).totalRequests = s.totalRequests := by
  induction results generalizing s with
  | nil => rfl
  | cons result rest ih => rw [List.foldl_cons, ih, total_count]

/-- A summary has, for every counter, the sum of what the results add to it. -/
theorem counted_tally (total : Nat) (results : List RequestResult) (c : Counter) :
    (tally total results).counted c = (results.map (·.adds c)).sum := by
  -- How many results there are is written down before the pass and not counted in it.
  by_cases completed : c = .completed
  · subst completed
    have ones : (results.map (·.adds .completed)).sum = results.length := by
      simp [RequestResult.adds]
    rw [ones]
    exact completed_foldl results _
  · have start : counted ⟨total, results.length, 0, 0, 0, 0, 0, 0, 0.0⟩ c = 0 := by
      cases c <;> first | rfl | exact absurd rfl completed
    rw [tally, counted_foldl results _ completed, start, Nat.zero_add]

theorem total_tally (total : Nat) (results : List RequestResult) :
    (tally total results).totalRequests = total :=
  total_foldl results _

theorem counted_tally_append (total total₁ total₂ : Nat) (front back : List RequestResult)
    (c : Counter) : (tally total (front ++ back)).counted c =
      (tally total₁ front).counted c + (tally total₂ back).counted c := by
  rw [counted_tally, counted_tally, counted_tally, List.map_append, List.sum_append]

theorem counted_tally_perm {results results' : List RequestResult} (perm : results.Perm results')
    (total total' : Nat) (c : Counter) :
    (tally total results).counted c = (tally total' results').counted c := by
  rw [counted_tally, counted_tally]
  exact (perm.map _).sum_eq

end RunSummary

/-! ## What the counters of a summary are -/

/-- A request of which nothing was found out yet. -/
def RequestResult.unfinished (r : RequestResult) : Bool :=
  r.status == .pending || r.status == .running

/-- The tests of the results that passed or failed; those of errors are none of them. -/
def countedTests (results : List RequestResult) : List AssertionResult :=
  (results.filter (·.tested)).flatMap RequestResult.tests

/-- What a summary says about results. -/
structure RunSummary.Summarizes (s : RunSummary) (results : List RequestResult) : Prop where
  completed : s.completedRequests = results.length
  passed : s.passed = results.countP (·.status = .passed)
  failed : s.failed = results.countP (·.status = .failed)
  errors : s.errors = results.countP (·.status = .error)
  skipped : s.skipped = results.countP (·.status = .skipped)
  statuses : s.passed + s.failed + s.errors + s.skipped + results.countP (·.unfinished) =
    s.completedRequests
  passedAssertions : s.passedAssertions = (countedTests results).countP (·.passed)
  failedAssertions : s.failedAssertions = (countedTests results).countP (!·.passed)

/-- Every result has one status. -/
theorem countP_statuses (results : List RequestResult) :
    results.countP (·.status = .passed) + results.countP (·.status = .failed) +
      results.countP (·.status = .error) + results.countP (·.status = .skipped) +
      results.countP (·.unfinished) = results.length := by
  induction results with
  | nil => rfl
  | cons result rest ih =>
    simp only [List.countP_cons, List.length_cons, RequestResult.unfinished]
    cases result.status <;> simp <;> simp only [RequestResult.unfinished] at ih <;> omega

theorem countP_countedTests (p : AssertionResult → Bool) (results : List RequestResult) :
    (countedTests results).countP p =
      (results.map fun r => if r.tested then r.tests.countP p else 0).sum := by
  rw [countedTests, List.countP_flatMap, List.sum_map_ite]
  simp [Function.comp_def]

namespace RunSummary

theorem counted_tally_status {c : Counter} {status : RequestStatus}
    (adds : ∀ r : RequestResult, r.adds c = if r.status = status then 1 else 0) (total : Nat)
    (results : List RequestResult) :
    (tally total results).counted c = results.countP (·.status = status) := by
  rw [counted_tally]
  simp only [adds]
  rw [List.sum_map_ite, List.countP_eq_length_filter]
  simp

/-- The summary of results counts them, by their statuses and by the tests of those that are
tested. -/
theorem summarizes_tally (total : Nat) (results : List RequestResult) :
    (tally total results).Summarizes results := by
  have completed : (tally total results).completedRequests = results.length :=
    completed_foldl results _
  have passed := counted_tally_status (c := .passed) (fun _ => rfl) total results
  have failed := counted_tally_status (c := .failed) (fun _ => rfl) total results
  have errors := counted_tally_status (c := .errors) (fun _ => rfl) total results
  have skipped := counted_tally_status (c := .skipped) (fun _ => rfl) total results
  simp only [counted] at passed failed errors skipped
  exact {
    completed := completed
    passed := passed
    failed := failed
    errors := errors
    skipped := skipped
    statuses := by
      rw [passed, failed, errors, skipped, completed]
      exact countP_statuses results
    passedAssertions := by
      rw [countP_countedTests]
      exact counted_tally total results .passedAssertions
    failedAssertions := by
      rw [countP_countedTests]
      exact counted_tally total results .failedAssertions }

end RunSummary

/-! ## The summary of a run -/

/-- The result is one of a request that is over, and of those whose assertions count it is a failed
one if and only if a test failed. -/
structure RequestResult.Fair (r : RequestResult) : Prop where
  finished : r.unfinished = false
  failed_iff : r.tested = true → (r.status = .failed ↔ r.TestFailed)

theorem RequestResult.skipped_fair (index : Nat) (info : RequestInfo) :
    (RequestResult.skipped index info).Fair where
  finished := rfl
  failed_iff := fun tested => by cases tested

theorem RequestResult.withError_fair (r : RequestResult) (e : RequestError) :
    (r.withError e).Fair where
  finished := rfl
  failed_iff := fun tested => by cases tested

/-- A result that was judged is failed for its tests alone. -/
theorem RequestResult.Judged.fair {r judged : RequestResult} (j : r.Judged judged) :
    judged.Fair where
  finished := by
    unfold unfinished
    rcases j.settled with status | status | status <;> rw [status] <;> rfl
  failed_iff := by
    intro tested
    have noError : judged.postScript.bind (·.error) = none := by
      rcases j.settled with status | status | status
      · exact (j.status_eq_passed_iff.mp status).1
      · exact (j.status_eq_failed_iff.mp status).1
      · rw [RequestResult.tested, status] at tested
        cases tested
    rw [j.status_eq_failed_iff]
    exact ⟨fun failed => failed.2, fun failed => ⟨noError, failed⟩⟩

/-- Whatever comes of a request, its result is over and failed for its tests alone. -/
theorem Runner.execute_fair (r : Runner) (config : RunConfig) (values : Variables) (index : Nat)
    (item : RequestItem) (shared : Shared) :
    (r.execute config values index item shared).1.Fair := by
  rcases r.execute_cases config values index item shared rfl with
    ⟨e, -, outcome⟩ | ⟨e, -, -, outcome⟩ | ⟨response, -, -, outcome⟩
  · rw [outcome]
    exact RequestResult.withError_fair _ _
  · rw [outcome]
    exact RequestResult.withError_fair _ _
  · rw [outcome]
    exact (RequestResult.judged_spec _).fair

/-- The results of a run are results of requests it took and of requests it skipped. -/
theorem Runner.forall_halted_results {r : Runner} {items taken left : List RequestItem}
    {p : Progress} {status : RunStatus} {P : RequestResult → Prop}
    (halts : r.Halts items p taken left status) (fresh : p.session.results = [])
    (executed : ∀ config values index item shared,
      P (r.execute config values index item shared).1)
    (skipped : ∀ index item, P (.skipped index (.ofItem item))) :
    ∀ result ∈ (r.halted taken left status p).session.results, P result := by
  have before : ∀ result ∈ (r.through 0 taken p).session.results, P result := by
    refine through_preserves (P := fun _ p => ∀ result ∈ p.session.results, P result) ?_ fresh
      ?_ halts.split
    · intro n item p _ _ earlier result member
      rcases mem_advance_results.mp member with member | rfl
      · exact earlier result member
      · exact executed _ _ _ _ _
    · rw [fresh]
      exact fun _ member => by cases member
  intro result member
  rw [halted_results, List.mem_append, List.mem_mapIdx] at member
  rcases member with taken | ⟨i, _, rfl⟩
  · exact before result taken
  · exact skipped _ _

/-- How the counters of the summary of a run hang together. -/
structure RunSummary.Balances (s : RunSummary) : Prop where
  statuses : s.passed + s.failed + s.errors + s.skipped = s.completedRequests
  total : s.completedRequests = s.totalRequests
  failed_iff : 0 < s.failedAssertions ↔ 0 < s.failed

theorem mem_countedTests {results : List RequestResult} {test : AssertionResult} :
    test ∈ countedTests results ↔ ∃ r ∈ results, r.tested = true ∧ test ∈ r.tests := by
  simp only [countedTests, List.mem_flatMap, List.mem_filter, and_assoc]

theorem RequestResult.testFailed_iff_mem_tests (r : RequestResult) :
    r.TestFailed ↔ ∃ test ∈ r.tests, test.passed = false := by
  simp only [TestFailed, tests, List.mem_flatMap]
  constructor
  · rintro ⟨script, ran, test, made, failed⟩
    exact ⟨test, ⟨script, ran, made⟩, failed⟩
  · rintro ⟨test, ⟨script, ran, made⟩, failed⟩
    exact ⟨script, ran, test, made, failed⟩

/-- Fair results make a balanced summary: no result is unfinished, and a failed test makes a failed
result. -/
theorem RunSummary.Summarizes.balances {s : RunSummary} {results : List RequestResult}
    (summarizes : s.Summarizes results) (fair : ∀ result ∈ results, result.Fair)
    (total : s.totalRequests = results.length) : s.Balances where
  statuses := by
    have finished : results.countP (·.unfinished) = 0 := by
      rw [List.countP_eq_zero]
      intro result member
      rw [(fair result member).finished]
      exact Bool.false_ne_true
    have whole := summarizes.statuses
    rwa [finished, Nat.add_zero] at whole
  total := by rw [summarizes.completed, total]
  failed_iff := by
    rw [summarizes.failedAssertions, summarizes.failed, List.countP_pos_iff, List.countP_pos_iff]
    constructor
    · rintro ⟨test, member, failed⟩
      obtain ⟨result, there, tested, made⟩ := mem_countedTests.mp member
      have testFailed : result.TestFailed :=
        result.testFailed_iff_mem_tests.mpr ⟨test, made, by simpa using failed⟩
      exact ⟨result, there, decide_eq_true (((fair result there).failed_iff tested).mpr testFailed)⟩
    · rintro ⟨result, there, status⟩
      have status := of_decide_eq_true status
      have tested : result.tested = true := by
        rw [RequestResult.tested, status]
        rfl
      obtain ⟨test, made, failed⟩ :=
        result.testFailed_iff_mem_tests.mp (((fair result there).failed_iff tested).mp status)
      exact ⟨test, mem_countedTests.mpr ⟨result, there, tested, made⟩, by rw [failed]; rfl⟩

/-- The summary of results has what each of them adds to it, whatever their order, and of every run
with valid settings of requests that are found it accounts for all requests and shows failed tests
exactly when requests failed. -/
theorem run_adds_up :
    (∀ total results, (RunSummary.tally total results).Summarizes results) ∧
    (∀ total total₁ total₂ front back c, (RunSummary.tally total (front ++ back)).counted c =
      (RunSummary.tally total₁ front).counted c + (RunSummary.tally total₂ back).counted c) ∧
    (∀ total total' results results', results.Perm results' → ∀ c,
      (RunSummary.tally total results).counted c =
        (RunSummary.tally total' results').counted c) ∧
    ∀ (r : Runner) (collection : Collection) (folder : Option String) (config : RunConfig)
      (items : List RequestItem), config.validate = .ok () →
      Runner.requests collection folder = .ok items →
      ∀ (environment : Option Environment) (shared : Shared),
      ∃ p, r.run collection folder environment config shared = .ok p ∧
        p.session.report.summary.Balances := by
  refine ⟨RunSummary.summarizes_tally, RunSummary.counted_tally_append,
    fun total total' _ _ perm => RunSummary.counted_tally_perm perm total total', ?_⟩
  intro r collection folder config items valid found environment shared
  obtain ⟨taken, left, status, halts, ran⟩ := r.run_eq_halted valid found environment shared
  have account := halts.account (.opening r collection folder environment config shared items) rfl
  have fair := Runner.forall_halted_results (P := RequestResult.Fair) halts rfl r.execute_fair
    fun index item => RequestResult.skipped_fair index _
  refine ⟨_, ran, (RunSummary.summarizes_tally _ _).balances fair ?_⟩
  rw [RunSummary.total_tally, account.total, account.length]

/-- Two results counted in either order, and a run that is stopped by the one that nobody answers. -/
theorem run_adds_up_of_silence :
    [RequestResult.pending 0 default, .skipped 1 default].Perm
        [.skipped 1 default, .pending 0 default] ∧
      (RunSummary.tally 2 [.pending 0 default, .skipped 1 default]).counted .skipped =
        (RunSummary.tally 2 [.skipped 1 default, .pending 0 default]).counted .skipped ∧
      { RunConfig.standard with stopOnFailure := true }.validate = .ok () ∧
      Runner.requests ⟨"shop", none, [default, default], []⟩ none = .ok [default, default] ∧
      ∃ p, (Runner.mk Script.conduct (fun _ _ => .silence) (fun _ _ => false) default 0).run
          ⟨"shop", none, [default, default], []⟩ none none
          { RunConfig.standard with stopOnFailure := true } default = .ok p ∧
        p.session.report.summary.Balances :=
  ⟨List.Perm.swap _ _ _, run_adds_up.2.2.1 2 2 _ _ (List.Perm.swap _ _ _) .skipped, rfl, rfl,
    run_adds_up.2.2.2 _ _ _ _ _ rfl rfl none default⟩

end CollectionRunner
