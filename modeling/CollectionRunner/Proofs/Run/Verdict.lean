import CollectionRunner.Proofs.Run.Summary

/-!
# Green runs

The verdict on a run looks at the counters of failures and errors only
(`RunSummary.Summarizes.allPassed_iff`), so a run is green when every request that it took passed.
Whether it took all of them is for its last status to say: main statement `run_green_iff`, and
`green_of_canceled` is a run that is green although it took no request at all.
-/

namespace CollectionRunner

/-- A run is green when no request failed. -/
theorem RunSummary.Summarizes.allPassed_iff {s : RunSummary} {results : List RequestResult}
    (summarizes : s.Summarizes results) :
    s.allPassed = true ↔ ∀ result ∈ results, result.isFailure = false := by
  unfold allPassed RequestResult.isFailure
  simp only [Bool.and_eq_true, beq_iff_eq, summarizes.failed, summarizes.errors,
    List.countP_eq_zero, decide_eq_true_eq, Bool.or_eq_false_iff, beq_eq_false_iff_ne]
  constructor
  · rintro ⟨noneFailed, noErrors⟩ result member
    exact ⟨noneFailed result member, noErrors result member⟩
  · intro noFailure
    exact ⟨fun result member => (noFailure result member).1,
      fun result member => (noFailure result member).2⟩

namespace Account

variable {r : Runner} {config : RunConfig} {items : List RequestItem} {p : Progress} {cut : Nat}

/-- A result is one of a request before the cut, or one that was skipped. -/
theorem mem_results (account : Account r config items p cut) {result : RequestResult}
    (member : result ∈ p.session.results) :
    result ∈ p.session.results.take cut ∨ result.status = .skipped := by
  obtain ⟨i, inside, rfl⟩ := List.getElem_of_mem member
  rcases Nat.lt_or_ge i cut with before | after
  · exact .inl (List.mem_take_iff_getElem.mpr ⟨i, by omega, rfl⟩)
  · have bound : i < items.length := by
      rw [← account.length]
      exact inside
    have skipped := account.skipped i _ after (List.getElem?_eq_getElem bound)
    rw [List.getElem?_eq_getElem inside, Option.some.injEq] at skipped
    exact .inr (by rw [skipped]; rfl)

/-- A run is green exactly when every request it took passed; those it skipped do not count. -/
theorem allPassed_iff (account : Account r config items p cut) :
    p.session.report.summary.allPassed = true ↔
      ∀ result ∈ p.session.results.take cut, result.status = .passed := by
  have summarizes := RunSummary.summarizes_tally p.session.totalRequests p.session.results
  refine summarizes.allPassed_iff.trans ⟨fun noFailure result taken => ?_,
    fun passed result member => ?_⟩
  · have ok := noFailure result (List.mem_of_mem_take taken)
    rcases account.settled result taken with status | status | status
    · exact status
    · rw [RequestResult.isFailure, status] at ok
      cases ok
    · rw [RequestResult.isFailure, status] at ok
      cases ok
  · rcases account.mem_results member with taken | skipped
    · rw [RequestResult.isFailure, passed result taken]
      rfl
    · rw [RequestResult.isFailure, skipped]
      rfl

/-- A green run that was not canceled took every request. -/
theorem cut_eq_of_green (account : Account r config items p cut)
    (green : p.session.report.summary.allPassed = true)
    (notCanceled : p.session.status ≠ .canceled) : cut = items.length := by
  have terminal := account.terminal
  cases status : p.session.status with
  | pending | running =>
    rw [status] at terminal
    cases terminal
  | completed => exact (account.completed status).1
  | canceled => exact absurd status notCanceled
  | stopped =>
    -- A run stops at a failure, and that is the last request before the cut.
    obtain ⟨-, positive, failure_iff⟩ := account.stopped status
    have inside : cut - 1 < p.session.results.length := by
      have := account.cut_le
      have := account.length
      omega
    have failure := (failure_iff (cut - 1) _ (List.getElem?_eq_getElem inside)).mpr (by omega)
    have passed := account.allPassed_iff.mp green _
      (List.mem_take_iff_getElem.mpr ⟨cut - 1, by omega, rfl⟩)
    rw [RequestResult.isFailure, passed] at failure
    cases failure

end Account

/-- A run is green when the requests before its cut passed.  All its requests passed if and only if
it is green and was not canceled. -/
theorem run_green_iff (r : Runner) {collection : Collection} {folder : Option String}
    {config : RunConfig} {items : List RequestItem} (valid : config.validate = .ok ())
    (found : Runner.requests collection folder = .ok items) (environment : Option Environment)
    (shared : Shared) :
    ∃ p cut, r.run collection folder environment config shared = .ok p ∧
      Account r config items p cut ∧
      (p.session.report.summary.allPassed = true ↔
        ∀ result ∈ p.session.results.take cut, result.status = .passed) ∧
      ((∀ result ∈ p.session.results, result.status = .passed) ↔
        p.session.report.summary.allPassed = true ∧ p.session.status ≠ .canceled) := by
  obtain ⟨taken, left, status, halts, ran⟩ := r.run_eq_halted valid found environment shared
  have account := halts.account (.opening r collection folder environment config shared items) rfl
  refine ⟨_, _, ran, account, account.allPassed_iff, ?_, ?_⟩
  · intro passed
    refine ⟨account.allPassed_iff.mpr fun result taken =>
      passed result (List.mem_of_mem_take taken), fun canceled => ?_⟩
    obtain ⟨inside, -⟩ := account.canceled canceled
    have skipped := account.skipped _ _ (Nat.le_refl _) (List.getElem?_eq_getElem inside)
    cases passed _ (List.mem_of_getElem? skipped)
  · rintro ⟨green, notCanceled⟩ result member
    refine account.allPassed_iff.mp green result ?_
    rw [account.cut_eq_of_green green notCanceled, ← account.length, List.take_length]
    exact member

/-- A collection of one request. -/
def loneRequest : Collection :=
  ⟨"shop", none, [⟨"", "one", "GET", "https://api.test/one", [], none, none, none⟩], []⟩

/-- A runner that is canceled before its runs. -/
def Runner.canceledAtOnce : Runner :=
  ⟨Script.conduct, fun _ _ => .silence, fun _ _ => true, default, 0⟩

theorem run_green_iff_of_canceled :
    RunConfig.standard.validate = .ok () ∧
      Runner.requests loneRequest none = .ok loneRequest.requests ∧
      ∃ p cut, Runner.canceledAtOnce.run loneRequest none none .standard default = .ok p ∧
        Account Runner.canceledAtOnce .standard loneRequest.requests p cut ∧
        (p.session.report.summary.allPassed = true ↔
          ∀ result ∈ p.session.results.take cut, result.status = .passed) ∧
        ((∀ result ∈ p.session.results, result.status = .passed) ↔
          p.session.report.summary.allPassed = true ∧ p.session.status ≠ .canceled) :=
  ⟨rfl, rfl, run_green_iff _ rfl rfl none default⟩

/-- The run is green, and its one request was skipped. -/
theorem green_of_canceled :
    ∃ p, Runner.canceledAtOnce.run loneRequest none none .standard default = .ok p ∧
      p.session.report.summary.allPassed = true ∧
      p.session.results.map (·.status) = [.skipped] :=
  ⟨_, rfl, rfl, rfl⟩

end CollectionRunner
