import CollectionRunner.Proofs.Run.Reproduction

/-!
# Runs that end early

Stopping at a failure, being canceled and waiting between requests do not change what a request
does, so runs of the same requests are in step for as long as each of them goes on.  `through`
therefore does not depend on the flag of a run (`Runner.through_uncanceled`) and not on how its
settings pace it (`Runner.through_paced`).  Main statement: `run_truncated`.  A run that is stopped
or canceled `Truncates` the run that is not: it has its first results, sent its first requests, and
leaves the variables as they were there.

`Runner.ComesTo` is the progress of a run before the request at an index, as its loop reaches it.
-/

namespace CollectionRunner

/-! ## Settings and flags -/

/-- The settings with another say on failures and another delay. -/
def RunConfig.paced (config : RunConfig) (stopOnFailure : Bool) (delayMs : Nat) : RunConfig :=
  { config with stopOnFailure := stopOnFailure, delayMs := delayMs }

theorem RunConfig.validate_paced {config : RunConfig} (valid : config.validate = .ok ())
    (stopOnFailure : Bool) {delayMs : Nat} (short : delayMs ≤ maxDelayMs) :
    (config.paced stopOnFailure delayMs).validate = .ok () := by
  unfold validate at valid ⊢
  rw [if_neg (show ¬ maxDelayMs < (config.paced stopOnFailure delayMs).delayMs from
    Nat.not_lt.mpr short)]
  split at valid
  · cases valid
  · exact valid

/-- The progress of a run with such settings. -/
def Progress.paced (p : Progress) (stopOnFailure : Bool) (delayMs : Nat) : Progress :=
  { p with session := { p.session with
      config := p.session.config.paced stopOnFailure delayMs } }

/-- The same run, never found canceled. -/
def Runner.uncanceled (r : Runner) : Runner := { r with canceled := fun _ _ => false }

namespace Runner

variable {r : Runner}

/-- A request does the same under any pace. -/
theorem execute_paced (r : Runner) (config : RunConfig) (stopOnFailure : Bool) (delayMs : Nat)
    (values : Variables) (index : Nat) (item : RequestItem) (shared : Shared) :
    r.execute (config.paced stopOnFailure delayMs) values index item shared =
      r.execute config values index item shared := by
  unfold execute prepare send conclude RunConfig.paced
  rfl

theorem advance_paced (index : Nat) (item : RequestItem) (p : Progress) (stopOnFailure : Bool)
    (delayMs : Nat) :
    r.advance index item (p.paced stopOnFailure delayMs) =
      ((r.advance index item p).1, (r.advance index item p).2.paced stopOnFailure delayMs) := by
  have same := r.execute_paced p.session.config stopOnFailure delayMs p.session.values index item
    p.shared
  unfold advance Progress.paced Progress.tell
  simp only [same]
  rfl

theorem through_paced (index : Nat) (items : List RequestItem) (p : Progress)
    (stopOnFailure : Bool) (delayMs : Nat) :
    r.through index items (p.paced stopOnFailure delayMs) =
      (r.through index items p).paced stopOnFailure delayMs := by
  induction items generalizing index p with
  | nil => rfl
  | cons item rest ih => rw [through, advance_paced, ih, through]

theorem advance_uncanceled (index : Nat) (item : RequestItem) (p : Progress) :
    r.uncanceled.advance index item p = r.advance index item p := rfl

theorem through_uncanceled (index : Nat) (items : List RequestItem) (p : Progress) :
    r.uncanceled.through index items p = r.through index items p := by
  induction items generalizing index p with
  | nil => rfl
  | cons item rest ih => rw [through, advance_uncanceled, ih, through]

/-- Requests only add to what was sent. -/
theorem sent_prefix_through (index : Nat) (items : List RequestItem) (p : Progress) :
    p.shared.sent <+: (r.through index items p).shared.sent := by
  induction items generalizing index p with
  | nil => exact List.prefix_rfl
  | cons item rest ih =>
    have first := (r.execute_reported p.session.config p.session.values index item p.shared).sent
    rw [← advance_shared] at first
    exact first.trans (ih (index + 1) (r.advance index item p).2)

/-- A run that is never found canceled goes on if it does not stop at failures or meets none. -/
theorem uncanceled_undisturbed {index : Nat} {items : List RequestItem} {p : Progress}
    (passes : p.session.config.stopOnFailure = true →
      ∀ result ∈ (r.through index items p).session.results, result.isFailure = false) :
    r.uncanceled.Undisturbed index items p := by
  induction items generalizing index p with
  | nil => trivial
  | cons item rest ih =>
    refine ⟨⟨rfl, ?_⟩, ih passes⟩
    rw [advance_uncanceled]
    cases stops : p.session.config.stopOnFailure with
    | false => rfl
    | true =>
      refine passes stops _ ((results_prefix_through (index + 1) rest _).subset ?_)
      rw [advance_results]
      exact List.mem_append_right _ (List.mem_singleton.mpr rfl)

/-! ## Where a run comes to -/

/-- The run that starts from `p` comes to a progress before the request at an index. -/
inductive ComesTo (r : Runner) (items : List RequestItem) (p : Progress) : Nat → Progress → Prop
  | start : ComesTo r items p 0 p
  | next {n : Nat} {q : Progress} {item : RequestItem} :
    ComesTo r items p n q → items[n]? = some item → r.GoesOn n item q →
    ComesTo r items p (n + 1) (r.advance n item q).2

/-- From where a run comes to it goes on to its end. -/
theorem ComesTo.proceed_eq {items : List RequestItem} {p q : Progress} {n : Nat}
    (comes : r.ComesTo items p n q) : r.proceed 0 items p = r.proceed n (items.drop n) q := by
  induction comes with
  | start => rfl
  | @next n q item _ there goesOn ih =>
    obtain ⟨small, rfl⟩ := List.getElem?_eq_some_iff.mp there
    have onward : r.Undisturbed n [items[n]] q := ⟨goesOn, trivial⟩
    rw [ih, List.drop_eq_getElem_cons small, ← List.singleton_append, proceed_append onward]
    rfl

/-- Where nothing disturbs the first requests, the loop of a run comes to the one after them. -/
theorem Undisturbed.comesTo {items front back : List RequestItem} {p : Progress}
    (undisturbed : r.Undisturbed 0 front p) (split : items = front ++ back) :
    r.ComesTo items p front.length (r.through 0 front p) := by
  induction front using List.reverseRecOn generalizing back with
  | nil => exact .start
  | append_singleton front item ih =>
    rw [List.append_assoc] at split
    obtain ⟨earlier, goesOn⟩ := undisturbed_concat.mp undisturbed
    rw [Nat.zero_add] at goesOn
    rw [through_concat, List.length_append, List.length_singleton, Nat.zero_add]
    exact .next (ih earlier split) (by simp [split]) goesOn

/-- What the loop of a run comes to is what it took before, with nothing to disturb it. -/
theorem ComesTo.undisturbed {items : List RequestItem} {p q : Progress} {n : Nat}
    (comes : r.ComesTo items p n q) :
    r.Undisturbed 0 (items.take n) p ∧ q = r.through 0 (items.take n) p := by
  induction comes with
  | start => exact ⟨trivial, rfl⟩
  | @next n q item _ there goesOn ih =>
    obtain ⟨small, rfl⟩ := List.getElem?_eq_some_iff.mp there
    obtain ⟨earlier, rfl⟩ := ih
    have length : 0 + (items.take n).length = n := by
      rw [List.length_take]
      omega
    rw [List.take_succ_eq_append_getElem small, undisturbed_concat, through_concat, length]
    exact ⟨⟨earlier, goesOn⟩, rfl⟩

/-! ## Truncated runs -/

theorem take_through_results (items : List RequestItem) {p : Progress}
    (fresh : p.session.results = []) (n : Nat) :
    (r.through 0 items p).session.results.take n =
      (r.through 0 (items.take n) p).session.results := by
  have before := results_prefix_through (0 + (items.take n).length) (items.drop n)
    (r.through 0 (items.take n) p) (r := r)
  rw [← through_append, List.take_append_drop, List.prefix_iff_eq_take, length_through fresh,
    List.length_take] at before
  rw [before, List.take_eq_take_min, length_through fresh]

/-- The result of a request is what became of it after those before it. -/
theorem getElem?_through_results {items : List RequestItem} {item : RequestItem} {p : Progress}
    {n : Nat} (fresh : p.session.results = []) (there : items[n]? = some item) :
    (r.through 0 items p).session.results[n]? =
      some (r.advance n item (r.through 0 (items.take n) p)).1 := by
  obtain ⟨small, rfl⟩ := List.getElem?_eq_some_iff.mp there
  have length : (items.take n).length = n := List.length_take_of_le (Nat.le_of_lt small)
  have results : (r.through 0 (items.take n) p).session.results.length = n := by
    rw [length_through fresh, length]
  have taken := take_through_results items fresh (n + 1) (r := r)
  rw [List.take_succ_eq_append_getElem small, through_concat, advance_results, length,
    Nat.zero_add] at taken
  rw [← List.getElem?_take_of_lt (Nat.lt_succ_self n), taken,
    List.getElem?_append_right (Nat.le_of_eq results), results, Nat.sub_self,
    List.getElem?_cons_zero]

/-- A run that ended as `cut` did until the request at `n` what the one that started from `p` and
ended as `full` did, and skipped the rest. -/
structure Truncates (r : Runner) (items : List RequestItem) (p full cut : Progress) (n : Nat) :
    Prop where
  results : cut.session.results = full.session.results.take n ++
    (items.drop n).mapIdx fun i item => RequestResult.skipped (n + i) (.ofItem item)
  sent : cut.shared.sent <+: full.shared.sent
  /-- What the variables are in the end they were before the request at `n`. -/
  stands : ∃ q, r.ComesTo items p n q ∧ r.proceed n (items.drop n) q = .ok full ∧
    cut.session.values = q.session.values ∧ cut.shared = q.shared

/-- However a run is over, it truncates the one that is not canceled and does not stop. -/
theorem Halts.truncates {items taken left : List RequestItem} {p : Progress}
    {stopOnFailure : Bool} {delayMs : Nat} {status : RunStatus}
    (halts : r.Halts items (p.paced stopOnFailure delayMs) taken left status)
    (running : p.session.status = .running) (goesOn : p.session.config.stopOnFailure = false)
    (fresh : p.session.results = []) :
    Truncates r.uncanceled items p (r.uncanceled.halted items [] .completed p)
      (r.halted taken left status (p.paced stopOnFailure delayMs)) taken.length := by
  have split := halts.split
  have undisturbed : ∀ items, r.uncanceled.Undisturbed 0 items p := fun items =>
    uncanceled_undisturbed fun stops => by cases goesOn.symm.trans stops
  have comes := (undisturbed taken).comesTo split
  have full : r.uncanceled.Halts items p items [] .completed := .completed (undisturbed items)
  refine ⟨?_, ?_, r.through 0 taken p, ?_, ?_, ?_, ?_⟩
  · rw [halted_results, halted_results, through_paced, through_uncanceled, List.mapIdx_nil,
      List.append_nil, take_through_results items fresh, split, List.take_left, List.drop_left]
    rfl
  · rw [halted_shared, halted_shared, through_paced, through_uncanceled, split, through_append]
    exact sent_prefix_through (0 + taken.length) left (r.through 0 taken p)
  · rw [through_uncanceled] at comes
    exact comes
  · rw [through_uncanceled] at comes
    exact comes.proceed_eq.symm.trans (full.proceed_eq running)
  · rw [halted_values, through_paced]
    rfl
  · rw [halted_shared, through_paced]
    rfl

/-- A run that stops at failures and would meet none goes through. -/
theorem halts_of_noFailure {items : List RequestItem} {p : Progress} (delayMs : Nat)
    (noFailure : (r.through 0 items p).session.results.findIdx? (·.isFailure) = none) :
    r.uncanceled.Halts items (p.paced true delayMs) items [] .completed := by
  refine .completed (uncanceled_undisturbed fun _ => ?_)
  rw [through_paced]
  exact List.findIdx?_eq_none_iff.mp noFailure

/-- A run that stops at failures stops right after the first. -/
theorem halts_at_first_failure {items : List RequestItem} {p : Progress} {f : Nat}
    (fresh : p.session.results = []) (delayMs : Nat)
    (first : (r.through 0 items p).session.results.findIdx? (·.isFailure) = some f) :
    ∃ taken left, taken.length = f + 1 ∧
      r.uncanceled.Halts items (p.paced true delayMs) taken left .stopped := by
  obtain ⟨small, failure, earlier⟩ := List.findIdx?_eq_some_iff_getElem.mp first
  have inside : f < items.length := by
    rw [length_through fresh] at small
    exact small
  have split : items = items.take f ++ items[f] :: items.drop (f + 1) := by
    rw [← List.drop_eq_getElem_cons inside, List.take_append_drop]
  have length : (items.take f).length = f := List.length_take_of_le (Nat.le_of_lt inside)
  have result := getElem?_through_results fresh (List.getElem?_eq_getElem inside) (r := r)
  rw [List.getElem?_eq_getElem small, Option.some.injEq] at result
  refine ⟨items.take f ++ [items[f]], items.drop (f + 1), ?_, .stopped split ?_ rfl rfl ?_⟩
  · rw [List.length_append, List.length_singleton, length]
  · refine uncanceled_undisturbed fun _ before member => ?_
    rw [through_paced] at member
    have among : before ∈ (r.through 0 items p).session.results.take f := by
      rw [take_through_results items fresh]
      exact member
    obtain ⟨i, bound, rfl⟩ := List.mem_take_iff_getElem.mp among
    exact Bool.eq_false_iff.mpr (earlier i (by omega))
  · rw [through_uncanceled, through_paced, advance_uncanceled, advance_paced, length, ← result]
    exact failure

/-- A run that is found canceled before a request it comes to halts there. -/
theorem ComesTo.halts {items : List RequestItem} {p q : Progress} {c : Nat}
    (comes : r.ComesTo items p c q) (inside : c < items.length)
    (flag : r.canceled c q.shared.sent = true) :
    ∃ taken left, taken.length = c ∧ r.Halts items p taken left .canceled := by
  obtain ⟨undisturbed, rfl⟩ := comes.undisturbed
  have split : items = items.take c ++ items[c] :: items.drop (c + 1) := by
    rw [← List.drop_eq_getElem_cons inside, List.take_append_drop]
  have length : (items.take c).length = c := List.length_take_of_le (Nat.le_of_lt inside)
  refine ⟨items.take c, _, length, .canceled split undisturbed ?_⟩
  rw [length]
  exact flag

end Runner

/-- Two runs ended alike, but for what they say of their settings and of what they told. -/
structure Progress.Agrees (p q : Progress) : Prop where
  status : p.session.status = q.session.status
  results : p.session.results = q.session.results
  values : p.session.values = q.session.values
  shared : p.shared = q.shared

/-- How a run was paced does not show in what it leaves, but for its settings and its events. -/
theorem Runner.halted_paced_agrees (r : Runner) (taken left : List RequestItem)
    (status : RunStatus) (p : Progress) (stopOnFailure : Bool) (delayMs : Nat) :
    (r.halted taken left status (p.paced stopOnFailure delayMs)).Agrees
      (r.halted taken left status p) where
  status := by rw [halted_status, halted_status]
  results := by
    rw [halted_results, halted_results, through_paced]
    rfl
  values := by
    rw [halted_values, halted_values, through_paced]
    rfl
  shared := by
    rw [halted_shared, halted_shared, through_paced]
    rfl

section

variable {r : Runner} {collection : Collection} {folder : Option String} {config : RunConfig}
  {items : List RequestItem} {environment : Option Environment} {shared : Shared}

theorem Runner.opening_paced (stopOnFailure : Bool) (delayMs : Nat) :
    r.opening collection folder environment (config.paced stopOnFailure delayMs) shared items =
      (r.opening collection folder environment config shared items).paced stopOnFailure delayMs :=
  rfl

theorem Runner.opening_uncanceled :
    r.uncanceled.opening collection folder environment config shared items =
      r.opening collection folder environment config shared items := rfl

/-- A run with another pace, told by how it halts. -/
theorem Runner.Halts.run_paced_eq {taken left : List RequestItem} {status : RunStatus}
    {stopOnFailure : Bool} {delayMs : Nat}
    (halts : r.Halts items
      ((r.opening collection folder environment config shared items).paced stopOnFailure delayMs)
      taken left status)
    (valid : config.validate = .ok ()) (short : delayMs ≤ RunConfig.maxDelayMs)
    (found : requests collection folder = .ok items) :
    r.run collection folder environment (config.paced stopOnFailure delayMs) shared =
      .ok (r.halted taken left status
        ((r.opening collection folder environment config shared items).paced stopOnFailure
          delayMs)) := by
  rw [← opening_paced] at halts ⊢
  exact halts.run_eq (RunConfig.validate_paced valid stopOnFailure short) found

end

/-- Take a run that is not canceled and does not stop at failures, and let it end as `full`.  With
any delay, the run that stops at failures agrees with it when there is none, and otherwise truncates
it right after the first; the run that is canceled truncates it before the first request at which
it finds the flag. -/
theorem run_truncated (r : Runner) {collection : Collection} {folder : Option String}
    {config : RunConfig} {items : List RequestItem} (valid : config.validate = .ok ())
    (goesOn : config.stopOnFailure = false)
    (found : Runner.requests collection folder = .ok items) {delayMs : Nat}
    (short : delayMs ≤ RunConfig.maxDelayMs) (environment : Option Environment) (shared : Shared) :
    let start (config : RunConfig) := r.opening collection folder environment config shared items
    ∃ full, r.uncanceled.run collection folder environment config shared = .ok full ∧
      (full.session.results.findIdx? (·.isFailure) = none →
        ∃ p, r.uncanceled.run collection folder environment (config.paced true delayMs) shared =
          .ok p ∧ p.Agrees full) ∧
      (∀ f, full.session.results.findIdx? (·.isFailure) = some f →
        ∃ p, r.uncanceled.run collection folder environment (config.paced true delayMs) shared =
          .ok p ∧ p.session.status = .stopped ∧
          r.uncanceled.Truncates items (start config) full p (f + 1)) ∧
      ∀ (c : Nat) (q : Progress), c < items.length →
        r.ComesTo items (start (config.paced false delayMs)) c q →
        r.canceled c q.shared.sent = true →
        ∃ p, r.run collection folder environment (config.paced false delayMs) shared = .ok p ∧
          p.session.status = .canceled ∧
          r.uncanceled.Truncates items (start config) full p c := by
  intro start
  have fresh : (start config).session.results = [] := rfl
  have full : r.uncanceled.Halts items
      (r.uncanceled.opening collection folder environment config shared items) items []
      .completed :=
    .completed (Runner.uncanceled_undisturbed fun stops => by cases goesOn.symm.trans stops)
  have ran := full.run_eq valid found
  rw [Runner.opening_uncanceled] at ran
  have results : (r.uncanceled.halted items [] .completed (start config)).session.results =
      (r.through 0 items (start config)).session.results := by
    rw [Runner.halted_results, Runner.through_uncanceled, List.mapIdx_nil, List.append_nil]
  refine ⟨r.uncanceled.halted items [] .completed (start config), ran, ?_, ?_, ?_⟩
  · rw [results]
    intro noFailure
    have halts := Runner.halts_of_noFailure delayMs noFailure
    exact ⟨_, halts.run_paced_eq valid short found,
      r.uncanceled.halted_paced_agrees items [] .completed (start config) true delayMs⟩
  · rw [results]
    intro f first
    obtain ⟨taken, left, length, halts⟩ := Runner.halts_at_first_failure fresh delayMs first
    have truncates := halts.truncates rfl goesOn fresh
    rw [length] at truncates
    exact ⟨_, halts.run_paced_eq valid short found, Runner.halted_status _ _ _ _, truncates⟩
  · intro c q inside comes flag
    obtain ⟨taken, left, length, halts⟩ :=
      Runner.ComesTo.halts (p := (start config).paced false delayMs) comes inside flag
    have truncates := halts.truncates rfl goesOn fresh
    rw [length] at truncates
    exact ⟨_, halts.run_paced_eq valid short found, Runner.halted_status _ _ _ _, truncates⟩

/-- Two requests that nothing answers, with and without a delay and a stop at the first failure. -/
theorem run_truncated_of_silence :
    let two : Collection := ⟨"shop", none, [default, default], []⟩
    RunConfig.standard.validate = .ok () ∧ RunConfig.standard.stopOnFailure = false ∧
      Runner.requests two none = .ok two.requests ∧ 100 ≤ RunConfig.maxDelayMs ∧
      ∃ full p, Runner.unanswered.run two none none .standard default = .ok full ∧
        full.session.results.findIdx? (·.isFailure) = some 0 ∧
        Runner.unanswered.run two none none (RunConfig.standard.paced true 100) default = .ok p ∧
        p.session.status = .stopped ∧
        p.session.results = full.session.results.take 1 ++ [.skipped 1 (.ofItem default)] := by
  intro two
  have valid : RunConfig.standard.validate = .ok () := rfl
  have found : Runner.requests two none = .ok two.requests := rfl
  have short : 100 ≤ RunConfig.maxDelayMs := by decide
  obtain ⟨full, ran, -, stops, -⟩ := run_truncated .unanswered valid rfl found short none default
  have told : (Runner.unanswered.run two none none .standard default).toOption.map
      (·.session.results.findIdx? (·.isFailure)) = some (some 0) := by decide +kernel
  rw [show Runner.unanswered.run two none none .standard default = .ok full from ran] at told
  have first : full.session.results.findIdx? (·.isFailure) = some 0 := Option.some.inj told
  obtain ⟨p, stopped, status, truncates⟩ := stops 0 first
  exact ⟨valid, rfl, found, short, full, p, ran, first, stopped, status, truncates.results⟩

end CollectionRunner
