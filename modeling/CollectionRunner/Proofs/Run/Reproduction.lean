import CollectionRunner.Proofs.Run.Course
import CollectionRunner.Proofs.Run.Outcome
import CollectionRunner.Proofs.Script.Traces

/-!
# Results that reproduce the variables of a run

The changes that the results of a run report, one result after the other and in each the script
before the request first, are one log for each store (`logOf`).  Main statement: `run_reproduces`.
However a run is over, its log replayed onto what a store held at first gives what it holds in the
end, every entry tells what its variable held before it, and between its two scripts each request
works on the replay of the log so far.

`Prepared.Logged` and `Concluded` say this of the two scripts of one request, `Reproduced` of a run
that goes on; each request keeps the latter (`Reproduced.advance`).
-/

namespace CollectionRunner

/-! ## One script of a request -/

/-- The changes to a store by a script that may not have run. -/
def changesOf (script : Option ScriptResult) (store : Store) : List Change :=
  script.toList.flatMap (·.changes store)

theorem changesOf_some (result : ScriptResult) (store : Store) :
    changesOf (some result) store = result.changes store :=
  List.flatMap_singleton _ _

/-- What the script before a request left, when it found the variables `values` and `shared`. -/
structure Prepared.Logged (values : Variables) (shared : Shared) (p : Prepared) : Prop where
  faithful : ∀ store : Store,
    (store.variables values shared.globals).Faithful (changesOf p.script store)
  replayed : ∀ store : Store, store.variables p.values p.shared.globals =
    (store.variables values shared.globals).replay (changesOf p.script store)
  sent : shared.sent <+: p.shared.sent

/-- The script before a request reports all that it did to the variables, also when it failed. -/
theorem Runner.prepare_logged (r : Runner) (config : RunConfig) (values : Variables)
    (index : Nat) (item : RequestItem) (shared : Shared) :
    (r.prepare config values index item shared).Logged values shared := by
  unfold prepare
  split
  · exact ⟨fun _ => trivial, fun _ => rfl, List.prefix_rfl⟩
  · rename_i script _
    obtain ⟨faithful, globals, sent⟩ := r.scripting.execute_leaves (r.around index .preRequest)
      config.scriptTimeout script
      ⟨.editable item.request, none, values, shared.globals, shared.sent⟩
    refine ⟨fun store => ?_, fun store => ?_, sent⟩
    · rw [changesOf_some]
      exact faithful store
    · rw [changesOf_some]
      cases store with
      | environment => rfl
      | globals => exact globals

/-- What the script after a response left, when it found the variables `values` and `shared`. -/
structure Concluded (values : Variables) (shared : Shared) (script : Option ScriptResult)
    (after : Shared) : Prop where
  faithful : ∀ store : Store,
    (store.variables values shared.globals).Faithful (changesOf script store)
  globals : after.globals.values = shared.globals.values.replay (changesOf script .globals)
  sent : shared.sent <+: after.sent

/-- The script after a response reports all that it did to the variables, also when it failed. -/
theorem Runner.conclude_concluded (r : Runner) (config : RunConfig) (values : Variables)
    (index : Nat) (item : RequestItem) (request : Request) (response : Response)
    (shared : Shared) :
    Concluded values shared (r.conclude config values index item request response shared).1
      (r.conclude config values index item request response shared).2 := by
  unfold conclude
  split
  · exact ⟨fun _ => trivial, rfl, List.prefix_rfl⟩
  · rename_i script _
    obtain ⟨faithful, globals, sent⟩ := r.scripting.execute_leaves (r.around index .postResponse)
      config.scriptTimeout script
      ⟨.readOnly request, some response, values, shared.globals, shared.sent⟩
    refine ⟨fun store => ?_, ?_, sent⟩
    · rw [changesOf_some]
      exact faithful store
    · rw [changesOf_some]
      exact globals

/-! ## One request -/

/-- The changes to a store by the scripts of a request, in the order they were made. -/
def RequestResult.changes (result : RequestResult) (store : Store) : List Change :=
  changesOf result.preScript store ++ changesOf result.postScript store

/-- What a request worked on: its script before found `before` in the stores, and its placeholders
and its script after found `between`.  `p` is what there was between, and `sent` are the requests
sent in the end. -/
structure WorkedOn (r : Runner) (config : RunConfig) (index : Nat) (item : RequestItem)
    (before between : Store → Variables) (sent : List Request) (result : RequestResult)
    (p : Prepared) : Prop where
  prepared : ∃ earlier, p = r.prepare config (before .environment) index item
    ⟨⟨before .globals⟩, earlier⟩
  preScript : result.preScript = p.script
  between : ∀ store : Store, store.variables p.values p.shared.globals = between store
  /-- The placeholders of the request that is sent are those of `p`. -/
  placeholders : result.preScript.bind (·.error) = none →
    p.request.Resolved (.visible p.shared.globals.values p.values) p.outgoing ∧
      result.info.url = p.outgoing.url ∧ p.shared.sent ++ [p.outgoing] <+: sent
  postScript : ∀ response, result.response = some response →
    result.postScript = (r.conclude config p.values index item p.outgoing response p.sent).1

/-- What a request worked on does not change when more is sent later. -/
theorem WorkedOn.mono {r : Runner} {config : RunConfig} {index : Nat} {item : RequestItem}
    {before between : Store → Variables} {sent later : List Request} {result : RequestResult}
    {p : Prepared} (worked : WorkedOn r config index item before between sent result p)
    (grown : sent <+: later) : WorkedOn r config index item before between later result p where
  prepared := worked.prepared
  preScript := worked.preScript
  between := worked.between
  placeholders := by
    intro ended
    obtain ⟨resolved, reported, sends⟩ := worked.placeholders ended
    exact ⟨resolved, reported, sends.trans grown⟩
  postScript := worked.postScript

/-- What the result of a request reports, when its script before found `values` and `shared`. -/
structure Reported (r : Runner) (config : RunConfig) (values : Variables) (index : Nat)
    (item : RequestItem) (shared : Shared) (result : RequestResult) (after : Shared) : Prop where
  faithful : ∀ store : Store,
    (store.variables values shared.globals).Faithful (result.changes store)
  globals : after.globals.values = shared.globals.values.replay (result.changes .globals)
  sent : shared.sent <+: after.sent
  worked : ∃ p, WorkedOn r config index item (Store.variables values shared.globals)
    (fun store => (store.variables values shared.globals).replay (changesOf result.preScript store))
    after.sent result p

/-- Whether the first script failed, nobody answered or the request was judged, its result reports
all that its scripts did to the variables, and what the second script and the placeholders found is
what the first one reports to have left. -/
theorem Runner.execute_reported (r : Runner) (config : RunConfig) (values : Variables)
    (index : Nat) (item : RequestItem) (shared : Shared) :
    Reported r config values index item shared (r.execute config values index item shared).1
      (r.execute config values index item shared).2 := by
  generalize prepared : r.prepare config values index item shared = p
  have logged := r.prepare_logged config values index item shared
  rw [prepared] at logged
  rcases r.execute_cases config values index item shared prepared with
    ⟨e, failed, outcome⟩ | ⟨e, ending, refused, outcome⟩ | ⟨response, ending, answered, outcome⟩
  · rw [outcome]
    have log : ∀ store, ((p.result index item).withError (.script .preRequest e)).changes store =
        changesOf p.script store := fun store => List.append_nil _
    exact {
      faithful := fun store => by rw [log]; exact logged.faithful store
      globals := by rw [log]; exact logged.replayed .globals
      sent := logged.sent
      worked := ⟨p, {
        prepared := ⟨_, prepared.symm⟩
        preScript := rfl
        between := logged.replayed
        placeholders := fun ended => by cases failed.symm.trans ended
        postScript := fun _ none => by cases none }⟩ }
  · rw [outcome]
    have log : ∀ store, ((p.asked index item).withError (.transport e)).changes store =
        changesOf p.script store := fun store => List.append_nil _
    exact {
      faithful := fun store => by rw [log]; exact logged.faithful store
      globals := by rw [log]; exact logged.replayed .globals
      sent := logged.sent.trans (List.prefix_append _ _)
      worked := ⟨p, {
        prepared := ⟨_, prepared.symm⟩
        preScript := rfl
        between := logged.replayed
        placeholders := fun _ => ⟨p.outgoing_resolved, rfl, List.prefix_rfl⟩
        postScript := fun _ none => by cases none }⟩ }
  · have concluded :=
      r.conclude_concluded config p.values index item p.outgoing response p.sent
    have judged := RequestResult.judged_spec { p.asked index item with
      response := some response
      postScript := (r.conclude config p.values index item p.outgoing response p.sent).1 }
    rw [outcome]
    refine {
      faithful := fun store => ?_
      globals := ?_
      sent := (logged.sent.trans (List.prefix_append _ _)).trans concluded.sent
      worked := ⟨p, {
        prepared := ⟨_, prepared.symm⟩
        preScript := judged.preScript
        between := by rw [judged.preScript]; exact logged.replayed
        placeholders := fun _ => ⟨p.outgoing_resolved, by rw [judged.info]; rfl, concluded.sent⟩
        postScript := by
          intro received same
          rw [judged.response] at same
          cases same
          exact judged.postScript }⟩ }
    · rw [RequestResult.changes, judged.preScript, judged.postScript]
      refine Variables.faithful_append.mpr ⟨logged.faithful store, ?_⟩
      have later := concluded.faithful store
      rw [show store.variables p.values p.sent.globals = _ from logged.replayed store] at later
      exact later
    · rw [RequestResult.changes, judged.preScript, judged.postScript, Variables.replay_append,
        concluded.globals]
      rw [show p.sent.globals.values = _ from logged.replayed .globals]
      rfl

/-! ## A run that goes on -/

/-- The log of a store that results report, one result after the other. -/
def logOf (results : List RequestResult) (store : Store) : List Change :=
  results.flatMap (·.changes store)

theorem logOf_concat (results : List RequestResult) (result : RequestResult) (store : Store) :
    logOf (results ++ [result]) store = logOf results store ++ result.changes store := by
  rw [logOf, List.flatMap_append, List.flatMap_singleton]
  rfl

/-- Requests that were skipped add nothing to a log. -/
theorem logOf_append_skipped (results : List RequestResult) (left : List RequestItem)
    (index : Nat) (store : Store) :
    logOf (results ++
      left.mapIdx fun i item => RequestResult.skipped (index + i) (.ofItem item)) store =
        logOf results store := by
  have nothing : logOf (left.mapIdx fun i item =>
      RequestResult.skipped (index + i) (.ofItem item)) store = [] := by
    unfold logOf
    rw [List.flatMap_eq_nil_iff]
    intro result member
    obtain ⟨i, _, rfl⟩ := List.mem_mapIdx.mp member
    rfl
  unfold logOf at nothing ⊢
  rw [List.flatMap_append, nothing, List.append_nil]

theorem changesOf_environment (script : Option ScriptResult) :
    changesOf script .environment = (script.map ScriptResult.envChanges).getD [] := by
  cases script with
  | none => rfl
  | some result => exact changesOf_some result .environment

/-- The session replays what the result of a request reports, in the same order. -/
theorem Runner.advance_values (r : Runner) (index : Nat) (item : RequestItem) (p : Progress) :
    (r.advance index item p).2.session.values =
      p.session.values.replay ((r.advance index item p).1.changes .environment) := by
  rw [RequestResult.changes, changesOf_environment, changesOf_environment,
    Variables.replay_append]
  rfl

/-- The results of a run reproduce its variables, when the stores held `origin` at first. -/
structure Reproduced (r : Runner) (config : RunConfig) (items : List RequestItem)
    (origin : Store → Variables) (p : Progress) : Prop where
  settings : p.session.config = config
  replayed : ∀ store : Store, store.variables p.session.values p.shared.globals =
    (origin store).replay (logOf p.session.results store)
  faithful : ∀ store, (origin store).Faithful (logOf p.session.results store)
  /-- A request that was taken starts from the log before it, and goes on from that log with the
  changes of its script before. -/
  worked : ∀ (i : Nat) (item : RequestItem) (result : RequestResult), items[i]? = some item →
    p.session.results[i]? = some result → result.status ≠ .skipped →
    ∃ prepared, WorkedOn r config i item
      (fun store => (origin store).replay (logOf (p.session.results.take i) store))
      (fun store => (origin store).replay
        (logOf (p.session.results.take i) store ++ changesOf result.preScript store))
      p.shared.sent result prepared

/-- The run before it took anything. -/
theorem Reproduced.opening (r : Runner) (collection : Collection) (folder : Option String)
    (environment : Option Environment) (config : RunConfig) (shared : Shared)
    (items : List RequestItem) :
    Reproduced r config items
      (Store.variables ((environment.map Environment.values).getD .empty) shared.globals)
      (r.opening collection folder environment config shared items) where
  settings := rfl
  replayed := fun _ => rfl
  faithful := fun _ => trivial
  worked := fun _ _ _ _ found => by cases found

/-- A request adds to the logs what its scripts changed, in the session and in the results alike. -/
theorem Reproduced.advance {r : Runner} {config : RunConfig} {items : List RequestItem}
    {origin : Store → Variables} {n : Nat} {p : Progress}
    (reproduced : Reproduced r config items origin p) (length : p.session.results.length = n)
    {item : RequestItem} (there : items[n]? = some item) :
    Reproduced r config items origin (r.advance n item p).2 := by
  have reported := r.execute_reported p.session.config p.session.values n item p.shared
  rw [← Runner.advance_result, ← Runner.advance_shared, reproduced.settings] at reported
  have found : ∀ store : Store, store.variables p.session.values p.shared.globals =
    (origin store).replay (logOf p.session.results store) := reproduced.replayed
  refine ⟨reproduced.settings, fun store => ?_, fun store => ?_, ?_⟩
  · rw [Runner.advance_results, logOf_concat, Variables.replay_append, ← found]
    cases store with
    | environment => exact r.advance_values n item p
    | globals => exact reported.globals
  · rw [Runner.advance_results, logOf_concat]
    refine Variables.faithful_append.mpr ⟨reproduced.faithful store, ?_⟩
    rw [← found]
    exact reported.faithful store
  · intro i other result there' listed taken
    rcases Runner.getElem?_advance_results length listed with ⟨before, earlier⟩ | ⟨rfl, rfl⟩
    · rw [Runner.advance_results, List.take_append_of_le_length (by omega)]
      obtain ⟨prepared, worked⟩ := reproduced.worked i other result there' earlier taken
      exact ⟨prepared, worked.mono reported.sent⟩
    · cases there.symm.trans there'
      have earlier : (p.session.results ++ [(r.advance i item p).1]).take i =
          p.session.results := by
        rw [← length, List.take_left]
      -- what the request found and went on with, told by the log instead of by the progress
      have before : (fun store => (origin store).replay (logOf p.session.results store)) =
          Store.variables p.session.values p.shared.globals :=
        funext fun store => (found store).symm
      obtain ⟨prepared, worked⟩ := reported.worked
      refine ⟨prepared, ?_⟩
      simp only [Runner.advance_results, earlier, Variables.replay_append, before]
      simp only [← found]
      exact worked

theorem Reproduced.through {r : Runner} {config : RunConfig} {items front back : List RequestItem}
    {origin : Store → Variables} {p : Progress} (reproduced : Reproduced r config items origin p)
    (fresh : p.session.results = []) (split : items = front ++ back) :
    Reproduced r config items origin (r.through 0 front p) :=
  Runner.through_preserves (P := fun _ => Reproduced r config items origin)
    (fun _ _ _ there length reproduced => reproduced.advance length there) fresh reproduced split

/-! ## A run that is over -/

/-- What a run left adds nothing to what it took. -/
theorem Reproduced.halted {r : Runner} {config : RunConfig} {items taken : List RequestItem}
    {origin : Store → Variables} {p : Progress}
    (reproduced : Reproduced r config items origin (r.through 0 taken p))
    (fresh : p.session.results = []) (left : List RequestItem) (status : RunStatus) :
    Reproduced r config items origin (r.halted taken left status p) := by
  obtain ⟨settings, replayed, faithful, worked⟩ := reproduced
  have log : ∀ store, logOf (r.halted taken left status p).session.results store =
      logOf (r.through 0 taken p).session.results store := fun store => by
    rw [Runner.halted_results, logOf_append_skipped]
  refine ⟨?_, fun store => ?_, fun store => ?_, ?_⟩
  · rw [Runner.halted_config, ← settings, Runner.through_config]
  · rw [Runner.halted_values, Runner.halted_shared, log]
    exact replayed store
  · rw [log]
    exact faithful store
  · intro i item result there found took
    rcases Nat.lt_or_ge i taken.length with before | after
    · have length : (r.through 0 taken p).session.results.length = taken.length :=
        Runner.length_through fresh
      rw [Runner.getElem?_halted_results_of_lt fresh before] at found
      rw [Runner.halted_shared, Runner.halted_results, List.take_append_of_le_length (by omega)]
      exact worked i item result there found took
    · rw [Runner.getElem?_halted_results_of_le fresh after, Option.map_eq_some_iff] at found
      obtain ⟨_, -, rfl⟩ := found
      exact absurd rfl took

/-- However a run is over, the logs of its results replayed onto what the stores held at first give
what they hold in the end, every entry tells what its variable held before it, and each request that
was taken worked on the replay of the log up to it, from its script before on with what that script
changed.  The caller's environment is only read. -/
theorem run_reproduces (r : Runner) {collection : Collection} {folder : Option String}
    {config : RunConfig} {items : List RequestItem} (valid : config.validate = .ok ())
    (found : Runner.requests collection folder = .ok items) (environment : Option Environment)
    (shared : Shared) :
    ∃ p, r.run collection folder environment config shared = .ok p ∧
      Reproduced r config items
        (Store.variables ((environment.map Environment.values).getD .empty) shared.globals) p ∧
      ∀ (store : Store) (i : Nat) (change : Change),
        (logOf p.session.results store)[i]? = some change →
        change.previous = ((store.variables ((environment.map Environment.values).getD .empty)
          shared.globals).replay ((logOf p.session.results store).take i)).get? change.name := by
  obtain ⟨taken, left, status, halts, ran⟩ :=
    r.run_eq_halted valid found environment shared
  have before := (Reproduced.opening r collection folder environment config shared items).through
    rfl halts.split
  have reproduced := before.halted rfl left status
  exact ⟨_, ran, reproduced, fun store i change entry =>
    (reproduced.faithful store).previous_eq entry⟩

/-- A runner whose requests nothing answers. -/
def Runner.unanswered : Runner :=
  ⟨Script.conduct, fun _ _ => .silence, fun _ _ => false, default, 0⟩

/-- One request, the script before which sets a variable twice and then fails. -/
def failingRequest : Collection :=
  ⟨"shop", none, [{ (default : RequestItem) with
    preRequestScript :=
      some "env.set(\"token\", \"a\"); env.set(\"token\", \"b\"); missing.length;" }], []⟩

/-- What a script did before it failed is in the log. -/
theorem run_reproduces_of_failing :
    RunConfig.standard.validate = .ok () ∧
      Runner.requests failingRequest none = .ok failingRequest.requests ∧
      ∃ p, Runner.unanswered.run failingRequest none none .standard default = .ok p ∧
        p.session.results.map (·.status) = [.error] ∧
        logOf p.session.results .environment =
          [⟨.set, "token", some "a", none⟩, ⟨.set, "token", some "b", some "a"⟩] ∧
        p.session.values = Variables.empty.replay (logOf p.session.results .environment) := by
  have valid : RunConfig.standard.validate = .ok () := rfl
  have found : Runner.requests failingRequest none = .ok failingRequest.requests := rfl
  obtain ⟨p, ran, reproduced, -⟩ := run_reproduces .unanswered valid found none default
  have told : (Runner.unanswered.run failingRequest none none .standard default).toOption.map
      (fun p => (p.session.results.map (·.status), logOf p.session.results .environment)) =
      some ([.error], [⟨.set, "token", some "a", none⟩, ⟨.set, "token", some "b", some "a"⟩]) := by
    decide +kernel
  rw [ran] at told
  obtain ⟨failed, logged⟩ := Prod.mk.inj (Option.some.inj told)
  exact ⟨valid, found, p, ran, failed, logged, reproduced.replayed .environment⟩

end CollectionRunner
