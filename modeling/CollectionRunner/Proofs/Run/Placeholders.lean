import CollectionRunner.Proofs.Env.Expansion
import CollectionRunner.Proofs.Run.Dispatch
import CollectionRunner.Proofs.Script.Endings

/-!
# What placeholders mean around a script

Two ways lead to the variables that placeholders see.  A request that a script sends itself sees what
the script's trackers show; the request after the script sees what the script committed to the global
variables, with an environment that its log was replayed onto.  Main statement:
`Runner.placeholders_agree`.  At the end of a script both come to the same, as the snapshot of a
tracker is the replay of its log (`Runner.visible_prepare`), and what they come to is what the trackers
answer then (`Host.Evolves.get?_visible`).
-/

namespace CollectionRunner

/-! ## Inside a script -/

/-- The value of a name at a moment of a script. -/
def Host.live (h : Host) (name : String) : Option String :=
  (h.environment.get? name).or (h.globals.get? name)

/-- What placeholders see inside a script is what its trackers answer at that moment. -/
theorem Host.Evolves.get?_visible {o : Occasion} {h : Host} (evolves : o.host.Evolves h) :
    h.visible.get? = h.live := by
  have environment := (evolves.tracks (o.tracks_host .environment)).valued
  have globals := (evolves.tracks (o.tracks_host .globals)).valued
  funext name
  have upper : h.environment.get? name = h.environment.snapshot.get? name :=
    Tracker.get?_eq_snapshot environment name
  have lower : h.globals.get? name = h.globals.snapshot.get? name :=
    Tracker.get?_eq_snapshot globals name
  unfold visible Variables.visible live
  rw [Variables.get?_override, upper, lower]

/-- What a computation did to the host stays when another one follows. -/
theorem Eval.evolves_bind {α β : Type} (x : Eval α) (f : α → Eval β) (m : Machine) :
    (x.run m).2.host.Evolves ((x >>= f).run m).2.host := by
  change (x m).1.2.host.Evolves (andThen x f m).1.2.host
  unfold andThen
  rcases x m with ⟨⟨s | a, m₁⟩, leads⟩
  · exact .refl _
  · exact (f a).evolves m₁

namespace Native

/-- A request that a script sends is the next one that is sent, whatever comes of it. -/
theorem sent_sendOnce (sender : Sender) (request : Request) (m : Machine) :
    m.host.sent ++ [request] <+: ((sendOnce (some sender) request).run m).2.host.sent := by
  obtain ⟨rest, sends⟩ : ∃ rest : Host → Eval (Except String Response),
      sendOnce (some sender) request =
        Eval.host >>= fun host => Eval.perform (.send request) >>= fun _ => rest host :=
    ⟨_, rfl⟩
  have run : (sendOnce (some sender) request).run m =
      (Eval.perform (.send request) >>= fun _ => rest m.host).run m := by
    rw [sends]
    rfl
  rw [run]
  have stays := Eval.evolves_bind (Eval.perform (.send request)) (fun _ => rest m.host) m
  exact stays.sent_prefix

/-- What a script describes is sent with its live variables in it. -/
theorem sent_sendDescribed (sender : Sender) {target : ScriptValue} {request : Request}
    (described : describedRequest target = .ok request) (m : Machine) :
    m.host.sent ++ [request.expandHead m.host.visible] <+:
      ((sendDescribed (some sender) target).run m).2.host.sent := by
  have run : (sendDescribed (some sender) target).run m =
      (sendOnce (some sender) (request.expandHead m.host.visible)).run m := by
    unfold sendDescribed
    rw [described]
    rfl
  rw [run]
  exact sent_sendOnce sender _ m

/-- A script that calls `sendRequest` sends what it describes with its live variables in it. -/
theorem answer?_sendRequest {caller : Caller} {sender : Sender} {target : Datum}
    {request : Request} (sends : caller.surroundings.sender = some sender)
    (described : describedRequest target.toValue = .ok request) (f : FunctionName)
    (captured : List Nat) (m : Machine) :
    ∃ ended, answer? caller "sendRequest" [target, .function f captured] m = some ended ∧
      m.host.sent ++ [request.expandHead m.host.visible] <+: ended.2.host.sent := by
  refine ⟨_, rfl, ?_⟩
  have sent := sent_sendDescribed sender described m
  rw [← sends] at sent
  let send := sendDescribed caller.surroundings.sender target.toValue
  let callBack : Except String Response → Eval Unit := fun result => do
    let _ ← caller.apply f captured none (outcome result)
  have called := Eval.evolves_bind send callBack m
  have given := Eval.evolves_bind (send >>= callBack)
    (fun _ => pure (Datum.unit, (none : Option Datum))) m
  have stays := called.trans given
  exact sent.trans stays.sent_prefix

end Native

/-! ## After a script -/

namespace Scripting

variable (scripting : Scripting) (around : Surroundings) (budget : Duration) (script : String)
  (o : Occasion)

theorem snapshot_ending (store : Store) :
    ((scripting.ending around budget script o).tracker store).snapshot =
      (store.variables o.environment o.globals).replay
        ((scripting.execute around budget script o).result.changes store) := by
  have tracks := (scripting.ending_evolves around budget script o).tracks (o.tracks_host store)
  rw [tracks.snapshot, execute_changes]

theorem sent_ending :
    (scripting.ending around budget script o).sent =
      (scripting.execute around budget script o).sent := by
  unfold ending execute
  split
  · rfl
  · rfl

end Scripting

/-- A script is run as it is, or it is blank and is not run. -/
theorem nonBlank_cases (script : Option String) :
    nonBlank script = some (script.getD "") ∨
      nonBlank script = none ∧ Text.isBlank (script.getD "") = true := by
  unfold nonBlank
  cases script with
  | none => exact .inr ⟨rfl, rfl⟩
  | some text =>
    cases blank : Text.isBlank text with
    | true => exact .inr ⟨by rw [Option.filter_some, blank]; rfl, blank⟩
    | false => exact .inl (by rw [Option.filter_some, blank]; rfl)

/-- The variables that the placeholders of a request see. -/
def Prepared.visible (p : Prepared) : Variables := .visible p.shared.globals.values p.values

namespace Runner

variable (r : Runner) (config : RunConfig) (values : Variables) (index : Nat) (item : RequestItem)
  (shared : Shared)

/-- The host at the end of the script before a request. No script is like a blank one. -/
def atEnd : Host :=
  r.scripting.ending (r.around index .preRequest) config.scriptTimeout
    (item.preRequestScript.getD "") (.before item values shared)

/-- What the next request starts from is what the script before it reports and committed. No script
is like a blank one. -/
theorem prepare_of_ending :
    let p := r.prepare config values index item shared
    let a := r.scripting.execute (r.around index .preRequest) config.scriptTimeout
      (item.preRequestScript.getD "") (.before item values shared)
    p.values = values.replay (a.result.changes .environment) ∧ p.shared = ⟨a.globals, a.sent⟩ := by
  intro p a
  have prepared : p = _ := r.prepare_eq config values index item shared
  rw [prepared]
  unfold before
  rcases nonBlank_cases item.preRequestScript with written | ⟨unwritten, blank⟩
  · rw [written]
    exact ⟨rfl, rfl⟩
  · have nothing : a = ⟨.empty, .editable item.request, shared.globals, shared.sent⟩ :=
      if_pos blank
    rw [unwritten, nothing]
    exact ⟨rfl, rfl⟩

/-- What a script shows at its end is what the placeholders after it see. -/
theorem visible_prepare :
    (r.prepare config values index item shared).visible =
      (r.atEnd config values index item shared).visible := by
  obtain ⟨environment, sharedAfter⟩ := r.prepare_of_ending config values index item shared
  have globals := (r.scripting.execute_leaves (r.around index .preRequest) config.scriptTimeout
    (item.preRequestScript.getD "") (.before item values shared)).globals
  have upper : (r.atEnd config values index item shared).environment.snapshot = _ :=
    r.scripting.snapshot_ending _ _ _ _ .environment
  have lower : (r.atEnd config values index item shared).globals.snapshot = _ :=
    r.scripting.snapshot_ending _ _ _ _ .globals
  unfold Prepared.visible Host.visible
  rw [environment, sharedAfter, globals, upper, lower]
  rfl

theorem sent_prepare :
    (r.prepare config values index item shared).shared.sent =
      (r.atEnd config values index item shared).sent := by
  rw [(r.prepare_of_ending config values index item shared).2]
  exact (r.scripting.sent_ending _ _ _ _).symm

/-- The request of the run is sent right after those of the script before it. -/
theorem execute_sends_outgoing :
    let p := r.prepare config values index item shared
    p.script.bind (·.error) = none →
      p.shared.sent ++ [p.outgoing] <+: (r.execute config values index item shared).2.sent := by
  intro p ended
  rcases r.execute_cases config values index item shared (p := p) rfl with
    ⟨e, failed, -⟩ | ⟨e, -, -, outcome⟩ | ⟨response, -, -, outcome⟩
  · cases failed.symm.trans ended
  · rw [outcome]
    exact List.prefix_rfl
  · rw [outcome, conclude_sent]
    exact List.prefix_append _ _

end Runner

/-! ## One meaning -/

/-- Placeholders mean the same to the requests that a script sends at its end, where its host is `h`,
and to the request that is sent after it, for which `p` was prepared. -/
structure Prepared.Agrees (h : Host) (p : Prepared) (after : Shared) : Prop where
  same : ∀ text, h.visible.expand text = p.visible.expand text
  /-- A name means what the environment answers then, else what the global variables answer. -/
  live : ∀ text, p.visible.expand text =
    String.ofList ((Placeholder.segments text.toList).flatMap (Placeholder.Segment.shown h.live))
  inside : ∀ (caller : Caller) (sender : Sender) (target : Datum) (request : Request)
    (f : FunctionName) (captured : List Nat) (m : Machine), m.host = h →
    caller.surroundings.sender = some sender →
    Native.describedRequest target.toValue = .ok request →
    ∃ ended sent,
      Native.answer? caller "sendRequest" [target, .function f captured] m = some ended ∧
      request.HeadResolved h.visible sent ∧ sent.body = request.body ∧
      h.sent ++ [sent] <+: ended.2.host.sent
  outside : p.script.bind (·.error) = none →
    ∃ sent, p.request.Resolved p.visible sent ∧ h.sent ++ [sent] <+: after.sent

/-- Whatever the script before a request does to the variables, a placeholder that the script sends at
its end means what it means in the request that is sent then. -/
theorem Runner.placeholders_agree (r : Runner) (config : RunConfig) (values : Variables)
    (index : Nat) (item : RequestItem) (shared : Shared) :
    (r.prepare config values index item shared).Agrees
      (r.atEnd config values index item shared)
      (r.execute config values index item shared).2 := by
  have visible := r.visible_prepare config values index item shared
  have live := (r.scripting.ending_evolves (r.around index .preRequest) config.scriptTimeout
    (item.preRequestScript.getD "") (.before item values shared)).get?_visible
  refine {
    same := fun text => by rw [visible]
    live := fun text => ?live
    inside := ?inside
    outside := fun ended => ?outside }
  case live =>
    rw [visible, Variables.expand_eq]
    exact congrArg (fun value? => String.ofList
      ((Placeholder.segments text.toList).flatMap (Placeholder.Segment.shown value?))) live
  case inside =>
    rintro caller sender target request f captured m atEnd sends described
    rw [← atEnd]
    obtain ⟨ended, answered, sent⟩ := Native.answer?_sendRequest sends described f captured m
    exact ⟨ended, _, answered, request.expandHead_resolved _, rfl, sent⟩
  case outside =>
    rw [← sent_prepare]
    exact ⟨_, Request.expand_resolved _ _,
      r.execute_sends_outgoing config values index item shared ended⟩

end CollectionRunner
