import CollectionRunner.Proofs.Run.Outcome
import CollectionRunner.Proofs.Script.Views

/-!
# What a request sends

A request passes through the view that the script before it may change, through its placeholders, and
through the view that the script after its response may only look at.  Main statement:
`Runner.execute_dispatches`.  Between what its two scripts send themselves, a request sends exactly
one request, which is what the first script left with its placeholders expanded; the result reports
that one, and the second script is shown that one at every moment.  Nothing of this depends on whether
the first script marked its view, because an edited view is written back whole
(`Runner.prepare_request`).
-/

namespace CollectionRunner

/-! ## What a script leaves of its request -/

/-- The requests that a script sent itself. -/
def Aftermath.own (o : Occasion) (a : Aftermath) : List Request := a.sent.drop o.sent.length

theorem Aftermath.Leaves.sent_eq {o : Occasion} {a : Aftermath} (leaves : a.Leaves o) :
    a.sent = o.sent ++ a.own o :=
  (List.prefix_iff_eq_append.mp leaves.sent).symm

theorem Scripting.execute_edits (scripting : Scripting) (around : Surroundings)
    (budget : Duration) (script : String) (o : Occasion) :
    RequestView.Edits o.request (scripting.execute around budget script o).request := by
  unfold execute
  split
  · exact .refl _
  · exact (scripting script around budget o.host).evolves.edits

/-- A view that may only be looked at is never marked as modified. -/
theorem Scripting.requestModified_of_readOnly (scripting : Scripting) (around : Surroundings)
    (budget : Duration) (script : String) {o : Occasion} {r : Request}
    (shown : o.request = .readOnly r) :
    (scripting.execute around budget script o).result.requestModified = false := by
  unfold execute
  split
  · rfl
  · have edits := (scripting script around budget o.host).evolves.edits
    have same : (scripting script around budget o.host).host.request = .readOnly r := by
      rw [edits.readOnly (by rw [show o.host.request = _ from shown]; rfl)]
      exact shown
    change (scripting script around budget o.host).host.request.modified = false
    rw [same]
    rfl

/-! ## The two scripts of a request -/

/-- What the script before a request finds. -/
def Occasion.before (item : RequestItem) (values : Variables) (shared : Shared) : Occasion :=
  ⟨.editable item.request, none, values, shared.globals, shared.sent⟩

/-- What the script after a response finds. -/
def Occasion.after (p : Prepared) (response : Response) : Occasion :=
  ⟨.readOnly p.outgoing, some response, p.values, p.sent.globals, p.sent.sent⟩

namespace Runner

variable (r : Runner) (config : RunConfig) (values : Variables) (index : Nat) (item : RequestItem)
  (shared : Shared) (p : Prepared)

/-- What is there after the script before a request, if it has one. -/
def before : Option Aftermath :=
  (nonBlank item.preRequestScript).map fun script =>
    r.scripting.execute (r.around index .preRequest) config.scriptTimeout script
      (.before item values shared)

/-- What is there after the script after a response, if there is one. -/
def after (response : Response) : Option Aftermath :=
  (nonBlank item.postResponseScript).map fun script =>
    r.scripting.execute (r.around index .postResponse) config.scriptTimeout script
      (.after p response)

/-- The request that the script before it left, which is its own if there is no script. -/
def snapshot : Request :=
  match r.before config values index item shared with
  | some a => a.request.request
  | none => item.request

/-- What the script before a request sent. -/
def sentBefore : List Request :=
  match r.before config values index item shared with
  | some a => a.own (.before item values shared)
  | none => []

/-- What the script after the response sent, if there was a response. -/
def sentAfter : Reply → List Request
  | .response response =>
    match r.after config index item p response with
    | some a => a.own (.after p response)
    | none => []
  | _ => []

/-- A request is prepared by its script, if it has one that is not blank. -/
theorem prepare_eq :
    r.prepare config values index item shared =
      match r.before config values index item shared with
      | some a => ⟨some a.result, a.request.applyTo item.request,
          values.replay a.result.envChanges, ⟨a.globals, a.sent⟩⟩
      | none => ⟨none, item.request, values, shared⟩ := by
  unfold prepare before
  cases nonBlank item.preRequestScript with
  | some script => rfl
  | none => rfl

theorem conclude_eq (response : Response) :
    r.conclude config p.values index item p.outgoing response p.sent =
      match r.after config index item p response with
      | some a => (some a.result, ⟨a.globals, a.sent⟩)
      | none => (none, p.sent) := by
  unfold conclude after
  cases nonBlank item.postResponseScript with
  | some script => rfl
  | none => rfl

theorem before_edits {a : Aftermath} (ran : r.before config values index item shared = some a) :
    RequestView.Edits (.editable item.request) a.request := by
  obtain ⟨script, -, rfl⟩ := Option.map_eq_some_iff.mp ran
  exact r.scripting.execute_edits _ _ script (.before item values shared)

/-- What is sent on is what the script left, marked as modified or not. -/
theorem prepare_request :
    (r.prepare config values index item shared).request =
      r.snapshot config values index item shared := by
  rw [prepare_eq]
  unfold snapshot
  cases ran : r.before config values index item shared with
  | some a => exact (r.before_edits config values index item shared ran).applyTo_eq
  | none => rfl

theorem snapshot_method :
    (r.snapshot config values index item shared).method = Text.asciiUpper item.method := by
  unfold snapshot
  cases ran : r.before config values index item shared with
  | some a => exact (r.before_edits config values index item shared ran).method
  | none => rfl

/-- Preparing a request sends only what its script sends. -/
theorem prepare_sent :
    (r.prepare config values index item shared).shared.sent =
      shared.sent ++ r.sentBefore config values index item shared := by
  rw [prepare_eq]
  unfold sentBefore
  cases ran : r.before config values index item shared with
  | some a =>
    obtain ⟨script, -, rfl⟩ := Option.map_eq_some_iff.mp ran
    exact (r.scripting.execute_leaves _ _ script (.before item values shared)).sent_eq
  | none => exact (List.append_nil _).symm

/-- The script after a response adds what it sends itself to what was sent before. -/
theorem conclude_sent (response : Response) :
    (r.conclude config p.values index item p.outgoing response p.sent).2.sent =
      p.sent.sent ++ r.sentAfter config index item p (.response response) := by
  rw [conclude_eq]
  unfold sentAfter
  simp only
  cases ran : r.after config index item p response with
  | some a =>
    obtain ⟨script, -, rfl⟩ := Option.map_eq_some_iff.mp ran
    exact (r.scripting.execute_leaves _ _ script (.after p response)).sent_eq
  | none => exact (List.append_nil _).symm

/-- The script after a response does not change the request. -/
theorem conclude_unmodified {response : Response} {script : ScriptResult}
    (ran : (r.conclude config p.values index item p.outgoing response p.sent).1 = some script) :
    script.requestModified = false := by
  rw [conclude_eq] at ran
  cases found : r.after config index item p response with
  | some a =>
    rw [found] at ran
    cases ran
    obtain ⟨source, -, rfl⟩ := Option.map_eq_some_iff.mp found
    exact r.scripting.requestModified_of_readOnly _ _ source rfl
  | none =>
    rw [found] at ran
    cases ran

theorem sentAfter_of_refusal {reply : Reply} {timeout : Duration} {e : TransportError}
    (refused : reply.refusal timeout = some e) : r.sentAfter config index item p reply = [] := by
  cases reply with
  | response response => cases refused
  | failure cause => rfl
  | silence => rfl

end Runner

/-! ## What is sent, reported and shown -/

/-- What is sent and shown, where `snapshot` is what the first script left of the request. -/
structure Prepared.Resolves (item : RequestItem) (snapshot : Request) (p : Prepared) : Prop where
  outgoing : snapshot.Resolved (.visible p.shared.globals.values p.values) p.outgoing
  method : p.outgoing.method = Text.asciiUpper item.method
  headers : p.outgoing.headers.map Header.name = snapshot.headers.map Header.name
  body : p.outgoing.body.isSome = snapshot.body.isSome
  /-- The second script sees the request that was sent, wherever it comes to. -/
  shown : ∀ (response : Response) (h : Host), (Occasion.after p response).host.Evolves h →
    h.request = .readOnly p.outgoing

/-- What is sent is what the first script left, with the variables of that moment in it. -/
theorem Runner.prepare_resolves (r : Runner) (config : RunConfig) (values : Variables)
    (index : Nat) (item : RequestItem) (shared : Shared) :
    (r.prepare config values index item shared).Resolves item
      (r.snapshot config values index item shared) := by
  have request := r.prepare_request config values index item shared
  have method := r.snapshot_method config values index item shared
  rw [← request] at method ⊢
  exact {
    outgoing := Prepared.outgoing_resolved _
    method := method
    headers := List.map_map
    body := Option.isSome_map
    shown := fun _ _ evolves => evolves.edits.readOnly rfl }

/-- What a request sends, reports and shows to its second script.  The first script left `snapshot`
of it and sent `byScript`, and `p` is what there was then. -/
structure Dispatched (r : Runner) (config : RunConfig) (index : Nat) (item : RequestItem)
    (shared : Shared) (snapshot : Request) (byScript : List Request) (p : Prepared)
    (result : RequestResult) (after : Shared) : Prop where
  resolves : p.Resolves item snapshot
  /-- The first script ended with an error: nothing is sent but by that script. -/
  failed : ∀ e, p.script.bind (·.error) = some e → after.sent = shared.sent ++ byScript
  /-- There was no such error: one request is sent between those of the scripts. -/
  sent : p.script.bind (·.error) = none → after.sent = shared.sent ++ byScript ++ [p.outgoing] ++
    r.sentAfter config index item p (r.sender p.shared.sent p.outgoing)
  reported : p.script.bind (·.error) = none →
    result.info.url = p.outgoing.url ∧ result.info.method = p.outgoing.method
  postScript : p.script.bind (·.error) = none → ∀ response,
    r.sender p.shared.sent p.outgoing = .response response →
    result.postScript = (r.after config index item p response).map Aftermath.result
  unmodified : ∀ script, result.postScript = some script → script.requestModified = false

/-- Every request sends, reports and shows one and the same request, whatever its scripts and the
sender do. -/
theorem Runner.execute_dispatches (r : Runner) (config : RunConfig) (values : Variables)
    (index : Nat) (item : RequestItem) (shared : Shared) :
    let ended := r.execute config values index item shared
    Dispatched r config index item shared (r.snapshot config values index item shared)
      (r.sentBefore config values index item shared)
      (r.prepare config values index item shared) ended.1 ended.2 := by
  intro ended
  have resolves := r.prepare_resolves config values index item shared
  have sent := r.prepare_sent config values index item shared
  generalize prepared : r.prepare config values index item shared = p at resolves sent ⊢
  rcases r.execute_cases config values index item shared prepared with
    ⟨e, failed, outcome⟩ | ⟨e, ending, refused, outcome⟩ | ⟨response, ending, answered, outcome⟩
  · change ended = _ at outcome
    rw [outcome]
    exact {
      resolves := resolves
      failed := fun _ _ => sent
      sent := fun ending => by cases failed.symm.trans ending
      reported := fun ending => by cases failed.symm.trans ending
      postScript := fun ending => by cases failed.symm.trans ending
      unmodified := nofun }
  · change ended = _ at outcome
    rw [outcome]
    exact {
      resolves := resolves
      failed := fun cause same => by cases ending.symm.trans same
      sent := by
        intro _
        rw [r.sentAfter_of_refusal config index item p refused, List.append_nil, ← sent]
        rfl
      reported := fun _ => ⟨rfl, resolves.method.symm⟩
      postScript := by
        intro _ response answered
        rw [answered] at refused
        cases refused
      unmodified := nofun }
  · have judged := RequestResult.judged_spec { p.asked index item with
      response := some response
      postScript := (r.conclude config p.values index item p.outgoing response p.sent).1 }
    change ended = _ at outcome
    rw [outcome]
    exact {
      resolves := resolves
      failed := fun cause same => by cases ending.symm.trans same
      sent := by
        intro _
        rw [answered, ← sent]
        exact r.conclude_sent config index item p response
      reported := by
        intro _
        rw [judged.info]
        exact ⟨rfl, resolves.method.symm⟩
      postScript := by
        intro _ received same
        cases answered.symm.trans same
        rw [judged.postScript, conclude_eq]
        cases r.after config index item p response with
        | some a => rfl
        | none => rfl
      unmodified := by
        intro script ran
        rw [judged.postScript] at ran
        exact r.conclude_unmodified config index item p ran }

end CollectionRunner
