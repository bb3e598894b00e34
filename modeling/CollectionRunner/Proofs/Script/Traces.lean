import CollectionRunner.Proofs.Env.Replay
import CollectionRunner.Script.Execution

/-!
# Traces of scripts

However a script runs and ends, what it does to its host goes through `Host.apply`, so its two
trackers keep tracking the variables it was given (`Host.Evolves.tracks`) and it only adds to the
requests sent (`Host.Evolves.sent_prefix`).  `Scripting.execute_leaves` reads off what an executed
script leaves behind: logs that are faithful to what it was given, and global variables that its log
was replayed onto once.
-/

namespace CollectionRunner

/-! ## One effect -/

@[simp]
theorem Host.tracker_onRequest (h : Host) (view : Option RequestView) (store : Store) :
    (h.onRequest view).tracker store = h.tracker store := by
  cases view <;> cases store <;> rfl

@[simp]
theorem Host.sent_onRequest (h : Host) (view : Option RequestView) :
    (h.onRequest view).sent = h.sent := by
  cases view <;> rfl

theorem Host.tracker_onTracker (h : Host) (changed store : Store) (f : Tracker → Tracker) :
    (h.onTracker changed f).tracker store =
      if store = changed then f (h.tracker store) else h.tracker store := by
  cases changed <;> cases store <;> rfl

@[simp]
theorem Host.sent_onTracker (h : Host) (store : Store) (f : Tracker → Tracker) :
    (h.onTracker store f).sent = h.sent := by
  cases store <;> rfl

@[simp]
theorem Host.tracker_begin (h : Host) (store : Store) : h.begin.tracker store = h.tracker store := by
  cases store <;> rfl

@[simp]
theorem Host.tracker_record (h : Host) (r : AssertionResult) (store : Store) :
    (h.record r).tracker store = h.tracker store := by
  cases store <;> rfl

/-- An effect leaves the tracked variables of a store, or makes one assignment to them. -/
theorem Host.tracker_apply (h : Host) (e : Effect) (store : Store) :
    (h.apply e).tracker store = h.tracker store ∨
      (∃ name value, (h.apply e).tracker store = (h.tracker store).set name value) ∨
      ∃ name, (h.apply e).tracker store = (h.tracker store).unset name := by
  cases e with
  | setUrl | setHeader | removeHeader | setBody => exact .inl (tracker_onRequest _ _ _)
  | set changed name value =>
    simp only [apply, tracker_onTracker]
    split
    · exact .inr (.inl ⟨name, value, rfl⟩)
    · exact .inl rfl
  | unset changed name =>
    simp only [apply, tracker_onTracker]
    split
    · exact .inr (.inr ⟨name, rfl⟩)
    · exact .inl rfl
  | log | send => exact .inl (by cases store <;> rfl)

theorem Host.sent_prefix_apply (h : Host) (e : Effect) : h.sent <+: (h.apply e).sent := by
  cases e with
  | setUrl | setHeader | removeHeader | setBody =>
    simp only [apply, sent_onRequest]
    exact List.prefix_rfl
  | set | unset =>
    simp only [apply, sent_onTracker]
    exact List.prefix_rfl
  | log => exact List.prefix_rfl
  | send request => exact List.prefix_append _ _

/-! ## Whole scripts -/

/-- What assignments keep of tracked variables holds of them at the end of a script. -/
theorem Host.Evolves.tracker_keeps {start h : Host} (evolves : start.Evolves h) {store : Store}
    {P : Tracker → Prop} (begins : P (start.tracker store))
    (set : ∀ t name value, P t → P (t.set name value))
    (unset : ∀ t name, P t → P (t.unset name)) : P (h.tracker store) := by
  induction evolves with
  | refl => exact begins
  | @effect g e _ ih =>
    rcases g.tracker_apply e store with same | ⟨name, value, assigned⟩ | ⟨name, removed⟩
    · rw [same]
      exact ih
    · rw [assigned]
      exact set _ name value ih
    · rw [removed]
      exact unset _ name ih
  | begin _ ih =>
    rw [tracker_begin]
    exact ih
  | record r _ ih =>
    rw [tracker_record]
    exact ih

theorem Host.Evolves.tracks {start h : Host} (evolves : start.Evolves h) {store : Store}
    {origin : Variables} (tracks : (start.tracker store).Tracks origin) :
    (h.tracker store).Tracks origin :=
  evolves.tracker_keeps tracks (fun _ name value tracks => tracks.set name value)
    (fun _ name tracks => tracks.unset name)

/-- No script commits what it logged. -/
theorem Host.Evolves.backing_eq {start h : Host} (evolves : start.Evolves h) (store : Store) :
    (h.tracker store).backing = (start.tracker store).backing :=
  evolves.tracker_keeps (P := fun t => t.backing = (start.tracker store).backing) rfl
    (fun _ _ _ same => same) (fun _ _ same => same)

theorem Host.Evolves.sent_prefix {start h : Host} (evolves : start.Evolves h) :
    start.sent <+: h.sent := by
  induction evolves with
  | refl => exact List.prefix_rfl
  | effect e _ ih => exact ih.trans (sent_prefix_apply _ e)
  | begin _ ih => exact ih
  | record r _ ih => exact ih

/-! ## What a script leaves behind -/

/-- What a store holds, given what both hold. -/
def Store.variables (environment : Variables) (globals : Globals) (store : Store) : Variables :=
  match store with
  | .environment => environment
  | .globals => globals.values

/-- The log of a script in a store. -/
def ScriptResult.changes (r : ScriptResult) (store : Store) : List Change :=
  match store with
  | .environment => r.envChanges
  | .globals => r.globalChanges

theorem Occasion.tracks_host (o : Occasion) (store : Store) :
    (o.host.tracker store).Tracks (store.variables o.environment o.globals) := by
  cases store with
  | environment => exact .ofBacking (some o.environment)
  | globals => exact .ofBacking (some o.globals.values)

/-- What is there after a script that was executed on an occasion. -/
structure Aftermath.Leaves (o : Occasion) (a : Aftermath) : Prop where
  faithful : ∀ store : Store,
    (store.variables o.environment o.globals).Faithful (a.result.changes store)
  globals : a.globals.values = o.globals.values.replay a.result.globalChanges
  sent : o.sent <+: a.sent

theorem Scripting.execute_leaves (scripting : Scripting) (around : Surroundings)
    (budget : Duration) (script : String) (o : Occasion) :
    (scripting.execute around budget script o).Leaves o := by
  unfold execute
  split
  · exact ⟨fun store => by cases store <;> exact trivial, rfl, List.prefix_rfl⟩
  · have evolves := (scripting script around budget o.host).evolves
    refine ⟨fun store => ?_, rfl, evolves.sent_prefix⟩
    have tracks := evolves.tracks (o.tracks_host store)
    cases store <;> exact tracks.faithful

end CollectionRunner
