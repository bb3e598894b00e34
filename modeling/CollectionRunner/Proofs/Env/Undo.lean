import CollectionRunner.Proofs.Env.Coherence

/-!
# Taking changes back

A change remembers what its variable held before it.  A change that remembers right is taken back by
`Change.undo` (`Change.undo_replay`), and so is a faithful log from its end
(`Variables.Faithful.undo_replay`).  Main statement: `Tracker.calls_undone`.  The log of a tracker
remembers right however the tracker was used, although a commit moves what a later change finds below
the log; so taking it back from the snapshot gives what was below the tracker at first.
-/

namespace CollectionRunner

/-- Take a change back: its variable gets what it held before, or is removed if it held nothing. -/
def Change.undo (vars : Variables) (change : Change) : Variables :=
  match change.previous with
  | some value => vars.set change.name value
  | none => vars.unset change.name

/-- Take the changes of a log back, the last one first. -/
def Variables.undo (vars : Variables) (log : List Change) : Variables :=
  log.reverse.foldl Change.undo vars

theorem Variables.undo_concat (vars : Variables) (log : List Change) (change : Change) :
    vars.undo (log ++ [change]) = (change.undo vars).undo log := by
  unfold undo
  rw [List.reverse_append, List.reverse_singleton, List.singleton_append, List.foldl_cons]

theorem Change.get?_undo (change : Change) (vars : Variables) (name : String) :
    (change.undo vars).get? name =
      if name = change.name then change.previous else vars.get? name := by
  unfold undo
  cases change.previous with
  | some value => exact Variables.get?_set vars change.name value name
  | none => exact Variables.get?_unset vars change.name name

/-- A change that tells what its variable held before it can be taken back. -/
theorem Change.undo_replay {change : Change} {vars : Variables}
    (told : change.previous = vars.get? change.name) : change.undo (change.replay vars) = vars := by
  refine Variables.eq_of_get? fun name => ?_
  rw [get?_undo, get?_replay]
  by_cases named : name = change.name
  · rw [if_pos named, told, named]
  · rw [if_neg named, if_neg named]

/-- A log that is faithful to the variables it starts from can be taken back. -/
theorem Variables.Faithful.undo_replay {vars : Variables} {log : List Change}
    (faithful : vars.Faithful log) : (vars.replay log).undo log = vars := by
  -- from the end, as the last change is taken back first
  induction log using List.reverseRecOn with
  | nil => rfl
  | append_singleton log change ih =>
    obtain ⟨earlier, told, -⟩ := faithful_append.mp faithful
    rw [replay_append, replay_cons, replay_nil, undo_concat, Change.undo_replay told, ih earlier]

/-- Taking back what comes from a place on leaves what came before it. -/
theorem Variables.Faithful.undo_drop {vars : Variables} {log : List Change}
    (faithful : vars.Faithful log) (i : Nat) :
    (vars.replay log).undo (log.drop i) = vars.replay (log.take i) := by
  have parts : vars.Faithful (log.take i ++ log.drop i) := by
    rw [List.take_append_drop]
    exact faithful
  have later : (vars.replay (log.take i)).Faithful (log.drop i) := (faithful_append.mp parts).2
  calc (vars.replay log).undo (log.drop i)
      = ((vars.replay (log.take i)).replay (log.drop i)).undo (log.drop i) := by
        rw [← replay_append, List.take_append_drop]
    _ = vars.replay (log.take i) := later.undo_replay

/-- However a tracker was used, each entry of its log tells what its variable held after the entries
before it, counted from what was below the tracker at first.  So the log can be taken back from the
snapshot, to any place, and as a whole it gives back what was below at first. -/
theorem Tracker.calls_undone (backing : Option Variables) (cs : List Tracker.Call) :
    let t := (Tracker.ofBacking backing).calls cs
    let origin := backing.getD .empty
    (∀ (i : Nat) (change : Change), t.log[i]? = some change →
      change.previous = (origin.replay (t.log.take i)).get? change.name) ∧
    (∀ i : Nat, t.snapshot.undo (t.log.drop i) = origin.replay (t.log.take i)) ∧
    t.snapshot.undo t.log = origin := by
  intro t origin
  have tracks : t.Tracks origin := Tracker.calls_tracks backing cs
  refine ⟨fun i change entry => tracks.faithful.previous_eq entry, fun i => ?_, ?_⟩
  · rw [tracks.snapshot]
    exact tracks.faithful.undo_drop i
  · rw [tracks.snapshot]
    exact tracks.faithful.undo_replay

end CollectionRunner
