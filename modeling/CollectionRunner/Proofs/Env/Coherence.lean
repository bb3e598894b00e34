import CollectionRunner.Proofs.Env.Replay

/-!
# Coherence of trackers

A tracker is used by assignments and commits in any order.  Each of them keeps it tracking what was
below it at first (`Tracker.Tracks.call`), although a commit moves what is below under a log that
stays and is replayed again.  Main statement: `Tracker.calls_coherent`.  However a tracker was used,
reading it is reading its snapshot, an assignment logs one change and moves one variable, and a
commit moves no variable at all.
-/

namespace CollectionRunner

/-! ## The last change of a log -/

/-- The change after which no other has its name is the last of that name. -/
theorem Change.last?_of_split {front back : List Change} {change : Change}
    (later : ∀ c ∈ back, c.name ≠ change.name) :
    last? change.name (front ++ change :: back) = some change := by
  have none_later : back.reverse.find? (·.name == change.name) = none := by
    rw [List.find?_eq_none]
    intro c member
    simpa using later c (List.mem_reverse.mp member)
  unfold last?
  rw [List.reverse_append, List.reverse_cons, List.append_assoc, List.find?_append, none_later]
  simp

theorem Change.last?_of_unnamed {log : List Change} {name : String}
    (unnamed : ∀ c ∈ log, c.name ≠ name) : last? name log = none := by
  unfold last?
  rw [List.find?_eq_none]
  intro c member
  simpa using unnamed c (List.mem_reverse.mp member)

/-- What a log makes of variables is decided, one variable at a time, by the last change that names
it, whatever the variables held before. -/
structure Change.LastDecides (log : List Change) : Prop where
  named : ∀ (vars : Variables) (front back : List Change) (change : Change),
    log = front ++ change :: back → (∀ c ∈ back, c.name ≠ change.name) →
    (vars.replay log).get? change.name = change.written
  unnamed : ∀ (vars : Variables) (name : String), (∀ c ∈ log, c.name ≠ name) →
    (vars.replay log).get? name = vars.get? name
  again : ∀ vars : Variables, (vars.replay log).replay log = vars.replay log

/-- The last change of a name decides what a replay leaves of it. -/
theorem Change.lastDecides (log : List Change) : LastDecides log where
  named := by
    intro vars front back change split later
    rw [Variables.get?_replay, split, last?_of_split later]
    rfl
  unnamed := by
    intro vars name unnamed
    rw [Variables.get?_replay, last?_of_unnamed unnamed]
    rfl
  again := fun vars => vars.replay_replay log

namespace Tracker

/-! ## Calls -/

/-- A call that changes a tracker. -/
inductive Call
  | set (name value : String)
  | unset (name : String)
  | commit
  deriving DecidableEq, Repr

/-- The tracker after a call. -/
def call (t : Tracker) : Call → Tracker
  | .set name value => t.set name value
  | .unset name => t.unset name
  | .commit => t.commit

/-- The tracker after calls, one after the other. -/
def calls (t : Tracker) (cs : List Call) : Tracker := cs.foldl call t

@[simp]
theorem snapshot_commit (t : Tracker) : t.commit.snapshot = t.snapshot :=
  t.base.replay_replay t.log

theorem Tracks.commit {origin : Variables} {t : Tracker} (tracks : t.Tracks origin) :
    t.commit.Tracks origin where
  valued := tracks.valued
  faithful := tracks.faithful
  snapshot := (snapshot_commit t).trans tracks.snapshot

theorem Tracks.call {origin : Variables} {t : Tracker} (tracks : t.Tracks origin) (c : Call) :
    (t.call c).Tracks origin := by
  cases c with
  | set name value => exact tracks.set name value
  | unset name => exact tracks.unset name
  | commit => exact tracks.commit

theorem Tracks.calls {origin : Variables} {t : Tracker} (tracks : t.Tracks origin)
    (cs : List Call) : (t.calls cs).Tracks origin := by
  induction cs generalizing t with
  | nil => exact tracks
  | cons c rest ih => exact ih (tracks.call c)

/-- However a tracker was used, it tracks what was below it at first, where nothing counts as no
variables. -/
theorem calls_tracks (backing : Option Variables) (cs : List Call) :
    ((ofBacking backing).calls cs).Tracks (backing.getD .empty) :=
  (Tracks.ofBacking backing).calls cs

/-! ## What a call does -/

/-- The tracker `t'` is `t` with one change logged: the variable it names is moved and no other, and
what is below the log stays. -/
structure Logs (t t' : Tracker) (change : Change) : Prop where
  log : t'.log = t.log ++ [change]
  backing : t'.backing = t.backing
  get : ∀ name, t'.get? name = if name = change.name then change.outcome else t.get? name

/-- Logging a change moves the variable it names, as the last entry for a name counts. -/
theorem logs_concat (t : Tracker) (change : Change) :
    Logs t { t with log := t.log ++ [change] } change where
  log := rfl
  backing := rfl
  get := by
    intro name
    unfold get?
    rw [lastOutcome_eq, Change.last?_concat]
    by_cases named : name = change.name
    · simp [named]
    · simp [named, lastOutcome_eq]

/-- The tracker `t'` is `t` with its log carried over to what is below: no variable is moved, and
doing it again changes nothing. -/
structure Commits (t t' : Tracker) : Prop where
  log : t'.log = t.log
  backing : t'.backing = some t.snapshot
  get : ∀ name, t'.get? name = t.get? name
  again : t'.commit = t'

/-- A commit is not noticed by reads, as the snapshot stays. -/
theorem Tracks.commits {origin : Variables} {t : Tracker} (tracks : t.Tracks origin) :
    Commits t t.commit where
  log := rfl
  backing := rfl
  get := by
    intro name
    rw [get?_eq_snapshot tracks.commit.valued, snapshot_commit, get?_eq_snapshot tracks.valued]
  again := calc
    t.commit.commit = { t with backing := some t.commit.snapshot } := rfl
    _ = { t with backing := some t.snapshot } := by rw [snapshot_commit]
    _ = t.commit := rfl

/-! ## Coherence -/

/-- Reads, snapshot, log and the variables below it fit together, and stay so under every call. -/
structure Coherent (t : Tracker) : Prop where
  get : ∀ name, t.get? name = t.snapshot.get? name
  has : ∀ name, t.has name = true ↔ ∃ value, t.get? name = some value
  set : ∀ name value, Logs t (t.set name value) (.setting name value (t.get? name))
  unset : ∀ name, Logs t (t.unset name) (.unsetting name (t.get? name))
  commit : Commits t t.commit

/-- However a tracker was used, it is coherent.  What any log makes of any variables is decided by
the last change to each. -/
theorem calls_coherent (backing : Option Variables) (cs : List Call) :
    ((ofBacking backing).calls cs).Coherent ∧ ∀ log, Change.LastDecides log := by
  have tracks := calls_tracks backing cs
  refine ⟨?_, Change.lastDecides⟩
  exact {
    get := get?_eq_snapshot tracks.valued
    has := fun _ => Option.isSome_iff_exists
    set := fun _ _ => logs_concat _ _
    unset := fun _ => logs_concat _ _
    commit := tracks.commits }

end Tracker

end CollectionRunner
