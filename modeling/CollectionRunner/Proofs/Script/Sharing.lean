import CollectionRunner.Proofs.Env.Coherence
import CollectionRunner.Proofs.Script.Endings
import Mathlib.Data.List.Nodup
import Mathlib.Logic.Function.Basic

/-!
# Script calls that share the global variables

A script call takes a snapshot of the global store when it begins, logs its assignments on top of it,
and commits the log when it ends; in between others may commit.  `Sharing.Step` is one move of one
call, `Sharing.Run` any interleaving of the moves of any number of calls, and `Scripting.execute_run`
says that a script which is executed is such a call.  Main statement: `Sharing.run_loses_nothing`.
What the store holds is what it held at first with the logs replayed in the order of the commits, and
that depends on the assignments of the calls alone: a snapshot that went stale loses nothing.
-/

namespace CollectionRunner

/-! ## Assignments -/

/-- What a script does to a variable. -/
inductive Assignment
  | set (name value : String)
  | unset (name : String)
  deriving DecidableEq, Repr

def Assignment.name : Assignment → String
  | set name _ => name
  | unset name => name

def Assignment.outcome : Assignment → Option String
  | set _ value => some value
  | unset _ => none

/-- The assignment that a change is the record of. -/
def Change.assignment (change : Change) : Assignment :=
  match change.kind with
  | .set => .set change.name (change.value.getD "")
  | .unset => .unset change.name

def Variables.assign (vars : Variables) : Assignment → Variables
  | .set name value => vars.set name value
  | .unset name => vars.unset name

def Variables.assignAll (vars : Variables) (made : List Assignment) : Variables :=
  made.foldl assign vars

def Tracker.assign (t : Tracker) : Assignment → Tracker
  | .set name value => t.set name value
  | .unset name => t.unset name

def Tracker.assignAll (t : Tracker) (made : List Assignment) : Tracker := made.foldl assign t

theorem Change.replay_eq_assign (change : Change) (vars : Variables) :
    change.replay vars = vars.assign change.assignment := by
  obtain ⟨kind, name, value, previous⟩ := change
  cases kind <;> rfl

/-- To replay a log is to make the assignments that it records, whatever they replaced. -/
theorem Variables.replay_eq_assignAll (vars : Variables) (log : List Change) :
    vars.replay log = vars.assignAll (log.map Change.assignment) := by
  unfold replay assignAll
  rw [List.foldl_map]
  congr 1
  funext vars change
  exact change.replay_eq_assign vars

theorem Variables.assignAll_append (vars : Variables) (first second : List Assignment) :
    vars.assignAll (first ++ second) = (vars.assignAll first).assignAll second :=
  List.foldl_append

theorem Variables.get?_assign (vars : Variables) (a : Assignment) (name : String) :
    (vars.assign a).get? name = if name = a.name then a.outcome else vars.get? name := by
  cases a with
  | set key value => exact get?_set vars key value name
  | unset key => exact get?_unset vars key name

theorem Change.last?_append (name : String) (front back : List Change) :
    last? name (front ++ back) = (last? name back).or (last? name front) := by
  unfold last?
  rw [List.reverse_append, List.find?_append]

/-- The assignments are to different variables. -/
def Apart (first second : List Assignment) : Prop :=
  ∀ a ∈ first, ∀ b ∈ second, a.name ≠ b.name

theorem Variables.assign_comm (vars : Variables) {a b : Assignment} (apart : a.name ≠ b.name) :
    (vars.assign a).assign b = (vars.assign b).assign a := by
  refine eq_of_get? fun name => ?_
  simp only [get?_assign]
  by_cases first : name = a.name
  · have second : name ≠ b.name := fun same => apart (first.symm.trans same)
    rw [if_neg second, if_pos first, if_pos first]
  · rw [if_neg first, if_neg first]

/-- An assignment may be made after others that are to other variables. -/
theorem Variables.assignAll_assign_comm (vars : Variables) {a : Assignment}
    {made : List Assignment} (apart : ∀ b ∈ made, a.name ≠ b.name) :
    (vars.assign a).assignAll made = (vars.assignAll made).assign a := by
  induction made generalizing vars with
  | nil => rfl
  | cons b rest ih =>
    have head : (vars.assign a).assign b = (vars.assign b).assign a :=
      vars.assign_comm (apart b List.mem_cons_self)
    have tail := ih (vars.assign b) fun c member => apart c (List.mem_cons_of_mem _ member)
    unfold assignAll at tail ⊢
    rw [List.foldl_cons, List.foldl_cons, head, tail]

/-- Two sequences of assignments may be made in either order when they are to different variables.
-/
theorem Variables.assignAll_comm (vars : Variables) {first second : List Assignment}
    (apart : Apart first second) :
    (vars.assignAll first).assignAll second = (vars.assignAll second).assignAll first := by
  induction first generalizing vars with
  | nil => rfl
  | cons a rest ih =>
    have head : (vars.assign a).assignAll second = (vars.assignAll second).assign a :=
      vars.assignAll_assign_comm (apart a List.mem_cons_self)
    have tail := ih (vars.assign a) fun b member => apart b (List.mem_cons_of_mem _ member)
    calc (vars.assignAll (a :: rest)).assignAll second
        = ((vars.assign a).assignAll second).assignAll rest := tail
      _ = (vars.assignAll second).assignAll (a :: rest) := by
        rw [head]
        rfl

theorem Tracker.assignment_log_assign (t : Tracker) (a : Assignment) :
    (t.assign a).log.map Change.assignment = t.log.map Change.assignment ++ [a] := by
  cases a with
  | set name value => exact List.map_append
  | unset name => exact List.map_append

/-! ## Calls -/

/-- How far a script call has come. -/
inductive Stage
  | waiting
  | running (tracker : Tracker)
  | finished

/-- What a script call does next. -/
inductive Move
  | begin
  | assign (a : Assignment)
  | commit
  deriving DecidableEq, Repr

/-- Script calls, told apart by numbers, and the global store that they share. -/
structure Sharing where
  store : Globals
  stage : Nat → Stage
  /-- The logs committed so far and the calls that they are of, first one first. -/
  committed : List (Nat × List Change)

namespace Sharing

/-- No call has begun. -/
def start (initial : Globals) : Sharing := ⟨initial, fun _ => .waiting, []⟩

def put (s : Sharing) (i : Nat) (stage : Stage) : Sharing :=
  { s with stage := Function.update s.stage i stage }

def commit (s : Sharing) (i : Nat) (t : Tracker) : Sharing :=
  { s.put i .finished with
    store := s.store.commit t.log
    committed := s.committed ++ [(i, t.log)] }

/-- One move of one call.  A call sees the store when it begins and writes to it when it commits; it
reads its own log and replays it in one move, as no other call adds to that log. -/
inductive Step : Sharing → Nat × Move → Sharing → Prop
  | begin {s : Sharing} {i : Nat} : s.stage i = .waiting →
    Step s (i, .begin) (s.put i (.running (.ofBacking (some s.store.values))))
  | assign {s : Sharing} {i : Nat} {t : Tracker} {a : Assignment} : s.stage i = .running t →
    Step s (i, .assign a) (s.put i (.running (t.assign a)))
  | commit {s : Sharing} {i : Nat} {t : Tracker} : s.stage i = .running t →
    Step s (i, .commit) (s.commit i t)

/-- Moves of the calls, one after the other. -/
inductive Run : Sharing → List (Nat × Move) → Sharing → Prop
  | nil {s : Sharing} : Run s [] s
  | cons {s t u : Sharing} {m : Nat × Move} {schedule : List (Nat × Move)} :
    Step s m t → Run t schedule u → Run s (m :: schedule) u

def commitOf : Nat × Move → Option Nat
  | (i, .commit) => some i
  | _ => none

def assignmentOf (i : Nat) : Nat × Move → Option Assignment
  | (j, .assign a) => if j = i then some a else none
  | _ => none

/-- The calls that commit, in the order in which they do. -/
def commits (schedule : List (Nat × Move)) : List Nat := schedule.filterMap commitOf

/-- The assignments that a call makes. -/
def assignments (schedule : List (Nat × Move)) (i : Nat) : List Assignment :=
  schedule.filterMap (assignmentOf i)

variable {initial : Globals} {s t u : Sharing} {schedule : List (Nat × Move)} {i j : Nat}

@[simp]
theorem stage_put_self (s : Sharing) (i : Nat) (stage : Stage) : (s.put i stage).stage i = stage := by
  simp [put]

theorem stage_put_of_ne (s : Sharing) (other : j ≠ i) (stage : Stage) :
    (s.put i stage).stage j = s.stage j := by
  simp [put, other]

@[simp]
theorem committed_commit (s : Sharing) (i : Nat) (t : Tracker) :
    (s.commit i t).committed = s.committed ++ [(i, t.log)] := rfl

@[simp]
theorem stage_commit (s : Sharing) (i : Nat) (t : Tracker) :
    (s.commit i t).stage = (s.put i .finished).stage := rfl

theorem commits_append (front back : List (Nat × Move)) :
    commits (front ++ back) = commits front ++ commits back :=
  List.filterMap_append

theorem assignments_append (front back : List (Nat × Move)) (i : Nat) :
    assignments (front ++ back) i = assignments front i ++ assignments back i :=
  List.filterMap_append

theorem mem_commits_concat_of_ne (other : j ≠ i) (schedule : List (Nat × Move)) (m : Move) :
    j ∈ commits (schedule ++ [(i, m)]) ↔ j ∈ commits schedule := by
  rw [commits_append]
  cases m with
  | begin | assign => simp [commits, commitOf]
  | commit => simp [commits, commitOf, other]

theorem assignments_concat_of_ne (other : j ≠ i) (schedule : List (Nat × Move)) (m : Move) :
    assignments (schedule ++ [(i, m)]) j = assignments schedule j := by
  rw [assignments_append]
  cases m with
  | begin | commit => exact List.append_nil _
  | assign a => simp [assignments, assignmentOf, Ne.symm other]

/-! ## What a run keeps -/

/-- A call that has come so far fits its part of a schedule. -/
def Fits (schedule : List (Nat × Move)) (i : Nat) : Stage → Prop
  | .waiting => i ∉ commits schedule ∧ assignments schedule i = []
  | .running t => i ∉ commits schedule ∧
    t.log.map Change.assignment = assignments schedule i
  | .finished => True

/-- The calls follow a schedule: the store is made by the logs they committed, and each log is of the
assignments that its call made. -/
structure Follows (initial : Globals) (schedule : List (Nat × Move)) (s : Sharing) : Prop where
  store : s.store.values = initial.values.replay (s.committed.flatMap Prod.snd)
  order : s.committed.map Prod.fst = commits schedule
  once : (commits schedule).Nodup
  logged : ∀ entry ∈ s.committed,
    entry.2.map Change.assignment = assignments schedule entry.1
  fits : ∀ i, Fits schedule i (s.stage i)

theorem Follows.start (initial : Globals) : Follows initial [] (start initial) where
  store := rfl
  order := rfl
  once := List.nodup_nil
  logged := fun _ member => nomatch member
  fits := fun _ => ⟨List.not_mem_nil, rfl⟩

/-- What the other calls committed is not touched by the move of a call that did not commit yet. -/
theorem Follows.logged_concat (follows : Follows initial schedule s)
    (pending : i ∉ commits schedule) (m : Move) : ∀ entry ∈ s.committed,
    entry.2.map Change.assignment = assignments (schedule ++ [(i, m)]) entry.1 := by
  intro entry member
  have other : entry.1 ≠ i := by
    rintro rfl
    rw [← follows.order] at pending
    exact pending (List.mem_map_of_mem member)
  rw [assignments_concat_of_ne other]
  exact follows.logged entry member

/-- Only the call that moves has to be looked at again. -/
theorem Follows.fits_put (follows : Follows initial schedule s) {m : Move} {stage : Stage}
    (own : Fits (schedule ++ [(i, m)]) i stage) :
    ∀ j, Fits (schedule ++ [(i, m)]) j ((s.put i stage).stage j) := by
  intro j
  by_cases same : j = i
  · subst same
    rw [stage_put_self]
    exact own
  · rw [stage_put_of_ne s same]
    have before := follows.fits j
    cases reached : s.stage j with
    | waiting =>
      rw [reached] at before
      obtain ⟨pending, none⟩ := before
      refine ⟨mt (mem_commits_concat_of_ne same schedule m).mp pending, ?_⟩
      rw [assignments_concat_of_ne same, none]
    | running t =>
      rw [reached] at before
      obtain ⟨pending, logged⟩ := before
      refine ⟨mt (mem_commits_concat_of_ne same schedule m).mp pending, ?_⟩
      rw [assignments_concat_of_ne same, logged]
    | finished => trivial

theorem Follows.of_waiting (follows : Follows initial schedule s) (waits : s.stage i = .waiting) :
    i ∉ commits schedule ∧ assignments schedule i = [] := by
  have fits := follows.fits i
  rw [waits] at fits
  exact fits

theorem Follows.of_running (follows : Follows initial schedule s) {t : Tracker}
    (runs : s.stage i = .running t) :
    i ∉ commits schedule ∧ t.log.map Change.assignment = assignments schedule i := by
  have fits := follows.fits i
  rw [runs] at fits
  exact fits

/-- One move of one call keeps the account of the schedule. A begin and an assignment touch the log
of that call alone; a commit adds its log at the end of what makes the store. -/
theorem Follows.step {m : Nat × Move} (follows : Follows initial schedule s) (step : Step s m t) :
    Follows initial (schedule ++ [m]) t := by
  cases step with
  | @begin i waits =>
    obtain ⟨pending, none⟩ := follows.of_waiting waits
    have commits : commits (schedule ++ [(i, .begin)]) = commits schedule := by
      rw [commits_append]
      exact List.append_nil _
    have own : assignments (schedule ++ [(i, .begin)]) i = [] := by
      rw [assignments_append, none]
      rfl
    refine ⟨follows.store, ?_, ?_, follows.logged_concat pending .begin,
      follows.fits_put ⟨?_, own.symm⟩⟩
    · rw [commits]
      exact follows.order
    · rw [commits]
      exact follows.once
    · rw [commits]
      exact pending
  | @assign i t a runs =>
    obtain ⟨pending, logged⟩ := follows.of_running runs
    have commits : commits (schedule ++ [(i, .assign a)]) = commits schedule := by
      rw [commits_append]
      exact List.append_nil _
    have own : assignments (schedule ++ [(i, .assign a)]) i = assignments schedule i ++ [a] := by
      rw [assignments_append]
      simp [assignments, assignmentOf]
    refine ⟨follows.store, ?_, ?_, follows.logged_concat pending (.assign a),
      follows.fits_put ⟨?_, ?_⟩⟩
    · rw [commits]
      exact follows.order
    · rw [commits]
      exact follows.once
    · rw [commits]
      exact pending
    · rw [t.assignment_log_assign, logged, own]
  | @commit i t runs =>
    obtain ⟨pending, logged⟩ := follows.of_running runs
    have commits : commits (schedule ++ [(i, .commit)]) = commits schedule ++ [i] :=
      commits_append _ _
    have own : assignments (schedule ++ [(i, .commit)]) i = assignments schedule i := by
      rw [assignments_append]
      exact List.append_nil _
    refine ⟨?_, ?_, ?_, ?_, follows.fits_put trivial⟩
    · rw [committed_commit, List.flatMap_append, List.flatMap_singleton,
        Variables.replay_append, ← follows.store]
      rfl
    · rw [committed_commit, commits, List.map_append, follows.order]
      rfl
    · rw [commits, ← List.concat_eq_append]
      exact follows.once.concat pending
    · intro entry member
      rcases List.mem_append.mp member with earlier | last
      · exact follows.logged_concat pending .commit entry earlier
      · rw [List.mem_singleton.mp last, own]
        exact logged

theorem Follows.run {front : List (Nat × Move)} (follows : Follows initial front s)
    (run : s.Run schedule t) : Follows initial (front ++ schedule) t := by
  induction run generalizing front with
  | nil =>
    rw [List.append_nil]
    exact follows
  | cons step _ ih =>
    rw [List.append_cons]
    exact ih (follows.step step)

theorem Run.follows (run : (start initial).Run schedule s) : Follows initial schedule s :=
  (Follows.start initial).run run

/-- The store depends on the assignments of the calls and the order of their commits alone. -/
theorem Follows.assigned (follows : Follows initial schedule s) :
    s.store.values =
      initial.values.assignAll ((commits schedule).flatMap (assignments schedule)) := by
  have made : s.committed.flatMap (fun entry => entry.2.map Change.assignment) =
      s.committed.flatMap (fun entry => assignments schedule entry.1) :=
    List.flatMap_congr follows.logged
  rw [follows.store, Variables.replay_eq_assignAll, List.map_flatMap, made, ← follows.order,
    List.flatMap_map]

/-! ## What a variable holds -/

theorem Follows.get? (follows : Follows initial schedule s) (name : String) :
    s.store.get? name =
      ((Change.last? name (s.committed.flatMap Prod.snd)).map Change.written).getD
        (initial.get? name) := by
  unfold Globals.get?
  rw [follows.store, Variables.get?_replay]

theorem last?_flatMap_of_unnamed {entries : List (Nat × List Change)} {name : String}
    (unnamed : ∀ entry ∈ entries, ∀ c ∈ entry.2, c.name ≠ name) :
    Change.last? name (entries.flatMap Prod.snd) = none := by
  refine Change.last?_of_unnamed fun c member => ?_
  obtain ⟨entry, listed, logged⟩ := List.mem_flatMap.mp member
  exact unnamed entry listed c logged

/-- The last committed log that mentions a variable decides what it holds. -/
theorem Follows.get?_of_last {front back : List (Nat × List Change)} {log : List Change}
    {change : Change} {name : String} (follows : Follows initial schedule s)
    (split : s.committed = front ++ (i, log) :: back)
    (last : Change.last? name log = some change)
    (unnamed : ∀ entry ∈ back, ∀ c ∈ entry.2, c.name ≠ name) :
    s.store.get? name = change.written := by
  have later := last?_flatMap_of_unnamed unnamed
  have decides : Change.last? name (s.committed.flatMap Prod.snd) = some change := by
    rw [split, List.flatMap_append, List.flatMap_cons, Change.last?_append, Change.last?_append,
      later, last]
    rfl
  rw [follows.get?, decides]
  rfl

/-- A log that alone mentions a variable decides what it holds. -/
theorem Follows.get?_of_sole {log : List Change} {change : Change} {name : String}
    (follows : Follows initial schedule s) (listed : (i, log) ∈ s.committed)
    (last : Change.last? name log = some change)
    (sole : ∀ entry ∈ s.committed, entry.1 ≠ i → ∀ c ∈ entry.2, c.name ≠ name) :
    s.store.get? name = change.written := by
  obtain ⟨front, back, split⟩ := List.append_of_mem listed
  refine follows.get?_of_last split last fun entry later => ?_
  have once : (s.committed.map Prod.fst).Nodup := by
    rw [follows.order]
    exact follows.once
  rw [split, List.map_append, List.map_cons, List.nodup_middle] at once
  have other : entry.1 ≠ i := by
    rintro rfl
    refine (List.nodup_cons.mp once).1 (List.mem_append_right _ ?_)
    exact List.mem_map.mpr ⟨entry, later, rfl⟩
  refine sole entry ?_ other
  rw [split]
  exact List.mem_append_right _ (List.mem_cons_of_mem _ later)

theorem Follows.get?_of_unnamed {name : String} (follows : Follows initial schedule s)
    (unnamed : ∀ entry ∈ s.committed, ∀ c ∈ entry.2, c.name ≠ name) :
    s.store.get? name = initial.get? name := by
  rw [follows.get?, last?_flatMap_of_unnamed unnamed]
  rfl

/-! ## Exchanging commits -/

/-- Two schedules that differ in the order of two commits next to each other leave the same store,
when these calls assign different variables. -/
theorem Follows.swapped {schedule' : List (Nat × Move)} {s' : Sharing} {front back : List Nat}
    (follows : Follows initial schedule s) (follows' : Follows initial schedule' s')
    (order : commits schedule = front ++ i :: j :: back)
    (order' : commits schedule' = front ++ j :: i :: back)
    (same : ∀ k ∈ commits schedule, assignments schedule' k = assignments schedule k)
    (apart : Apart (assignments schedule i) (assignments schedule j)) :
    s'.store = s.store := by
  have among : ∀ k ∈ commits schedule', assignments schedule' k = assignments schedule k := by
    intro k member
    refine same k ?_
    rw [order'] at member
    rw [order]
    simp only [List.mem_append, List.mem_cons] at member ⊢
    tauto
  have values : s'.store.values = s.store.values := by
    rw [follows'.assigned, follows.assigned, List.flatMap_congr among, order, order']
    simp only [List.flatMap_append, List.flatMap_cons, Variables.assignAll_append]
    rw [Variables.assignAll_comm _ apart]
  exact congrArg Globals.mk values

theorem Run.split {front back : List (Nat × Move)} (run : s.Run (front ++ back) u) :
    ∃ t, s.Run front t ∧ t.Run back u := by
  induction front generalizing s with
  | nil => exact ⟨s, .nil, run⟩
  | cons m rest ih =>
    cases run with
    | cons step later =>
      obtain ⟨t, first, second⟩ := ih later
      exact ⟨t, .cons step first, second⟩

theorem Run.append {front back : List (Nat × Move)} (first : s.Run front t)
    (second : t.Run back u) : s.Run (front ++ back) u := by
  induction first with
  | nil => exact second
  | cons step _ ih => exact .cons step (ih second)

/-- The calls cannot tell the two apart: only the history of commits may differ. -/
structure Agrees (s s' : Sharing) : Prop where
  store : s'.store = s.store
  stage : s'.stage = s.stage

/-- A move made in one of two states that differ in their history alone may be made in the other,
with states after it that differ in the same way. -/
theorem Step.agrees {m : Nat × Move} {s' : Sharing} (step : Step s m t) (agrees : Agrees s s') :
    ∃ t', Step s' m t' ∧ Agrees t t' := by
  obtain ⟨store, stage⟩ := agrees
  cases step with
  | begin waits =>
    refine ⟨_, .begin (by rw [stage]; exact waits), store, ?_⟩
    unfold put
    rw [store, stage]
  | assign runs =>
    refine ⟨_, .assign (by rw [stage]; exact runs), store, ?_⟩
    unfold put
    rw [stage]
  | commit runs =>
    refine ⟨_, .commit (by rw [stage]; exact runs), ?_, ?_⟩
    · unfold Sharing.commit
      simp only [store]
    · unfold Sharing.commit put
      rw [stage]

theorem Run.agrees {s' : Sharing} (run : s.Run schedule t) (agrees : Agrees s s') :
    ∃ t', s'.Run schedule t' ∧ Agrees t t' := by
  induction run generalizing s' with
  | nil => exact ⟨s', .nil, agrees⟩
  | cons step _ ih =>
    obtain ⟨u', first, same⟩ := step.agrees agrees
    obtain ⟨t', second, same'⟩ := ih same
    exact ⟨t', .cons first second, same'⟩

theorem commit_comm (g : Globals) {first second : List Change}
    (apart : Apart (first.map Change.assignment) (second.map Change.assignment)) :
    (g.commit first).commit second = (g.commit second).commit first := by
  have values : (g.values.replay first).replay second =
      (g.values.replay second).replay first := by
    simp only [Variables.replay_eq_assignAll]
    exact g.values.assignAll_comm apart
  exact congrArg Globals.mk values

/-- Two commits in a row to different variables can be made the other way around, and every call
goes on as before. -/
theorem Run.exchange {front back : List (Nat × Move)}
    (run : (start initial).Run (front ++ (i, .commit) :: (j, .commit) :: back) s)
    (apart : Apart (assignments front i) (assignments front j)) :
    ∃ s', (start initial).Run (front ++ (j, .commit) :: (i, .commit) :: back) s' ∧
      Agrees s s' := by
  obtain ⟨t, before, after⟩ := run.split
  have follows := before.follows
  cases after with
  | cons first after =>
  cases after with
  | cons second after =>
  cases first with
  | @commit _ ti runs =>
  cases second with
  | @commit _ tj runs' =>
    have other : j ≠ i := by
      rintro rfl
      rw [stage_commit, stage_put_self] at runs'
      cases runs'
    have runs'' : t.stage j = .running tj := by
      rw [← stage_put_of_ne t other]
      exact runs'
    have disjoint : Apart (ti.log.map Change.assignment) (tj.log.map Change.assignment) := by
      rw [(follows.of_running runs).2, (follows.of_running runs'').2]
      exact apart
    have still : (t.commit j tj).stage i = .running ti := by
      rw [← runs]
      exact stage_put_of_ne t (Ne.symm other) .finished
    have same : Agrees ((t.commit i ti).commit j tj) ((t.commit j tj).commit i ti) := {
      store := (commit_comm t.store disjoint).symm
      stage := by
        unfold Sharing.commit put
        exact Function.update_comm other .finished .finished t.stage }
    have firstNow : Step t (j, .commit) (t.commit j tj) := .commit runs''
    have secondNow : Step (t.commit j tj) (i, .commit) ((t.commit j tj).commit i ti) :=
      .commit still
    obtain ⟨s', later, same⟩ := after.agrees same
    exact ⟨s', before.append (.cons firstNow (.cons secondNow later)), same⟩

/-! ## Nothing is lost -/

/-- What the calls leave that made the moves of a schedule, when the store held `initial` at first. -/
structure NothingLost (initial : Globals) (schedule : List (Nat × Move)) (s : Sharing) : Prop where
  /-- The logs are committed once, in the order of the schedule. -/
  order : s.committed.map Prod.fst = commits schedule
  once : (commits schedule).Nodup
  /-- Each is the record of what its call assigned. -/
  logged : ∀ entry ∈ s.committed,
    entry.2.map Change.assignment = assignments schedule entry.1
  replayed : s.store.values = initial.values.replay (s.committed.flatMap Prod.snd)
  /-- Snapshots do not matter: it is as if each call assigned to the store when it commits. -/
  assigned : s.store.values =
    initial.values.assignAll ((commits schedule).flatMap (assignments schedule))
  last : ∀ (front back : List (Nat × List Change)) (i : Nat) (log : List Change)
    (change : Change) (name : String), s.committed = front ++ (i, log) :: back →
    Change.last? name log = some change → (∀ entry ∈ back, ∀ c ∈ entry.2, c.name ≠ name) →
    s.store.get? name = change.written
  sole : ∀ (i : Nat) (log : List Change) (change : Change) (name : String),
    (i, log) ∈ s.committed → Change.last? name log = some change →
    (∀ entry ∈ s.committed, entry.1 ≠ i → ∀ c ∈ entry.2, c.name ≠ name) →
    s.store.get? name = change.written
  unnamed : ∀ name : String, (∀ entry ∈ s.committed, ∀ c ∈ entry.2, c.name ≠ name) →
    s.store.get? name = initial.get? name
  /-- Another run in which two neighbouring commits to different variables are the other way around
  leaves the same store, whenever its calls began. -/
  swapped : ∀ (schedule' : List (Nat × Move)) (s' : Sharing) (front back : List Nat) (i j : Nat),
    (start initial).Run schedule' s' → commits schedule = front ++ i :: j :: back →
    commits schedule' = front ++ j :: i :: back →
    (∀ k ∈ commits schedule, assignments schedule' k = assignments schedule k) →
    Apart (assignments schedule i) (assignments schedule j) → s'.store = s.store
  /-- There is such a run. -/
  exchanged : ∀ (front back : List (Nat × Move)) (i j : Nat),
    schedule = front ++ (i, .commit) :: (j, .commit) :: back →
    Apart (assignments schedule i) (assignments schedule j) →
    ∃ s', (start initial).Run (front ++ (j, .commit) :: (i, .commit) :: back) s' ∧
      s'.store = s.store

/-- In every interleaving of script calls, what they committed is in the store, however stale the
snapshots were that they worked on. -/
theorem run_loses_nothing (run : (start initial).Run schedule s) :
    NothingLost initial schedule s := by
  have follows := run.follows
  exact {
    order := follows.order
    once := follows.once
    logged := follows.logged
    replayed := follows.store
    assigned := follows.assigned
    last := fun _ _ _ _ _ _ split last unnamed => follows.get?_of_last split last unnamed
    sole := fun _ _ _ _ listed last sole => follows.get?_of_sole listed last sole
    unnamed := fun _ unnamed => follows.get?_of_unnamed unnamed
    swapped := fun _ _ _ _ _ _ run' order order' same apart =>
      follows.swapped run'.follows order order' same apart
    exchanged := by
      rintro front back i j rfl apart
      have begun : ∀ k a, a ∈ assignments front k →
          a ∈ assignments (front ++ (i, .commit) :: (j, .commit) :: back) k := by
        intro k a made
        rw [assignments_append]
        exact List.mem_append_left _ made
      obtain ⟨s', run', agrees⟩ := run.exchange fun a made b made' =>
        apart a (begun i a made) b (begun j b made')
      exact ⟨s', run', agrees.store⟩ }

/-- Two calls that both began before either committed. -/
theorem run_loses_nothing_of_stale :
    ∃ s, (start ⟨.empty⟩).Run [(0, .begin), (1, .begin), (0, .assign (.set "token" "a")),
        (1, .assign (.unset "token")), (1, .assign (.set "user" "b")), (1, .commit),
        (0, .commit)] s ∧
      NothingLost ⟨.empty⟩ [(0, .begin), (1, .begin), (0, .assign (.set "token" "a")),
        (1, .assign (.unset "token")), (1, .assign (.set "user" "b")), (1, .commit),
        (0, .commit)] s ∧
      s.store.get? "token" = some "a" ∧ s.store.get? "user" = some "b" := by
  have run : ∃ s, (start ⟨.empty⟩).Run [(0, .begin), (1, .begin),
      (0, .assign (.set "token" "a")), (1, .assign (.unset "token")),
      (1, .assign (.set "user" "b")), (1, .commit), (0, .commit)] s :=
    ⟨_, .cons (.begin rfl) <| .cons (.begin rfl) <| .cons (.assign rfl) <|
      .cons (.assign rfl) <| .cons (.assign rfl) <| .cons (.commit rfl) <|
      .cons (.commit rfl) .nil⟩
  obtain ⟨s, run⟩ := run
  have nothingLost := run_loses_nothing run
  refine ⟨s, run, nothingLost, ?_, ?_⟩
  · unfold Globals.get?
    rw [nothingLost.assigned]
    decide
  · unfold Globals.get?
    rw [nothingLost.assigned]
    decide

end Sharing

/-! ## Scripts as calls -/

/-- What a script does to a store, between any two of its states, is a sequence of assignments. -/
theorem Host.Evolves.exists_assignAll {start h : Host} (evolves : start.Evolves h)
    (store : Store) : ∃ made, h.tracker store = (start.tracker store).assignAll made :=
  evolves.tracker_keeps (P := fun t => ∃ made, t = (start.tracker store).assignAll made) ⟨[], rfl⟩
    (by
      rintro _ name value ⟨made, rfl⟩
      refine ⟨made ++ [.set name value], ?_⟩
      unfold Tracker.assignAll
      rw [List.foldl_append]
      rfl)
    (by
      rintro _ name ⟨made, rfl⟩
      refine ⟨made ++ [.unset name], ?_⟩
      unfold Tracker.assignAll
      rw [List.foldl_append]
      rfl)

/-- A call that is under way may make any assignments before another call moves. -/
theorem Sharing.run_assignAll {s : Sharing} {i : Nat} {t : Tracker} (runs : s.stage i = .running t)
    (made : List Assignment) :
    s.Run (made.map fun a => (i, .assign a)) (s.put i (.running (t.assignAll made))) := by
  induction made generalizing s t with
  | nil =>
    have same : s.put i (.running (t.assignAll [])) = s := by
      unfold put Tracker.assignAll
      rw [List.foldl_nil, ← runs, Function.update_eq_self]
    rw [same]
    exact .nil
  | cons a rest ih =>
    have step : Step s (i, .assign a) (s.put i (.running (t.assign a))) := .assign runs
    have later := ih (stage_put_self s i (.running (t.assign a)))
    have twice : (s.put i (.running (t.assign a))).put i
        (.running ((t.assign a).assignAll rest)) =
          s.put i (.running (t.assignAll (a :: rest))) := by
      unfold put Tracker.assignAll
      simp only [Function.update_idem]
      rfl
    rw [twice] at later
    exact .cons step later

/-- A script that is executed is a call that begins, assigns and commits with no other in between. -/
theorem Scripting.execute_run (scripting : Scripting) (around : Surroundings) (budget : Duration)
    (script : String) (o : Occasion) {s : Sharing} {i : Nat} (waits : s.stage i = .waiting)
    (found : o.globals = s.store) :
    let a := scripting.execute around budget script o
    ∃ (made : List Assignment) (s' : Sharing),
      s.Run ((i, .begin) :: (made.map (fun m => (i, .assign m)) ++ [(i, .commit)])) s' ∧
      s'.store = a.globals ∧ s'.committed = s.committed ++ [(i, a.result.globalChanges)] := by
  intro a
  obtain ⟨made, tracked⟩ :=
    (scripting.ending_evolves around budget script o).exists_assignAll .globals
  have log : ((Tracker.ofBacking (some o.globals.values)).assignAll made).log =
      a.result.globalChanges := by
    rw [show a.result.globalChanges = a.result.changes .globals from rfl,
      scripting.execute_changes around budget script o, tracked]
    rfl
  have globals := (scripting.execute_leaves around budget script o).globals
  rw [found] at log globals
  have begun : Sharing.Step s (i, .begin) _ := .begin waits
  have assigned := Sharing.run_assignAll
    (Sharing.stage_put_self s i (.running (.ofBacking (some s.store.values)))) made
  have committed := Sharing.Step.commit (Sharing.stage_put_self
    (s.put i (.running (.ofBacking (some s.store.values)))) i
      (.running ((Tracker.ofBacking (some s.store.values)).assignAll made)))
  refine ⟨made, _, .cons begun (assigned.append (.cons committed .nil)), ?_, ?_⟩
  · refine congrArg Globals.mk ?_
    rw [globals, ← log]
    rfl
  · rw [Sharing.committed_commit, log]
    rfl

end CollectionRunner
