import CollectionRunner.Env.Tracker
import Mathlib.Data.List.Induction

/-!
# Logs of changes

What a variable holds after a log was replayed is decided by the last change of the log that names
it (`Variables.get?_replay`).  As variables are determined by their values (`Variables.eq_of_get?`),
replaying a log a second time changes nothing (`Variables.replay_replay`).  A log is `Faithful` to
the variables it starts from when every entry tells what its variable held before it;
`Tracker.Tracks` says that a tracker is a set of variables with such a log on top, and assignments
keep it (`Tracker.Tracks.set`, `Tracker.Tracks.unset`).
-/

namespace CollectionRunner

/-! ## Lookups -/

/-- An inserted entry is found under its name, and all others stay. -/
theorem Variables.lookup_insertEntry (name value other : String)
    (entries : List (String × String)) :
    (insertEntry name value entries).lookup other =
      if other = name then some value else entries.lookup other := by
  induction entries with
  | nil =>
    by_cases same : other = name
    · simp [insertEntry, same]
    · rw [insertEntry, List.lookup_cons, beq_false_of_ne same, if_neg same]
  | cons first rest ih =>
    obtain ⟨key, old⟩ := first
    simp only [insertEntry]
    split
    · by_cases same : other = name
      · simp [same]
      · rw [List.lookup_cons, beq_false_of_ne same, if_neg same]
    · split
      · rename_i atKey
        subst atKey
        by_cases same : other = name
        · simp [same]
        · simp only [List.lookup_cons, beq_false_of_ne same, if_neg same]
      · rename_i notKey
        by_cases atHead : other = key
        · subst atHead
          simp [Ne.symm notKey]
        · simp only [List.lookup_cons, beq_false_of_ne atHead]
          exact ih

/-- An erased entry is not found any more, and all others stay. -/
theorem Variables.lookup_eraseEntry (name other : String) (entries : List (String × String)) :
    (eraseEntry name entries).lookup other =
      if other = name then none else entries.lookup other := by
  induction entries with
  | nil => simp [eraseEntry]
  | cons first rest ih =>
    obtain ⟨key, old⟩ := first
    unfold eraseEntry at ih ⊢
    by_cases erased : key = name
    · subst erased
      rw [List.filter_cons_of_neg (by simp), ih]
      by_cases same : other = key
      · simp [same]
      · simp only [List.lookup_cons, beq_false_of_ne same, if_neg same]
    · rw [List.filter_cons_of_pos (by simpa using erased)]
      by_cases same : other = key
      · subst same
        simp [erased]
      · simp only [List.lookup_cons, beq_false_of_ne same]
        exact ih

@[simp]
theorem Variables.get?_set (vars : Variables) (name value other : String) :
    (vars.set name value).get? other = if other = name then some value else vars.get? other :=
  lookup_insertEntry name value other vars.entries

@[simp]
theorem Variables.get?_unset (vars : Variables) (name other : String) :
    (vars.unset name).get? other = if other = name then none else vars.get? other :=
  lookup_eraseEntry name other vars.entries

theorem Variables.lookup_of_before {name : String} {entries : List (String × String)}
    (before : ∀ entry ∈ entries, name < entry.1) : entries.lookup name = none := by
  rw [List.lookup_eq_none_iff]
  intro entry member
  exact bne_iff_ne.mpr (Std.ne_of_lt (before entry member))

/-- A name before all others is found only if it is the first one. -/
theorem Variables.lookup_cons_of_lt {name key value : String} {rest : List (String × String)}
    (ordered : Ordered ((key, value) :: rest)) (less : name < key) :
    ((key, value) :: rest).lookup name = none := by
  obtain ⟨above, -⟩ := List.pairwise_cons.mp ordered
  refine lookup_of_before fun entry member => ?_
  rcases List.mem_cons.mp member with rfl | later
  · exact less
  · exact String.lt_trans less (above entry later)

/-- Entries in order are determined by what is found in them. -/
theorem Variables.Ordered.eq_of_lookup {a b : List (String × String)} (first : Ordered a)
    (second : Ordered b) (same : ∀ name, a.lookup name = b.lookup name) : a = b := by
  induction a generalizing b with
  | nil =>
    cases b with
    | nil => rfl
    | cons entry rest =>
      have found := same entry.1
      rw [List.lookup_cons_self] at found
      cases found
  | cons entry rest ih =>
    cases b with
    | nil =>
      have found := same entry.1
      rw [List.lookup_cons_self] at found
      cases found
    | cons entry' rest' =>
      obtain ⟨key, value⟩ := entry
      obtain ⟨key', value'⟩ := entry'
      -- the smaller of two different first names would be missing on the other side
      have names : key = key' := by
        rcases Std.lt_trichotomy key key' with less | equal | greater
        · have found := same key
          rw [List.lookup_cons_self, lookup_cons_of_lt second less] at found
          cases found
        · exact equal
        · have found := same key'
          rw [List.lookup_cons_self, lookup_cons_of_lt first greater] at found
          cases found
      subst names
      have values : value = value' := by
        have found := same key
        rw [List.lookup_cons_self, List.lookup_cons_self] at found
        exact Option.some.inj found
      subst values
      obtain ⟨above, tail⟩ := List.pairwise_cons.mp first
      obtain ⟨above', tail'⟩ := List.pairwise_cons.mp second
      have rests : rest = rest' := by
        refine ih tail tail' fun name => ?_
        by_cases atHead : name = key
        · rw [atHead, lookup_of_before above, lookup_of_before above']
        · have found := same name
          rw [List.lookup_cons, List.lookup_cons, beq_false_of_ne atHead] at found
          exact found
      rw [rests]

/-- Variables are determined by their values. -/
theorem Variables.eq_of_get? {a b : Variables} (same : ∀ name, a.get? name = b.get? name) :
    a = b := by
  obtain ⟨entries, ordered⟩ := a
  obtain ⟨entries', ordered'⟩ := b
  have equal : entries = entries' := ordered.eq_of_lookup ordered' same
  subst equal
  rfl

/-! ## Replaying a log -/

@[simp]
theorem Variables.replay_nil (vars : Variables) : vars.replay [] = vars := rfl

@[simp]
theorem Variables.replay_cons (vars : Variables) (change : Change) (log : List Change) :
    vars.replay (change :: log) = (change.replay vars).replay log := rfl

theorem Variables.replay_append (vars : Variables) (first second : List Change) :
    vars.replay (first ++ second) = (vars.replay first).replay second :=
  List.foldl_append

/-- The change has a value if it sets its variable, as those that trackers log do. -/
def Change.Valued (change : Change) : Prop := change.kind = .set → change.value.isSome

theorem Change.valued_setting (name value : String) (previous : Option String) :
    (Change.setting name value previous).Valued := fun _ => rfl

theorem Change.valued_unsetting (name : String) (previous : Option String) :
    (Change.unsetting name previous).Valued := fun unset => nomatch unset

/-- What a change leaves in its variable. A value that was not recorded counts as empty. -/
def Change.written (change : Change) : Option String :=
  match change.kind with
  | .set => some (change.value.getD "")
  | .unset => none

theorem Change.Valued.written_eq {change : Change} (valued : change.Valued) :
    change.written = change.outcome := by
  obtain ⟨kind, key, value, previous⟩ := change
  cases kind with
  | set =>
    obtain ⟨text, rfl⟩ := Option.isSome_iff_exists.mp (valued rfl)
    rfl
  | unset => rfl

/-- A change decides what its own variable holds and leaves all others. -/
theorem Change.get?_replay (change : Change) (vars : Variables) (name : String) :
    (change.replay vars).get? name =
      if name = change.name then change.written else vars.get? name := by
  obtain ⟨kind, key, value, previous⟩ := change
  cases kind with
  | set => simp [Change.replay, Change.written]
  | unset => simp [Change.replay, Change.written]

/-- The last change of a log that names a variable. -/
def Change.last? (name : String) (log : List Change) : Option Change :=
  log.reverse.find? (·.name == name)

theorem Change.last?_concat (name : String) (log : List Change) (change : Change) :
    last? name (log ++ [change]) =
      if name = change.name then some change else last? name log := by
  unfold last?
  rw [List.reverse_append, List.reverse_singleton, List.singleton_append]
  by_cases named : name = change.name
  · simp [named]
  · rw [List.find?_cons_of_neg (by simpa using Ne.symm named), if_neg named]

theorem Change.mem_of_last? {name : String} {log : List Change} {change : Change}
    (last : last? name log = some change) : change ∈ log :=
  List.mem_reverse.mp (List.mem_of_find?_eq_some last)

/-- The last change of a log that names a variable decides what it holds after the log. -/
theorem Variables.get?_replay (log : List Change) (vars : Variables) (name : String) :
    (vars.replay log).get? name =
      ((Change.last? name log).map Change.written).getD (vars.get? name) := by
  induction log using List.reverseRecOn with
  | nil => rfl
  | append_singleton log change ih =>
    rw [replay_append, replay_cons, replay_nil, Change.get?_replay, Change.last?_concat, ih]
    by_cases named : name = change.name
    · simp [named]
    · simp [named]

/-- Replaying a log a second time changes nothing. -/
theorem Variables.replay_replay (vars : Variables) (log : List Change) :
    (vars.replay log).replay log = vars.replay log := by
  refine eq_of_get? fun name => ?_
  rw [get?_replay, get?_replay]
  cases Change.last? name log with
  | some change => rfl
  | none => rfl

/-! ## Faithful logs -/

/-- Every entry of the log tells what its variable held before it, when the log starts from these
variables. -/
def Variables.Faithful (vars : Variables) : List Change → Prop
  | [] => True
  | change :: rest =>
    change.previous = vars.get? change.name ∧ (change.replay vars).Faithful rest

theorem Variables.faithful_append {vars : Variables} {first second : List Change} :
    vars.Faithful (first ++ second) ↔
      vars.Faithful first ∧ (vars.replay first).Faithful second := by
  induction first generalizing vars with
  | nil => simp [Faithful]
  | cons change rest ih => simp [Faithful, ih, and_assoc]

/-- The entry at a place of a faithful log, in terms of the entries before it. -/
theorem Variables.Faithful.previous_eq {vars : Variables} {log : List Change}
    (faithful : vars.Faithful log) {i : Nat} {change : Change} (entry : log[i]? = some change) :
    change.previous = (vars.replay (log.take i)).get? change.name := by
  induction log generalizing vars i with
  | nil => simp at entry
  | cons first rest ih =>
    obtain ⟨told, later⟩ := faithful
    cases i with
    | zero =>
      rw [List.getElem?_cons_zero, Option.some.injEq] at entry
      subst entry
      exact told
    | succ i =>
      rw [List.getElem?_cons_succ] at entry
      exact ih later entry

/-! ## Trackers -/

theorem Tracker.lastOutcome_eq (name : String) (log : List Change) :
    lastOutcome name log = (Change.last? name log).map Change.outcome := rfl

/-- Reading through a tracker is reading its snapshot. -/
theorem Tracker.get?_eq_snapshot {t : Tracker} (valued : ∀ change ∈ t.log, change.Valued)
    (name : String) : t.get? name = t.snapshot.get? name := by
  unfold snapshot get?
  rw [Variables.get?_replay, lastOutcome_eq]
  cases last : Change.last? name t.log with
  | some change => exact (valued change (Change.mem_of_last? last)).written_eq.symm
  | none =>
    unfold base
    cases t.backing <;> rfl

/-- The tracker shows `origin` with a faithful log replayed onto it. -/
structure Tracker.Tracks (origin : Variables) (t : Tracker) : Prop where
  valued : ∀ change ∈ t.log, change.Valued
  faithful : origin.Faithful t.log
  snapshot : t.snapshot = origin.replay t.log

theorem Tracker.Tracks.ofBacking (backing : Option Variables) :
    Tracker.Tracks (backing.getD .empty) (.ofBacking backing) where
  valued := fun _ member => nomatch member
  faithful := trivial
  snapshot := rfl

/-- A tracker keeps tracking when it logs a change that tells what it read before. -/
theorem Tracker.Tracks.logged {origin : Variables} {t : Tracker} (tracks : t.Tracks origin)
    {change : Change} (valued : change.Valued) (told : change.previous = t.get? change.name) :
    Tracker.Tracks origin { t with log := t.log ++ [change] } where
  valued := by
    intro c member
    rcases List.mem_append.mp member with earlier | last
    · exact tracks.valued c earlier
    · rw [List.mem_singleton.mp last]
      exact valued
  faithful := by
    refine Variables.faithful_append.mpr ⟨tracks.faithful, ?_, trivial⟩
    rw [told, get?_eq_snapshot tracks.valued, tracks.snapshot]
  snapshot := by
    have before := tracks.snapshot
    unfold Tracker.snapshot base at before ⊢
    rw [Variables.replay_append, Variables.replay_append, before]

theorem Tracker.Tracks.set {origin : Variables} {t : Tracker} (tracks : t.Tracks origin)
    (name value : String) : Tracker.Tracks origin (t.set name value) :=
  tracks.logged (Change.valued_setting name value _) rfl

theorem Tracker.Tracks.unset {origin : Variables} {t : Tracker} (tracks : t.Tracks origin)
    (name : String) : Tracker.Tracks origin (t.unset name) :=
  tracks.logged (Change.valued_unsetting name _) rfl

end CollectionRunner
