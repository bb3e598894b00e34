import CollectionRunner.Json.Codec

/-!
# Variables

Named texts, as environments, global stores and query maps hold them. The entries are kept in the
order of their names, each name once, so that two sets of variables with the same lookups are equal.
-/

namespace CollectionRunner

namespace Variables

/-- The entries with one set, in the order of the names. -/
def insertEntry (name value : String) : List (String × String) → List (String × String)
  | [] => [(name, value)]
  | (key, old) :: rest =>
    if name < key then (name, value) :: (key, old) :: rest
    else if name = key then (name, value) :: rest
    else (key, old) :: insertEntry name value rest

/-- The entries without one. -/
def eraseEntry (name : String) (entries : List (String × String)) : List (String × String) :=
  entries.filter (·.1 != name)

/-- Entries in strictly ascending order of their names. -/
def Ordered (entries : List (String × String)) : Prop :=
  entries.Pairwise fun a b => a.1 < b.1

/-- An entry after an insertion is the new one or was there before. -/
theorem mem_insertEntry {name value : String} {entries : List (String × String)}
    {entry : String × String} (h : entry ∈ insertEntry name value entries) :
    entry = (name, value) ∨ entry ∈ entries := by
  induction entries with
  | nil => simpa [insertEntry] using h
  | cons first rest ih =>
    obtain ⟨key, old⟩ := first
    simp only [insertEntry] at h
    split at h
    · simpa using h
    · split at h
      · rcases List.mem_cons.mp h with h | h
        · exact .inl h
        · exact .inr (List.mem_cons_of_mem _ h)
      · rcases List.mem_cons.mp h with h | h
        · exact .inr (h ▸ List.mem_cons_self)
        · exact (ih h).imp id (List.mem_cons_of_mem _)

/-- An insertion keeps the names in order and each of them once. -/
theorem insertEntry_ordered {name value : String} {entries : List (String × String)}
    (h : Ordered entries) : Ordered (insertEntry name value entries) := by
  induction entries with
  | nil => simp [insertEntry, Ordered]
  | cons first rest ih =>
    obtain ⟨key, old⟩ := first
    obtain ⟨above, tail⟩ := List.pairwise_cons.mp h
    simp only [insertEntry]
    split
    · rename_i less
      refine List.pairwise_cons.mpr ⟨fun entry mem => ?_, h⟩
      rcases List.mem_cons.mp mem with mem | mem
      · exact mem ▸ less
      · exact String.lt_trans less (above entry mem)
    · split
      · rename_i same
        subst same
        exact List.pairwise_cons.mpr ⟨above, tail⟩
      · rename_i notLess notSame
        have greater : key < name :=
          Std.lt_of_le_of_ne (String.not_lt.mp notLess) (Ne.symm notSame)
        refine List.pairwise_cons.mpr ⟨fun entry mem => ?_, ih tail⟩
        rcases mem_insertEntry mem with mem | mem
        · exact mem ▸ greater
        · exact above entry mem

theorem eraseEntry_ordered {name : String} {entries : List (String × String)}
    (h : Ordered entries) : Ordered (eraseEntry name entries) :=
  h.filter _

end Variables

/-- Named texts, in the order of their names. -/
structure Variables where
  entries : List (String × String)
  ordered : Variables.Ordered entries
  deriving DecidableEq

namespace Variables

/-- No variables. -/
def empty : Variables := ⟨[], List.Pairwise.nil⟩

instance : Inhabited Variables := ⟨empty⟩

/-- Value of a variable. -/
def get? (vars : Variables) (name : String) : Option String := vars.entries.lookup name

/-- Whether there is a variable of this name. -/
def has (vars : Variables) (name : String) : Bool := (vars.get? name).isSome

/-- Give a variable a value. -/
def set (vars : Variables) (name value : String) : Variables :=
  ⟨insertEntry name value vars.entries, insertEntry_ordered vars.ordered⟩

/-- Remove a variable. -/
def unset (vars : Variables) (name : String) : Variables :=
  ⟨eraseEntry name vars.entries, eraseEntry_ordered vars.ordered⟩

/-- The names in ascending order. -/
def names (vars : Variables) : List String := vars.entries.map Prod.fst

/-- Set variables one after the other, so that the last value of a name stays. -/
def setAll (vars : Variables) (entries : List (String × String)) : Variables :=
  entries.foldl (fun vars (name, value) => vars.set name value) vars

/-- The variables of a list of entries. -/
def ofList (entries : List (String × String)) : Variables := empty.setAll entries

/-- Variables of which those on the right hide those on the left. -/
def override (base upper : Variables) : Variables := base.setAll upper.entries

/-- Read the fields of an object, numbered from `i` on, as texts, the last of a name being kept. -/
def decodeFields (i : Nat) : List (String × Json) → Variables → Except Fault Variables
  | [], vars => .ok vars
  | (_, .cut read _) :: _, _ => .error read
  | (name, json) :: rest, vars => do
    let value ← (Codec.string.decode json).mapError (Fault.under i)
    decodeFields (i + 1) rest (vars.set name value)

/-- Variables as objects. -/
def codec : Codec Variables where
  encode vars := .object (vars.entries.map fun (name, value) => (name, .string value))
  decode
    | .object fields => decodeFields 0 fields empty
    | other => Codec.mismatch "a map" other

end Variables

/-- A named set of variables. -/
structure Environment where
  name : String
  values : Variables
  deriving DecidableEq, Inhabited

namespace Environment

/-- Environments as documents. -/
def record : Record Environment :=
  (Record.cons (.required "name" .string) (.cons (.defaulted "variables" Variables.codec .empty)
    .nil)).map (fun (name, values, _) => ⟨name, values⟩) (fun e => (e.name, e.values, ()))

end Environment

end CollectionRunner
