import CollectionRunner.Proofs.Json.Steady

/-!
# Fields that are converted

A record may read a field by one codec and then convert the value, where the conversion aborts on some
values.  An abort is met at the place of the field: it overtakes the faults behind that place and no
others (`Overtakes`).  So a tree that reads without the conversion is read with the value
converted, or aborts when it cannot be, and a tree that does not read keeps its fault or aborts
(`Record.decode_converted_ok`, `Record.decode_converted_fault`).
-/

namespace CollectionRunner

/-! ## Faults in the order of their places -/

namespace Found

theorem noLater_trans {i j k : Option Nat} (first : noLater i j = true)
    (second : noLater j k = true) : noLater i k = true := by
  cases i <;> cases j <;> cases k <;> simp [noLater] at *
  omega

theorem noLater_total {i j : Option Nat} (later : noLater i j ≠ true) : noLater j i = true := by
  cases i <;> cases j <;> simp [noLater] at *
  omega

/-- What is wrong. -/
def fault? : Found α → Option (Option Nat × Fault)
  | .ok _ => none
  | .error e => some e

/-- The fault that is met first, if there is one. -/
def foremost : Option (Option Nat × Fault) → Option (Option Nat × Fault) →
    Option (Option Nat × Fault)
  | none, f => f
  | some e, none => some e
  | some e, some f => some (if noLater e.1 f.1 then e else f)

theorem fault?_both (x : Found α) (y : Found β) : (x.both y).fault? = foremost x.fault? y.fault? := by
  cases x <;> cases y <;> rfl

/-- A fault comes in place of what was wrong before, if that is not met earlier. -/
inductive Overtakes (o : Option Nat × Fault) :
    Option (Option Nat × Fault) → Option (Option Nat × Fault) → Prop
  | kept (f : Option (Option Nat × Fault)) : Overtakes o f f
  | taken {f : Option (Option Nat × Fault)} : (∀ e ∈ f, noLater o.1 e.1 = true) →
    Overtakes o f (some o)

namespace Overtakes

variable {o : Option Nat × Fault} {f g : Option (Option Nat × Fault)}

/-- What is met before the fault is met first in both cases. -/
theorem before (overtakes : Overtakes o f g) (e : Option (Option Nat × Fault)) :
    Overtakes o (foremost e f) (foremost e g) := by
  cases overtakes with
  | kept => exact .kept _
  | taken later =>
    cases e with
    | none => exact .taken later
    | some e =>
      by_cases order : noLater e.1 o.1 = true
      · have unchanged : foremost (some e) f = foremost (some e) (some o) := by
          cases f with
          | none => simp [foremost, order]
          | some f => simp [foremost, order, noLater_trans order (later f rfl)]
        rw [unchanged]
        exact .kept _
      · have chosen : foremost (some e) (some o) = some o := by simp [foremost, order]
        rw [chosen]
        refine .taken ?_
        cases f with
        | none => rintro _ ⟨⟩; exact noLater_total order
        | some f =>
          rintro _ ⟨⟩
          split
          · exact noLater_total order
          · exact later f rfl

/-- What is met behind the fault gives way to it. -/
theorem after (overtakes : Overtakes o f g) (e : Option (Option Nat × Fault)) :
    Overtakes o (foremost f e) (foremost g e) := by
  cases overtakes with
  | kept => exact .kept _
  | taken later =>
    cases e with
    | none =>
      refine .taken ?_
      cases f with
      | none => exact nofun
      | some f => exact later
    | some e =>
      by_cases order : noLater o.1 e.1 = true
      · have chosen : foremost (some o) (some e) = some o := by simp [foremost, order]
        rw [chosen]
        refine .taken ?_
        cases f with
        | none => rintro _ ⟨⟩; exact order
        | some f =>
          rintro _ ⟨⟩
          split
          · exact later f rfl
          · exact order
      · have unchanged : foremost f (some e) = foremost (some o) (some e) := by
          cases f with
          | none => simp [foremost, order]
          | some f =>
            have behind : noLater f.1 e.1 ≠ true :=
              fun earlier => order (noLater_trans (later f rfl) earlier)
            simp [foremost, order, behind]
        rw [unchanged]
        exact .kept _

end Overtakes

/-- A record is refused for the fault that was found in it, wherever that was. -/
theorem settle_eq_error_iff {x : Found (Unit × α)} {fault : Fault} :
    Record.settle x = .error fault ↔ ∃ place, x.fault? = some (place, fault) := by
  cases x with
  | ok => exact ⟨nofun, nofun⟩
  | error e =>
    constructor
    · rintro ⟨⟩
      exact ⟨e.1, rfl⟩
    · rintro ⟨_, ⟨⟩⟩
      rfl

theorem settle_eq_ok_iff {x : Found (Unit × α)} {a : α} :
    Record.settle x = .ok a ↔ x = .ok ((), a) := by
  cases x with
  | ok => exact ⟨fun read => by cases read; rfl, fun read => by cases read; rfl⟩
  | error => exact ⟨nofun, nofun⟩

end Found

/-! ## One field converted -/

/-- A value converted, where a value that cannot be makes the reader abort. -/
def converted (convert : δ → Option ε) (x : δ) : Except Fault ε :=
  match convert x with
  | some y => .ok y
  | none => .error .overflow

/-- What a field is found to hold, before and after it is converted. -/
inductive Found.Converted (convert : δ → Option ε) : Found δ → Found ε → Prop
  | error (e : Option Nat × Fault) : Converted convert (.error e) (.error e)
  | value {x : δ} {y : ε} : convert x = some y → Converted convert (.ok x) (.ok y)
  | abort {x : δ} {place : Option Nat} : convert x = none →
    Converted convert (.ok x) (.error (place, .overflow))

section Converted

variable {convert : δ → Option ε} {around : Found Unit} {first : Found α} {y : Found δ}
  {y' : Found ε} {last : Found β}

/-- Where all fields are read, so is the record with one of them converted, unless the conversion
aborts. -/
theorem Found.Converted.ok (conversion : Converted convert y y') {a : α} {x : δ} {b : β}
    (read : Record.settle (around.both (first.both (y.both last))) = .ok (a, x, b)) :
    y = .ok x ∧ Record.settle (around.both (first.both (y'.both last))) =
      (converted convert x).map fun z => (a, z, b) := by
  obtain ⟨rfl, fields⟩ := Found.both_eq_ok (settle_eq_ok_iff.mp read)
  obtain ⟨rfl, others⟩ := Found.both_eq_ok fields
  obtain ⟨rfl, rfl⟩ := Found.both_eq_ok others
  cases conversion with
  | value done => exact ⟨rfl, by rw [converted, done]; rfl⟩
  | abort fails => exact ⟨rfl, by rw [converted, fails]; rfl⟩

/-- If the fields around a converted one are not read, their fault stays or the conversion aborts.
-/
theorem Found.Converted.fault (conversion : Converted convert y y') {fault : Fault}
    (read : Record.settle (around.both (first.both (y.both last))) = .error fault) :
    Record.settle (around.both (first.both (y'.both last))) = .error fault ∨
      Record.settle (around.both (first.both (y'.both last))) = .error .overflow ∧
        ∃ x, y = .ok x ∧ convert x = none := by
  obtain ⟨place, found⟩ := settle_eq_error_iff.mp read
  rw [fault?_both, fault?_both, fault?_both] at found
  have same (kept : y'.fault? = y.fault?) :
      Record.settle (around.both (first.both (y'.both last))) = .error fault := by
    refine settle_eq_error_iff.mpr ⟨place, ?_⟩
    rw [fault?_both, fault?_both, fault?_both, kept, found]
  cases conversion with
  | error e => exact .inl (same rfl)
  | value => exact .inl (same rfl)
  | @abort x at_ fails =>
    -- the abort has a place of its own and overtakes what is met behind it
    have overtakes : Overtakes (at_, .overflow) (some (place, fault))
        (around.both (first.both (Found.both (.error (at_, .overflow) : Found ε) last))).fault? := by
      have start : Overtakes (at_, .overflow) none (some (at_, .overflow)) := .taken nofun
      rw [← found, fault?_both, fault?_both, fault?_both]
      exact ((start.after _).before _).before _
    generalize whole : (around.both (first.both
      (Found.both (.error (at_, .overflow) : Found ε) last))).fault? = after at overtakes
    cases overtakes with
    | kept => exact .inl (settle_eq_error_iff.mpr ⟨place, whole⟩)
    | taken => exact .inr ⟨settle_eq_error_iff.mpr ⟨at_, whole⟩, x, rfl, fails⟩

end Converted

/-- A codec reads like another one and converts the value. -/
def Codec.Converts (convert : δ → Option ε) (c : Codec δ) (c' : Codec ε) : Prop :=
  ∀ json, c'.decode json = c.decode json >>= converted convert

/-- A required field that is missing is missing in both codecs. -/
theorem Codec.Converts.read {convert : δ → Option ε} {c : Codec δ} {c' : Codec ε}
    (converts : c.Converts convert c') (name : String) (slots : Slots) :
    Found.Converted convert ((Field.required name c).read slots)
      ((Field.required name c').read slots) := by
  simp only [Field.read, Field.required]
  cases slots.find [name] with
  | none => cases slots.positional <;> exact .error _
  | some entry =>
    obtain ⟨place, json⟩ := entry
    simp only [converts json]
    cases c.decode json with
    | error fault => exact .error _
    | ok x =>
      cases fate : convert x with
      | some y =>
        have done : converted convert x = .ok y := by rw [converted, fate]
        simp only [bind, Except.bind, done]
        exact .value fate
      | none =>
        have stopped : converted convert x = .error .overflow := by rw [converted, fate]
        simp only [bind, Except.bind, stopped]
        exact .abort fate

/-- The fields of a record as they stand in a tree. -/
def Record.slots? (r : Record α) : Json → Option Slots
  | .object fields => some (slotsOfFields fields)
  | .array items => some (r.slotsOfItems items)
  | _ => none

section Records

variable {convert : δ → Option ε} {c : Codec δ} {c' : Codec ε} {first : Field α} {name : String}
  {last : Record β} {json : Json}

theorem Record.decode_converted_ok (converts : c.Converts convert c') {a : α} {x : δ} {b : β}
    (read : (Record.cons first (.cons (.required name c) last)).decode json = .ok (a, x, b)) :
    (Record.cons first (.cons (.required name c') last)).decode json =
      (converted convert x).map fun y => (a, y, b) := by
  cases json with
  | object fields => exact ((converts.read name _).ok read).2
  | array items => exact ((converts.read name _).ok read).2
  | _ => cases read

/-- A tree that does not read keeps its fault, or the conversion of its field aborts. -/
theorem Record.decode_converted_fault (converts : c.Converts convert c') {fault : Fault}
    (read : (Record.cons first (.cons (.required name c) last)).decode json = .error fault) :
    (Record.cons first (.cons (.required name c') last)).decode json = .error fault ∨
      (Record.cons first (.cons (.required name c') last)).decode json = .error .overflow ∧
        ∃ slots x, (Record.cons first (.cons (.required name c) last)).slots? json = some slots ∧
          (Field.required name c).read slots = .ok x ∧ convert x = none := by
  cases json with
  | object fields =>
    rcases (converts.read name _).fault read with same | ⟨aborts, x, held, fails⟩
    · exact .inl same
    · exact .inr ⟨aborts, _, x, rfl, held, fails⟩
  | array items =>
    rcases (converts.read name _).fault read with same | ⟨aborts, x, held, fails⟩
    · exact .inl same
    · exact .inr ⟨aborts, _, x, rfl, held, fails⟩
  | _ =>
    cases read
    exact .inl rfl

/-- The value that is converted is what the field holds in the tree. -/
theorem Record.decode_ok_held {a : α} {x : δ} {b : β}
    (read : (Record.cons first (.cons (.required name c) last)).decode json = .ok (a, x, b)) :
    ∃ slots, (Record.cons first (.cons (.required name c) last)).slots? json = some slots ∧
      (Field.required name c).read slots = .ok x := by
  have held {around : Found Unit} {slots : Slots}
      (read : Record.settle (around.both
        ((Record.cons first (.cons (.required name c) last)).read slots)) = .ok (a, x, b)) :
      (Field.required name c).read slots = .ok x := by
    have fields := (Found.both_eq_ok (Found.settle_eq_ok_iff.mp read)).2
    exact (Found.both_eq_ok (Found.both_eq_ok fields).2).1
  cases json with
  | object fields => exact ⟨_, rfl, held read⟩
  | array items => exact ⟨_, rfl, held read⟩
  | _ => cases read

end Records

end CollectionRunner
