import CollectionRunner.Json.Codec

/-!
# What documents are read as

`c.Yields P` says that whatever a codec reads, from any tree, has a property.  As with what reads
back, there is one lemma for each way to build a codec, and a field that may be missing has to have
the property for its value in that case.
-/

namespace CollectionRunner

/-- A converted answer is an answer to what was converted. -/
theorem eq_ok_of_map {f : α → β} {x : Except ε α} {b : β} (mapped : x.map f = .ok b) :
    ∃ a, x = .ok a ∧ f a = b := by
  cases x with
  | error => cases mapped
  | ok a => exact ⟨a, rfl, Except.ok.inj mapped⟩

/-- Two findings together are found only where each of them is. -/
theorem Found.both_eq_ok {x : Found α} {y : Found β} {p : α × β} (found : x.both y = .ok p) :
    x = .ok p.1 ∧ y = .ok p.2 := by
  cases x <;> cases y <;> cases found
  exact ⟨rfl, rfl⟩

theorem mismatch_ne_ok {expected : String} {json : Json} {a : α} :
    Codec.mismatch expected json ≠ .ok a := by
  cases json <;> exact nofun

/-- Whatever is read has the property. -/
def Codec.Yields (c : Codec α) (P : α → Prop) : Prop := ∀ json a, c.decode json = .ok a → P a

/-- The value of the field has the property, be it read or missing. -/
structure Field.Yields (f : Field α) (P : α → Prop) : Prop where
  read : ∀ json a, f.decode json = .ok a → P a
  absent : ∀ a ∈ f.absent, P a
  short : ∀ a ∈ f.short, P a

/-- Whatever is read of the fields has the property. -/
def Record.Yields (r : Record α) (P : α → Prop) : Prop := ∀ slots a, r.read slots = .ok a → P a

/-- Whatever is read as this form has the property. -/
def Variant.Yields (v : Variant α) (P : α → Prop) : Prop := ∀ json a, v.decode json = .ok a → P a

namespace Codec.Yields

variable {P : α → Prop} {c : Codec α}

theorem any (c : Codec α) : c.Yields fun _ => True := fun _ _ _ => trivial

/-- A number that is read fits its bits. -/
theorem natural (bits : Nat) : (Codec.natural bits).Yields (· < Number.twoTo bits) := by
  intro json n read
  cases json with
  | integer i =>
    simp only [Codec.natural] at read
    split at read
    · rename_i bounds
      cases read
      exact bounds.2
    · cases read
  | _ => cases read

/-- What a codec yields is carried through a conversion of its values. -/
theorem map {into : α → β} {back : β → α} {Q : β → Prop} (yields : c.Yields P)
    (carry : ∀ a, P a → Q (into a)) : (c.map into back).Yields Q := by
  intro json b read
  obtain ⟨a, decoded, rfl⟩ := eq_ok_of_map read
  exact carry a (yields json a decoded)

/-- Reading a list of items reads the first of them and then the others. -/
theorem decodeItems_cons {item : Json → Except Fault α} {i : Nat} {json : Json} {rest : List Json}
    {as : List α} (read : decodeItems item i (json :: rest) = .ok as) :
    ∃ a others, item json = .ok a ∧ decodeItems item (i + 1) rest = .ok others ∧
      as = a :: others := by
  cases first : item json with
  | error fault =>
    cases json <;> simp only [decodeItems, first] at read <;> cases read
  | ok a =>
    cases tail : decodeItems item (i + 1) rest with
    | error fault =>
      cases json <;> simp only [decodeItems, first, tail] at read <;> cases read
    | ok others =>
      refine ⟨a, others, rfl, rfl, ?_⟩
      cases json <;> simp only [decodeItems, first, tail] at read <;> cases read <;> rfl

/-- Every item that is read has what the codec of items yields. -/
theorem decodeItems (yields : c.Yields P) {i : Nat} {items : List Json} {as : List α}
    (read : Codec.decodeItems c.decode i items = .ok as) : ∀ a ∈ as, P a := by
  induction items generalizing i as with
  | nil =>
    cases read
    exact nofun
  | cons json rest ih =>
    obtain ⟨a, others, first, tail, rfl⟩ := decodeItems_cons read
    exact List.forall_mem_cons.mpr ⟨yields json a first, ih tail⟩

/-- A list yields what its items do. -/
theorem list (yields : c.Yields P) : c.list.Yields fun as => ∀ a ∈ as, P a := by
  intro json as read
  cases json with
  | array items => exact yields.decodeItems read
  | _ => cases read

/-- A value that may be nothing yields what it does when it is there. -/
theorem option (yields : c.Yields P) : c.option.Yields fun o => ∀ a ∈ o, P a := by
  intro json o read
  cases json with
  | null =>
    cases read
    exact nofun
  | _ =>
    obtain ⟨a, decoded, rfl⟩ := eq_ok_of_map read
    rintro _ ⟨⟩
    exact yields _ _ decoded

end Codec.Yields

namespace Field.Yields

variable {P : α → Prop} {c : Codec α} {name : String}

theorem required (yields : c.Yields P) : (Field.required name c).Yields P := ⟨yields, nofun, nofun⟩

/-- A field with a default yields what its codec does, if the default has that too. -/
theorem defaulted {value : α} (yields : c.Yields P) (holds : P value) :
    (Field.defaulted name c value).Yields P where
  read := yields
  absent := by rintro _ ⟨⟩; exact holds
  short := by rintro _ ⟨⟩; exact holds

/-- A field that may be missing yields what its codec does when it is there. -/
theorem optional (yields : c.Yields P) :
    (Field.optional name c).Yields fun o => ∀ a ∈ o, P a where
  read := yields.option
  absent := by rintro _ ⟨⟩; exact nofun
  short := by rintro _ ⟨⟩; exact nofun

theorem nullable (yields : c.Yields P) :
    (Field.nullable name c).Yields fun o => ∀ a ∈ o, P a where
  read := yields.option
  absent := by rintro _ ⟨⟩; exact nofun
  short := nofun

end Field.Yields

namespace Record.Yields

theorem nil : Record.nil.Yields fun _ => True := fun _ _ _ => trivial

/-- The first field and the others are read from the slots on their own, so each yields what it did
alone. -/
theorem cons {f : Field α} {r : Record β} {P : α → Prop} {Q : β → Prop} (first : f.Yields P)
    (rest : r.Yields Q) : (Record.cons f r).Yields fun p => P p.1 ∧ Q p.2 := by
  intro slots p read
  obtain ⟨own, others⟩ := Found.both_eq_ok read
  refine ⟨?_, rest slots _ others⟩
  unfold Field.read at own
  split at own
  · rename_i place json _
    cases decoded : f.decode json with
    | error fault =>
      rw [decoded] at own
      cases own
    | ok a =>
      rw [decoded] at own
      cases own
      exact first.read json _ decoded
  · split at own
    · rename_i a missing
      cases own
      split at missing
      · exact first.short _ missing
      · exact first.absent _ missing
    · cases own

/-- What a record yields is carried through a conversion of its values. -/
theorem map {r : Record α} {into : α → β} {back : β → α} {P : α → Prop} {Q : β → Prop}
    (yields : r.Yields P) (carry : ∀ a, P a → Q (into a)) : (r.map into back).Yields Q := by
  intro slots b read
  obtain ⟨a, found, rfl⟩ := eq_ok_of_map read
  exact carry a (yields slots a found)

theorem titled {r : Record α} {P : α → Prop} {title : String} (yields : r.Yields P) :
    (r.titled title).Yields P := yields

/-- What is read of slots holds of both forms of a record, that of a map and that of a list. -/
theorem decode {r : Record α} {P : α → Prop} (yields : r.Yields P) {json : Json} {a : α}
    (read : r.decode json = .ok a) : P a := by
  have settled {around : Found Unit} {slots : Slots}
      (read : settle (around.both (r.read slots)) = .ok a) : P a := by
    cases found : around.both (r.read slots) with
    | error e =>
      rw [found] at read
      cases read
    | ok p =>
      rw [found] at read
      cases read
      exact yields slots _ (Found.both_eq_ok found).2
  cases json with
  | object fields => exact settled read
  | array items => exact settled read
  | _ => cases read

end Record.Yields

/-- The codec of a record yields what its fields do. -/
theorem Codec.Yields.record {r : Record α} {P : α → Prop} (yields : r.Yields P) :
    r.codec.Yields P := fun _ _ read => yields.decode read

namespace Variant.Yields

/-- A form with fields yields what they do, carried into the type of all forms. -/
theorem ofRecord {tag : String} {r : Record β} {into : β → α} {back : α → Option β}
    {P : β → Prop} {Q : α → Prop} (yields : r.Yields P) (carry : ∀ b, P b → Q (into b)) :
    (Variant.ofRecord tag r into back).Yields Q := by
  intro json a read
  obtain ⟨b, decoded, rfl⟩ := eq_ok_of_map read
  exact carry b (yields.decode decoded)

/-- A form with one value yields what that value does, carried into the type of all forms. -/
theorem ofCodec {tag : String} {c : Codec β} {into : β → α} {back : α → Option β}
    {P : β → Prop} {Q : α → Prop} (yields : c.Yields P) (carry : ∀ b, P b → Q (into b)) :
    (Variant.ofCodec tag c into back).Yields Q := by
  intro json a read
  obtain ⟨b, decoded, rfl⟩ := eq_ok_of_map read
  exact carry b (yields json b decoded)

end Variant.Yields

/-- A choice of forms yields what each of them does. -/
theorem Codec.Yields.tagged {key : String} {variants : List (Variant α)} {P : α → Prop}
    (each : ∀ v ∈ variants, v.Yields P) : (Codec.tagged key variants).Yields P := by
  have chosen {tag : String} {rest : Json} {a : α}
      (read : Variant.choose variants tag rest = .ok a) : P a := by
    unfold Variant.choose at read
    split at read
    · rename_i v found
      exact each v (List.mem_of_find?_eq_some found) rest a read
    · cases read
  intro json a read
  simp only [Codec.tagged] at read
  split at read
  · cases read
  · split at read
    · split at read
      · exact chosen read
      · cases read
      · exact absurd read mismatch_ne_ok
    · exact chosen read
    · exact absurd read mismatch_ne_ok

end CollectionRunner
