import CollectionRunner.Json.Codec
import Mathlib.Data.List.Forall2
import Mathlib.Data.List.Nodup

/-!
# Documents that read back

`c.Reads a b` says that a codec writes `a` as a tree which a text can hold and reads `b` from that
tree.  There is one lemma for each way to build a codec, so that for a type it follows from the
definition of its codec, field by field.  The fields of a record get in one another's way by their
names only: when no two share one (`Record.WellNamed`), each entry is found among the others, and a
field that was left out is found nowhere (`Record.Reads.cons`).
-/

namespace CollectionRunner

/-! ## Trees that texts can hold -/

namespace Json

mutual

/-- A tree that a text can hold: nothing in it is torn or cut off, and its doubles are finite. -/
def Plain : Json → Prop
  | .double x => Number.finite x = true
  | .array items => PlainItems items
  | .object fields => PlainFields fields
  | .torn _ _ => False
  | .cut _ _ => False
  | _ => True

def PlainItems : List Json → Prop
  | [] => True
  | item :: rest => Plain item ∧ PlainItems rest

def PlainFields : List (String × Json) → Prop
  | [] => True
  | (_, value) :: rest => Plain value ∧ PlainFields rest

end

mutual

theorem readFault_of_plain : ∀ {json : Json}, json.Plain → json.readFault = none
  | .null, _ => rfl
  | .bool _, _ => rfl
  | .integer _, _ => rfl
  | .double _, _ => rfl
  | .string _, _ => rfl
  | .array _, plain => readFaultItems_of_plain plain
  | .object _, plain => readFaultFields_of_plain plain

theorem readFaultItems_of_plain :
    ∀ {items : List Json}, PlainItems items → readFaultItems items = none
  | [], _ => rfl
  | item :: rest, ⟨first, others⟩ => by
    rw [readFaultItems, readFault_of_plain first, readFaultItems_of_plain others]
    rfl

theorem readFaultFields_of_plain :
    ∀ {fields : List (String × Json)}, PlainFields fields → readFaultFields fields = none
  | [], _ => rfl
  | (_, value) :: rest, ⟨first, others⟩ => by
    rw [readFaultFields, readFault_of_plain first, readFaultFields_of_plain others]
    rfl

end

end Json

/-! ## Values that read back -/

/-- A value is written as a tree that a text can hold, and the tree is read as a value. -/
structure Codec.Reads (c : Codec α) (a b : α) : Prop where
  plain : (c.encode a).Plain
  notNull : c.encode a ≠ .null
  read : c.decode (c.encode a) = .ok b

namespace Codec.Reads

theorem string (s : String) : Codec.string.Reads s s := ⟨trivial, nofun, rfl⟩

theorem bool (b : Bool) : Codec.bool.Reads b b := ⟨trivial, nofun, rfl⟩

theorem natural {bits n : Nat} (fits : n < Number.twoTo bits) : (Codec.natural bits).Reads n n := by
  refine ⟨trivial, nofun, if_pos ⟨Int.natCast_nonneg n, ?_⟩⟩
  rwa [Int.toNat_natCast]

theorem double {x : Float} (finite : Number.finite x = true) : Codec.double.Reads x x :=
  ⟨finite, nofun, rfl⟩

theorem choice {names : List (String × α)} {name : α → String} {a : α}
    (known : names.lookup (name a) = some a) : (Codec.choice names name).Reads a a := by
  refine ⟨trivial, nofun, ?_⟩
  simp only [Codec.choice, known]

theorem map {c : Codec α} {into : α → β} {back : β → α} {b b' : β} {a : α}
    (reads : c.Reads (back b) a) (same : into a = b') : (c.map into back).Reads b b' where
  plain := reads.plain
  notNull := reads.notNull
  read := same ▸ congrArg (Except.map into) reads.read

theorem decodeItems_cons {item : Json → Except Fault α} {i : Nat} {json : Json} {rest : List Json}
    {a : α} {others : List α} (plain : json.Plain) (first : item json = .ok a)
    (tail : decodeItems item (i + 1) rest = .ok others) :
    decodeItems item i (json :: rest) = .ok (a :: others) := by
  cases json <;> first
    | exact plain.elim
    | simp only [decodeItems, first, tail]; rfl

theorem items {c : Codec α} {as bs : List α} (each : List.Forall₂ c.Reads as bs) (i : Nat) :
    Json.PlainItems (as.map c.encode) ∧ decodeItems c.decode i (as.map c.encode) = .ok bs := by
  induction each generalizing i with
  | nil => exact ⟨trivial, rfl⟩
  | cons first _ ih =>
    obtain ⟨plain, read⟩ := ih (i + 1)
    exact ⟨⟨first.plain, plain⟩, decodeItems_cons first.plain first.read read⟩

theorem list₂ {c : Codec α} {as bs : List α} (each : List.Forall₂ c.Reads as bs) :
    c.list.Reads as bs where
  plain := (items each 0).1
  notNull := nofun
  read := (items each 0).2

/-- Lists are read back as their items are, each up to a property of its own. -/
theorem exists_list {c : Codec α} {P : α → α → Prop} {as : List α}
    (each : ∀ a ∈ as, ∃ b, c.Reads a b ∧ P a b) :
    ∃ bs, c.list.Reads as bs ∧ List.Forall₂ P as bs := by
  suffices found : ∃ bs, List.Forall₂ c.Reads as bs ∧ List.Forall₂ P as bs by
    obtain ⟨bs, reads, related⟩ := found
    exact ⟨bs, list₂ reads, related⟩
  induction as with
  | nil => exact ⟨[], .nil, .nil⟩
  | cons a rest ih =>
    obtain ⟨b, first, related⟩ := each a List.mem_cons_self
    obtain ⟨bs, others, tail⟩ := ih fun x mem => each x (List.mem_cons_of_mem _ mem)
    exact ⟨b :: bs, .cons first others, .cons related tail⟩

theorem list {c : Codec α} {as : List α} (each : ∀ a ∈ as, c.Reads a a) : c.list.Reads as as :=
  list₂ (List.forall₂_same.mpr each)

/-- What is not left out is read as a value that is there. -/
theorem option_decode {c : Codec α} {a b : α} (reads : c.Reads a b) :
    c.option.decode (c.encode a) = .ok (some b) := by
  have read := reads.read
  have notNull := reads.notNull
  unfold Codec.option
  generalize c.encode a = json at read notNull
  cases json with
  | null => exact absurd rfl notNull
  | _ => simp only [read]; rfl

end Codec.Reads

/-! ## Fields -/

/-- A field is written and read back, or left out and given its value for that case. -/
inductive Field.Reads (f : Field α) (a b : α) : Prop
  | written (json : Json) : f.encode a = some json → json.Plain → f.decode json = .ok b →
    Reads f a b
  | left : f.encode a = none → f.absent = some b → Reads f a b

namespace Field.Reads

theorem required {c : Codec α} {a b : α} {name : String} (reads : c.Reads a b) :
    (Field.required name c).Reads a b :=
  .written _ rfl reads.plain reads.read

theorem defaulted {c : Codec α} {a b value : α} {name : String} (reads : c.Reads a b) :
    (Field.defaulted name c value).Reads a b :=
  .written _ rfl reads.plain reads.read

variable {c : Codec α} {name : String}

theorem exists_optional {P : α → α → Prop} {a : Option α}
    (each : ∀ x ∈ a, ∃ y, c.Reads x y ∧ P x y) :
    ∃ b, (∀ name, (Field.optional name c).Reads a b) ∧ Option.Rel P a b := by
  cases a with
  | none => exact ⟨none, fun _ => .left rfl rfl, .none⟩
  | some x =>
    obtain ⟨y, reads, related⟩ := each x rfl
    exact ⟨some y, fun _ => .written _ rfl reads.plain reads.option_decode, .some related⟩

theorem optional {a : Option α} (each : ∀ b ∈ a, c.Reads b b) :
    (Field.optional name c).Reads a a := by
  cases a with
  | none => exact .left rfl rfl
  | some b => exact .written _ rfl (each b rfl).plain (each b rfl).option_decode

theorem optionalNamed {a : Option α} (each : ∀ b ∈ a, c.Reads b b) :
    (Field.optionalNamed name c).Reads a a := by
  cases a with
  | none => exact .left rfl rfl
  | some b => exact .written _ rfl (each b rfl).plain (each b rfl).option_decode

theorem nullable {a : Option α} (each : ∀ b ∈ a, c.Reads b b) :
    (Field.nullable name c).Reads a a := by
  cases a with
  | none => exact .written .null rfl trivial rfl
  | some b => exact .written _ rfl (each b rfl).plain (each b rfl).option_decode

end Field.Reads

/-! ## Records -/

namespace Record

/-- Every field has a name, and no name is that of two fields. -/
structure WellNamed (names : List (List String)) : Prop where
  named : [] ∉ names
  apart : names.flatten.Nodup

instance (names : List (List String)) : Decidable (WellNamed names) :=
  decidable_of_iff ([] ∉ names ∧ names.flatten.Nodup)
    ⟨fun h => ⟨h.1, h.2⟩, fun h => ⟨h.named, h.apart⟩⟩

/-- Entries with other names are passed over in the search for an entry. -/
theorem findEntry_append {names : List String} {before : List (String × Json)}
    (others : ∀ entry ∈ before, entry.1 ∉ names) (place : Nat) (fields : List (String × Json)) :
    findEntry names place (before ++ fields) = findEntry names (place + before.length) fields := by
  induction before generalizing place with
  | nil => rfl
  | cons entry rest ih =>
    obtain ⟨key, json⟩ := entry
    have other : names.contains key = false := by
      simpa using others _ List.mem_cons_self
    rw [List.cons_append, findEntry, other, List.length_cons, ih fun e mem =>
      others e (List.mem_cons_of_mem _ mem)]
    simp only [Bool.false_eq_true, if_false, Nat.add_assoc, Nat.add_comm 1]

theorem findEntry_eq_none {names : List String} {fields : List (String × Json)}
    (others : ∀ entry ∈ fields, entry.1 ∉ names) (place : Nat) :
    findEntry names place fields = none := by
  have found := findEntry_append others place []
  rwa [List.append_nil] at found

theorem WellNamed.headD_mem {names : List (List String)} (wellNamed : WellNamed names)
    {field : List String} (mem : field ∈ names) : field.headD "" ∈ field := by
  cases field with
  | nil => exact absurd mem wellNamed.named
  | cons name _ => exact List.mem_cons_self

theorem WellNamed.tail {field : List String} {names : List (List String)}
    (wellNamed : WellNamed (field :: names)) : WellNamed names where
  named := fun mem => wellNamed.named (List.mem_cons_of_mem _ mem)
  apart := (List.nodup_append.mp wellNamed.apart).2.1

/-- The entries are those of a record with these names, in the order of its fields, some left
out. -/
def Entries (names : List (List String)) (fields : List (String × Json)) : Prop :=
  (fields.map Prod.fst).Sublist (names.map (·.headD ""))

theorem Entries.mem_flatten {names : List (List String)} {fields : List (String × Json)}
    (entries : Entries names fields) (wellNamed : WellNamed names) :
    ∀ entry ∈ fields, entry.1 ∈ names.flatten := by
  intro entry mem
  obtain ⟨field, member, head⟩ :=
    List.mem_map.mp (entries.subset (List.mem_map_of_mem (f := Prod.fst) mem))
  rw [← head]
  exact List.mem_flatten.mpr ⟨field, member, wellNamed.headD_mem member⟩

/-- A name belongs to its own field only, so its index is the number of fields before it. -/
theorem fieldIndex_append {before after : List (List String)} {field : List String} {key : String}
    (wellNamed : WellNamed (before ++ field :: after)) (mem : key ∈ field) :
    fieldIndex (before ++ field :: after) key = some before.length := by
  have elsewhere : before.findIdx? (·.contains key) = none := by
    refine List.findIdx?_eq_none_iff.mpr fun other member => ?_
    have apart := wellNamed.apart
    rw [List.flatten_append] at apart
    have disjoint := List.disjoint_of_nodup_append apart
    have absent : key ∉ other := fun found =>
      disjoint (List.mem_flatten.mpr ⟨other, member, found⟩)
        (List.mem_flatten.mpr ⟨field, List.mem_cons_self, mem⟩)
    simpa using absent
  have here : field.contains key = true := by simpa using mem
  rw [fieldIndex, List.findIdx?_append, elsewhere, List.findIdx?_cons, here]
  simp

/-- The entries of a record raise no fault besides those of the values. -/
theorem surroundings_of_entries {names : List (List String)} (wellNamed : WellNamed names)
    (before : List (List String)) {after : List (List String)} (split : names = before ++ after)
    {fields : List (String × Json)} (entries : Entries after fields)
    (plain : Json.PlainFields fields) (place : Nat) (seen : List Nat)
    (earlier : ∀ i ∈ seen, i < before.length) :
    surroundings names place seen fields = .ok () := by
  induction after generalizing before fields place seen with
  | nil =>
    cases fields with
    | nil => rfl
    | cons => cases entries
  | cons field after ih =>
    have split' : names = (before ++ [field]) ++ after := by simpa using split
    have wider : before.length < (before ++ [field]).length := by simp
    cases fields with
    | nil => rfl
    | cons entry rest =>
      obtain ⟨key, json⟩ := entry
      rcases List.cons_sublist_cons'.mp entries with later | ⟨head, later⟩
      · have entries' : Entries after ((key, json) :: rest) := later
        exact ih _ split' entries' plain place seen fun i mem => Nat.lt_trans (earlier i mem) wider
      · obtain ⟨first, others⟩ := plain
        have index : fieldIndex names key = some before.length := by
          subst split
          rw [show key = field.headD "" from head]
          exact fieldIndex_append wellNamed (wellNamed.headD_mem (by simp))
        have fresh : seen.contains before.length = false := by
          simpa using fun mem => Nat.lt_irrefl _ (earlier _ mem)
        have seenEarlier : ∀ i ∈ before.length :: seen, i < (before ++ [field]).length := by
          intro i mem
          rcases List.mem_cons.mp mem with rfl | mem
          · exact wider
          · exact Nat.lt_trans (earlier i mem) wider
        have rest := ih _ split' later others (place + 1) _ seenEarlier
        cases json <;> first
          | exact first.elim
          | simp only [surroundings, index, fresh, Bool.false_eq_true, if_false, rest]

end Record

/-- A record is written as entries of its own that a text can hold, and among other entries it is
read as a value. -/
structure Record.Reads (r : Record α) (a b : α) : Prop where
  entries : Record.Entries r.names (r.encode a)
  plain : Json.PlainFields (r.encode a)
  read : Record.WellNamed r.names → ∀ before : List (String × Json),
    (∀ entry ∈ before, entry.1 ∉ r.names.flatten) →
      r.read (Record.slotsOfFields (before ++ r.encode a)) = .ok b

namespace Record.Reads

theorem nil : Record.nil.Reads () () := ⟨List.Sublist.refl _, trivial, fun _ _ _ => rfl⟩

theorem map {r : Record α} {into : α → β} {back : β → α} {b b' : β} {a : α}
    (reads : r.Reads (back b) a) (same : into a = b') : (r.map into back).Reads b b' where
  entries := reads.entries
  plain := reads.plain
  read wellNamed before others :=
    same ▸ congrArg (Except.map into) (reads.read wellNamed before others)

theorem titled {r : Record α} {a b : α} {title : String} (reads : r.Reads a b) :
    (r.titled title).Reads a b :=
  ⟨reads.entries, reads.plain, reads.read⟩

/-- A field and the fields after it are read back from the same entries, by their names, whether the
field was written or left out. -/
theorem cons {f : Field α} {r : Record β} {a a' : α} {b b' : β} (field : f.Reads a a')
    (rest : r.Reads b b') : (Record.cons f r).Reads (a, b) (a', b') := by
  cases field with
  | written json encoded plain decoded =>
    have fields : (Record.cons f r).encode (a, b) = (f.names.headD "", json) :: r.encode b := by
      simp only [Record.cons, encoded]
    refine ⟨?_, ?_, fun wellNamed before others => ?_⟩
    · rw [fields]
      exact List.Sublist.cons_cons _ rest.entries
    · rw [fields]
      exact ⟨plain, rest.plain⟩
    · have own : f.names.headD "" ∈ f.names := wellNamed.headD_mem List.mem_cons_self
      have here : findEntry f.names 0 (before ++ (f.names.headD "", json) :: r.encode b) =
          some (before.length, json) := by
        rw [findEntry_append fun entry mem found =>
          others entry mem (List.mem_append_left _ found), Nat.zero_add, findEntry]
        exact if_pos (by simpa using own)
      have later := rest.read wellNamed.tail (before ++ [(f.names.headD "", json)]) <| by
        intro entry mem found
        rcases List.mem_append.mp mem with mem | mem
        · exact others entry mem (List.mem_append_right _ found)
        · cases List.mem_singleton.mp mem
          exact List.disjoint_of_nodup_append wellNamed.apart own found
      rw [List.append_assoc, List.singleton_append] at later
      rw [fields]
      simp only [Record.cons, Field.read, slotsOfFields, here, decoded] at later ⊢
      rw [later]
      rfl
  | left encoded absent =>
    have fields : (Record.cons f r).encode (a, b) = r.encode b := by
      simp only [Record.cons, encoded]
    refine ⟨?_, ?_, fun wellNamed before others => ?_⟩
    · rw [fields]
      exact List.Sublist.cons _ rest.entries
    · rw [fields]
      exact rest.plain
    · have none : findEntry f.names 0 (before ++ r.encode b) = none := by
        refine findEntry_eq_none (fun entry mem found => ?_) 0
        rcases List.mem_append.mp mem with mem | mem
        · exact others entry mem (List.mem_append_left _ found)
        · exact List.disjoint_of_nodup_append wellNamed.apart found
            (rest.entries.mem_flatten wellNamed.tail entry mem)
      have later := rest.read wellNamed.tail before fun entry mem found =>
        others entry mem (List.mem_append_right _ found)
      rw [fields]
      simp only [Record.cons, Field.read, slotsOfFields, none, absent, Bool.false_eq_true, if_false]
        at later ⊢
      rw [later]
      rfl

end Record.Reads

/-- A record is read back from its entries, as they name its fields and nothing else. -/
theorem Codec.Reads.record {r : Record α} {a b : α} (reads : r.Reads a b)
    (wellNamed : Record.WellNamed r.names) : r.codec.Reads a b where
  plain := reads.plain
  notNull := nofun
  read := by
    have around := Record.surroundings_of_entries wellNamed [] rfl reads.entries reads.plain 0 []
      nofun
    have read := reads.read wellNamed [] nofun
    rw [List.nil_append] at read
    change Record.settle ((Record.surroundings r.names 0 [] (r.encode a)).both
      (r.read (Record.slotsOfFields (r.encode a)))) = .ok b
    rw [around, read]
    rfl

/-! ## Tagged values -/

/-- A form of a value is written as fields that a text can hold, none of them named like the tag,
and they are read as a value. -/
structure Variant.Reads (key : String) (v : Variant α) (a b : α) (fields : List (String × Json)) :
    Prop where
  written : v.encode a = some fields
  plain : Json.PlainFields fields
  apart : key ∉ fields.map Prod.fst
  read : v.decode (.object fields) = .ok b

namespace Variant

/-- A value is written in the first form that takes it, under the tag of that form. -/
theorem encodeFirst_eq {key : String} {a : α} {variants : List (Variant α)} {v : Variant α}
    {fields : List (String × Json)} (written : v.encode a = some fields)
    (first : variants.find? (fun u => (u.encode a).isSome) = some v) :
    encodeFirst key a variants = .object ((key, .string v.tag) :: fields) := by
  induction variants with
  | nil => cases first
  | cons u rest ih =>
    rw [encodeFirst]
    cases found : u.encode a with
    | none =>
      rw [List.find?_cons_of_neg (by simp [found])] at first
      exact ih first
    | some others =>
      rw [List.find?_cons_of_pos (by simp [found])] at first
      cases first
      cases found.symm.trans written
      rfl

namespace Reads

/-- A case of a variant reads back when its record does, as long as the record has no field under
the tag's own name. -/
theorem ofRecord {key tag : String} {r : Record β} {into : β → α} {back : α → Option β}
    {a a' : α} {b b' : β} (form : back a = some b) (reads : r.Reads b b') (same : into b' = a')
    (wellNamed : Record.WellNamed r.names) (apart : key ∉ r.names.flatten) :
    (Variant.ofRecord tag r into back).Reads key a a' (r.encode b) where
  written := congrArg (Option.map r.encode) form
  plain := reads.plain
  apart found := by
    obtain ⟨entry, mem, rfl⟩ := List.mem_map.mp found
    exact apart (reads.entries.mem_flatten wellNamed entry mem)
  read := same ▸ congrArg (Except.map into) (Codec.Reads.record reads wellNamed).read

/-- A form with one value is written as the fields of that value, if none is named like the tag. -/
theorem ofCodec {key tag : String} {c : Codec β} {into : β → α} {back : α → Option β}
    {a a' : α} {b b' : β} {fields : List (String × Json)} (form : back a = some b)
    (reads : c.Reads b b') (same : into b' = a') (written : c.encode b = .object fields)
    (apart : key ∉ fields.map Prod.fst) :
    (Variant.ofCodec tag c into back).Reads key a a' fields where
  written := by simp only [Variant.ofCodec, form, Option.map_some, written]
  plain := by
    have plain := reads.plain
    rwa [written] at plain
  apart := apart
  read := by
    have read := reads.read
    rw [written] at read
    exact same ▸ congrArg (Except.map into) read

end Reads

end Variant

/-- A value is read back in the form it was written in, as the tags of the forms differ. -/
theorem Codec.Reads.tagged {key : String} {variants : List (Variant α)} {v : Variant α} {a b : α}
    {fields : List (String × Json)}
    (first : variants.find? (fun u => (u.encode a).isSome) = some v)
    (named : variants.find? (·.tag == v.tag) = some v) (reads : v.Reads key a b fields) :
    (Codec.tagged key variants).Reads a b := by
  have written : (Codec.tagged key variants).encode a =
      .object ((key, .string v.tag) :: fields) := Variant.encodeFirst_eq reads.written first
  have plain : Json.Plain (.object ((key, .string v.tag) :: fields)) := ⟨trivial, reads.plain⟩
  have apart (entry) (mem : entry ∈ fields) : entry.1 ≠ key :=
    fun same => reads.apart (same ▸ List.mem_map_of_mem mem)
  have tags : fields.filter (·.1 == key) = [] :=
    List.filter_eq_nil_iff.mpr fun entry mem => by simpa using apart entry mem
  have others : fields.filter (·.1 != key) = fields :=
    List.filter_eq_self.mpr fun entry mem => by simpa using apart entry mem
  refine ⟨written ▸ plain, by rw [written]; nofun, ?_⟩
  rw [written]
  simp only [Codec.tagged, Json.readFault_of_plain plain, List.filter_cons, beq_self_eq_true,
    if_true, tags, bne_self_eq_false, Bool.false_eq_true, if_false, others, Variant.choose, named]
  exact reads.read

end CollectionRunner
