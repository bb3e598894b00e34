import CollectionRunner.Proofs.Number.Integer
import CollectionRunner.Script.Datum

/-!
# Exchange of values

A value goes to a script as a datum, and to a document as a tree, and comes back from both.  The
integral doubles change their kind on the way, and all else keeps its shape: a conversion that
respects shapes gives back an equal value (`ScriptValue.Keeps.same_of_built`).  Main statement:
`ScriptValue.conversions_inverse`.
-/

namespace CollectionRunner

/-- Names in strictly ascending order. -/
def Ascending (entries : List (String × α)) : Prop := entries.Pairwise fun a b => a.1 < b.1

instance (entries : List (String × α)) : Decidable (Ascending entries) :=
  inferInstanceAs (Decidable (entries.Pairwise fun a b => a.1 < b.1))

namespace ScriptValue

/-! ## Whole doubles -/

/-- A number is written to a store as an integer when it is whole and below the limit for those. -/
theorem integral?_eq_some_iff {x : Float} {i : Int} :
    integral? x = some i ↔ Number.whole? x = some i ∧ i.natAbs < 9000000000000000 := by
  unfold integral?
  cases Number.whole? x with
  | none => simp
  | some n =>
    simp only [Option.ite_none_right_eq_some, Option.some.injEq]
    constructor
    · rintro ⟨small, rfl⟩
      exact ⟨rfl, small⟩
    · rintro ⟨rfl, small⟩
      exact ⟨small, rfl⟩

theorem integral?_ofInt {i : Int} (small : i.natAbs < 9000000000000000) :
    integral? (Number.ofInt i) = some i := by
  have whole := Number.whole?_ofInt (i := i) (by omega)
  rw [Number.rounded_of_short (by omega)] at whole
  exact integral?_eq_some_iff.mpr ⟨whole, small⟩

/-- Making a double of its integer gives it back, up to the sign of zero. -/
theorem ofInt_beq {x : Float} {i : Int} (integral : integral? x = some i) :
    (Number.ofInt i == x) = true := by
  obtain ⟨whole, small⟩ := integral?_eq_some_iff.mp integral
  obtain ⟨back, -⟩ := integral?_eq_some_iff.mp (integral?_ofInt small)
  exact Number.beq_of_whole? back whole

theorem finite_of_whole? {x : Float} {i : Int} (whole : Number.whole? x = some i) :
    Number.finite x = true := by
  unfold Number.whole? at whole
  split at whole
  · assumption
  · cases whole

theorem finite_ofInt {i : Int} (word : i.natAbs < 2 ^ 64) : Number.finite (Number.ofInt i) = true :=
  finite_of_whole? (Number.whole?_ofInt word)

theorem notANumber_of_finite {x : Float} (finite : Number.finite x = true) :
    Number.notANumber x = false := by
  rw [Number.notANumber, finite]
  rfl

/-! ## Conversions that keep shapes -/

/-- A value that can be built when doubles of a kind can: the names of its maps ascend. -/
inductive Built (kind : Float → Prop) : ScriptValue → Prop
  | null : Built kind null
  | bool (b : Bool) : Built kind (bool b)
  | number {x : Float} (holds : kind x) : Built kind (number x)
  | text (s : String) : Built kind (text s)
  | list {items : List ScriptValue} (each : ∀ v ∈ items, Built kind v) : Built kind (list items)
  | map {entries : List (String × ScriptValue)} (ascending : Ascending entries)
      (each : ∀ e ∈ entries, Built kind e.2) : Built kind (map entries)

/-- A conversion goes through lists and maps, and gives equal doubles for those of a kind. -/
structure Keeps (kind : Float → Prop) (f : ScriptValue → ScriptValue) : Prop where
  null : f null = null
  bool : ∀ b, f (bool b) = bool b
  number : ∀ {x}, kind x → ∃ y, f (number x) = number y ∧ (y == x) = true
  text : ∀ s, f (text s) = text s
  list : ∀ items, f (list items) = list (items.map f)
  map : ∀ {entries}, Ascending entries → f (map entries) = map (entries.map fun e => (e.1, f e.2))

theorem sameItems_map {f : ScriptValue → ScriptValue} {items : List ScriptValue}
    (each : ∀ v ∈ items, (f v).same v = true) : sameItems (items.map f) items = true := by
  induction items with
  | nil => rfl
  | cons item rest ih =>
    have first := each item List.mem_cons_self
    have others := ih fun v mem => each v (List.mem_cons_of_mem _ mem)
    rw [List.map_cons, sameItems, first, others]
    rfl

/-- Maps with the same names are equal where each value is. -/
theorem sameEntries_map {f : ScriptValue → ScriptValue} {entries : List (String × ScriptValue)}
    (each : ∀ e ∈ entries, (f e.2).same e.2 = true) :
    sameEntries (entries.map fun e => (e.1, f e.2)) entries = true := by
  induction entries with
  | nil => rfl
  | cons entry rest ih =>
    obtain ⟨name, value⟩ := entry
    have first := each (name, value) List.mem_cons_self
    have others := ih fun e mem => each e (List.mem_cons_of_mem _ mem)
    rw [List.map_cons, sameEntries, first, others, beq_self_eq_true]
    rfl

/-- What a conversion does to the doubles of a value decides what it does to the value. -/
theorem Keeps.same_of_built {kind : Float → Prop} {f : ScriptValue → ScriptValue}
    (keeps : Keeps kind f) {v : ScriptValue} (built : v.Built kind) : (f v).same v = true := by
  induction built with
  | null =>
    rw [keeps.null]
    rfl
  | bool b =>
    rw [keeps.bool, same]
    exact beq_self_eq_true b
  | number holds =>
    obtain ⟨y, converted, equal⟩ := keeps.number holds
    rw [converted, same]
    exact equal
  | text s =>
    rw [keeps.text, same]
    exact beq_self_eq_true s
  | list _ ih =>
    rw [keeps.list, same]
    exact sameItems_map ih
  | map ascending _ ih =>
    rw [keeps.map ascending, same]
    exact sameEntries_map ih

end ScriptValue

/-! ## To scripts and back -/

namespace Datum

theorem toItems_eq (items : List Datum) : toItems items = items.map toValue := by
  induction items with
  | nil => rfl
  | cons item rest ih => rw [toItems, ih, List.map_cons]

theorem toEntries_eq (entries : List (String × Datum)) :
    toEntries entries = entries.map fun e => (e.1, e.2.toValue) := by
  induction entries with
  | nil => rfl
  | cons entry rest ih => rw [toEntries, ih, List.map_cons]

theorem ofItems_eq (items : List ScriptValue) : ofItems items = items.map ofValue := by
  induction items with
  | nil => rfl
  | cons item rest ih => rw [ofItems, ih, List.map_cons]

theorem ofEntries_eq (entries : List (String × ScriptValue)) :
    ofEntries entries = entries.map fun e => (e.1, ofValue e.2) := by
  induction entries with
  | nil => rfl
  | cons entry rest ih => rw [ofEntries, ih, List.map_cons]

/-- A double comes back from a script equal to what it was, also when it was an integer there. -/
theorem exists_toValue_ofValue {x : Float} (number : Number.notANumber x = false) :
    ∃ y, (ofValue (.number x)).toValue = .number y ∧ (y == x) = true := by
  cases integral : ScriptValue.integral? x with
  | none =>
    refine ⟨x, ?_, Number.beq_self number⟩
    rw [ofValue, integral]
    rfl
  | some i =>
    obtain ⟨-, small⟩ := ScriptValue.integral?_eq_some_iff.mp integral
    have fits : (Int64.ofInt i).toInt = i := Int64.toInt_ofInt_of_le (by omega) (by omega)
    refine ⟨Number.ofInt i, ?_, ScriptValue.ofInt_beq integral⟩
    rw [ofValue, integral]
    simp only [toValue, fits]

theorem keeps_toValue_ofValue :
    ScriptValue.Keeps (fun x => Number.notANumber x = false) fun v => (ofValue v).toValue where
  null := rfl
  bool _ := rfl
  number := exists_toValue_ofValue
  text _ := rfl
  list items := by
    simp only [ofValue, toValue, toItems_eq, ofItems_eq, List.map_map, Function.comp_def]
  map {entries} _ := by
    simp only [ofValue, toValue, toEntries_eq, ofEntries_eq, List.map_map, Function.comp_def]

end Datum

/-! ## To documents and back -/

namespace ScriptValue

theorem toJsonItems_eq (items : List ScriptValue) : toJsonItems items = items.map toJson := by
  induction items with
  | nil => rfl
  | cons item rest ih => rw [toJsonItems, ih, List.map_cons]

theorem toJsonEntries_eq (entries : List (String × ScriptValue)) :
    toJsonEntries entries = entries.map fun e => (e.1, e.2.toJson) := by
  induction entries with
  | nil => rfl
  | cons entry rest ih => rw [toJsonEntries, ih, List.map_cons]

theorem ofJsonItems_eq (items : List Json) : ofJsonItems items = items.map ofJson := by
  induction items with
  | nil => rfl
  | cons item rest ih => rw [ofJsonItems, ih, List.map_cons]

/-- A name after all others is put at the end. -/
theorem insertEntry_of_after {name : String} {value : α} {entries : List (String × α)}
    (after : ∀ e ∈ entries, e.1 < name) :
    insertEntry name value entries = entries ++ [(name, value)] := by
  induction entries with
  | nil => rfl
  | cons entry rest ih =>
    obtain ⟨key, old⟩ := entry
    have less : key < name := after (key, old) List.mem_cons_self
    have others := ih fun e mem => after e (List.mem_cons_of_mem _ mem)
    rw [insertEntry, if_neg (String.lt_asymm less), if_neg (Std.ne_of_lt less).symm, others,
      List.cons_append]

/-- Reading more fields of an object adds them behind the entries read so far, when their names come
after. -/
theorem ofJsonFields_append {entries : List (String × ScriptValue)} {fields : List (String × Json)}
    (after : ∀ e ∈ entries, ∀ f ∈ fields, e.1 < f.1) (ascending : Ascending fields) :
    ofJsonFields entries fields = entries ++ fields.map fun f => (f.1, ofJson f.2) := by
  induction fields generalizing entries with
  | nil => exact (List.append_nil entries).symm
  | cons field rest ih =>
    obtain ⟨name, value⟩ := field
    obtain ⟨above, ascends⟩ := List.pairwise_cons.mp ascending
    have last : insertEntry name (ofJson value) entries = entries ++ [(name, ofJson value)] :=
      insertEntry_of_after fun e mem => after e mem (name, value) List.mem_cons_self
    have later : ∀ e ∈ entries ++ [(name, ofJson value)], ∀ f ∈ rest, e.1 < f.1 := by
      intro e mem f member
      rcases List.mem_append.mp mem with old | new
      · exact after e old f (List.mem_cons_of_mem _ member)
      · cases List.mem_singleton.mp new
        exact above f member
    rw [ofJsonFields, last, ih later ascends, List.append_assoc, List.map_cons]
    rfl

theorem ofJsonFields_eq {fields : List (String × Json)} (ascending : Ascending fields) :
    ofJsonFields [] fields = fields.map fun f => (f.1, ofJson f.2) :=
  ofJsonFields_append nofun ascending

theorem toJson_number_of_finite {x : Float} (finite : Number.finite x = true)
    (integral : integral? x = none) : toJson (number x) = .double x := by
  rw [toJson, numberJson, integral]
  exact if_pos finite

/-- A finite double comes back from a document equal to what it was. -/
theorem exists_ofJson_toJson {x : Float} (finite : Number.finite x = true) :
    ∃ y, ofJson (toJson (number x)) = number y ∧ (y == x) = true := by
  cases integral : integral? x with
  | none =>
    refine ⟨x, ?_, Number.beq_self (notANumber_of_finite finite)⟩
    rw [toJson_number_of_finite finite integral]
    rfl
  | some i =>
    refine ⟨Number.ofInt i, ?_, ofInt_beq integral⟩
    rw [toJson, numberJson, integral]
    rfl

/-- Every value without infinities and numbers that are none comes back equal from its JSON
document. -/
theorem keeps_ofJson_toJson :
    Keeps (fun x => Number.finite x = true) fun v => ofJson v.toJson where
  null := rfl
  bool _ := rfl
  number := exists_ofJson_toJson
  text _ := rfl
  list items := by
    simp only [toJson, ofJson, toJsonItems_eq, ofJsonItems_eq, List.map_map, Function.comp_def]
  map {entries} ascending := by
    have names : Ascending (entries.map fun e => (e.1, e.2.toJson)) :=
      List.pairwise_map.mpr ascending
    rw [toJson, toJsonEntries_eq, ofJson, ofJsonFields_eq names, List.map_map]
    rfl

end ScriptValue

/-! ## Documents -/

/-- A tree whose integers are below the bound of whole numbers, and its doubles are not. -/
inductive Json.Canonical : Json → Prop
  | null : Canonical .null
  | bool (b : Bool) : Canonical (.bool b)
  | integer {i : Int} (small : i.natAbs < 9000000000000000) : Canonical (.integer i)
  | fraction {x : Float} (finite : Number.finite x = true) (broken : Number.whole? x = none) :
      Canonical (.double x)
  | large {x : Float} {i : Int} (whole : Number.whole? x = some i)
      (large : 9000000000000000 ≤ i.natAbs) : Canonical (.double x)
  | string (s : String) : Canonical (.string s)
  | array {items : List Json} (each : ∀ j ∈ items, Canonical j) : Canonical (.array items)
  | object {fields : List (String × Json)} (ascending : Ascending fields)
      (each : ∀ f ∈ fields, Canonical f.2) : Canonical (.object fields)

namespace ScriptValue

/-- A canonical document comes back as it was from the value read off it. -/
theorem toJson_ofJson {j : Json} (canonical : j.Canonical) : (ofJson j).toJson = j := by
  induction canonical with
  | null | bool | string => rfl
  | integer small =>
    rw [ofJson, Json.doubleOfInt, toJson, numberJson, integral?_ofInt small]
  | fraction finite broken =>
    refine toJson_number_of_finite finite ?_
    rw [integral?, broken]
  | large whole large =>
    refine toJson_number_of_finite (finite_of_whole? whole) ?_
    rw [integral?, whole]
    exact if_neg (Nat.not_lt.mpr large)
  | array _ ih =>
    rw [ofJson, ofJsonItems_eq, toJson, toJsonItems_eq, List.map_map]
    exact congrArg Json.array ((List.map_congr_left ih).trans (List.map_id _))
  | @object fields ascending _ ih =>
    have kept : ∀ f ∈ fields, (f.1, (ofJson f.2).toJson) = id f :=
      fun f mem => congrArg (Prod.mk f.1) (ih f mem)
    rw [ofJson, ofJsonFields_eq ascending, toJson, toJsonEntries_eq, List.map_map]
    exact congrArg Json.object ((List.map_congr_left kept).trans (List.map_id _))

/-- Conversions of values are inverse.  A value without what is no number comes back from a script,
one without infinities also from a document, and a document whose numbers say by their kind which
they are comes back from a value. -/
theorem conversions_inverse :
    (∀ v : ScriptValue, v.Built (fun x => Number.notANumber x = false) →
      (Datum.ofValue v).toValue.same v = true) ∧
    (∀ v : ScriptValue, v.Built (fun x => Number.finite x = true) →
      (ofJson v.toJson).same v = true) ∧
    ∀ j : Json, j.Canonical → (ofJson j).toJson = j :=
  ⟨fun _ => Datum.keeps_toValue_ofValue.same_of_built, fun _ => keeps_ofJson_toJson.same_of_built,
    fun _ => toJson_ofJson⟩

/-- Infinity comes back from a script, the zero without sign for the other from a document, and a
document with an integer and a fraction as it was. -/
theorem conversions_inverse_of_nested :
    let bounds := map [("list", list [null, number 0.5]), ("most", number (1.0 / 0.0))]
    let zeros := list [number (-0.0), map [("", bool true), ("a", list [])]]
    let document := Json.object [("id", .integer 7), ("ratios", .array [.double 0.5, .null])]
    (Datum.ofValue bounds).toValue.same bounds = true ∧
      (ofJson zeros.toJson).same zeros = true ∧ (ofJson document).toJson = document := by
  refine ⟨conversions_inverse.1 _ (.map (by decide) ?_),
    conversions_inverse.2.1 _ (.list ?_), conversions_inverse.2.2 _ (.object (by decide) ?_)⟩
  · rw [List.forall_mem_cons, List.forall_mem_singleton]
    refine ⟨.list ?_, .number (by decide)⟩
    rw [List.forall_mem_cons, List.forall_mem_singleton]
    exact ⟨.null, .number (by decide)⟩
  · rw [List.forall_mem_cons, List.forall_mem_singleton]
    refine ⟨.number (by decide), .map (by decide) ?_⟩
    rw [List.forall_mem_cons, List.forall_mem_singleton]
    exact ⟨.bool true, .list nofun⟩
  · rw [List.forall_mem_cons, List.forall_mem_singleton]
    refine ⟨.integer (by decide), .array ?_⟩
    rw [List.forall_mem_cons, List.forall_mem_singleton]
    exact ⟨.fraction (by decide) (by decide), .null⟩

end ScriptValue

end CollectionRunner
