import CollectionRunner.Json.Read
import CollectionRunner.Proofs.Json.Accepts
import Mathlib

/-!
# Documents whose reading does not abort

Only durations make a reader abort.  The marks of a tree that a text was read into are all about the
text (`Json.steady_read`), and a codec that is put together from others aborts on such a tree only if
one of them does: `c.Steady` says that a codec never does, and there is one lemma for each way to
build one.
-/

namespace CollectionRunner

/-! ## Trees -/

namespace Json

mutual

/-- No fault that a tree is marked with is an overflow. -/
def Steady : Json → Prop
  | .torn read skip => read ≠ .overflow ∧ skip ≠ some .overflow
  | .cut read skip => read ≠ .overflow ∧ skip ≠ some .overflow
  | .array items => SteadyItems items
  | .object fields => SteadyFields fields
  | _ => True

def SteadyItems : List Json → Prop
  | [] => True
  | item :: rest => Steady item ∧ SteadyItems rest

def SteadyFields : List (String × Json) → Prop
  | [] => True
  | (_, value) :: rest => Steady value ∧ SteadyFields rest

end

theorem or_ne_some {fault : Fault} {first second : Option Fault} (left : first ≠ some fault)
    (right : second ≠ some fault) : first.or second ≠ some fault := by
  cases first with
  | none => exact right
  | some other => exact left

mutual

theorem Steady.skipFault : ∀ {json : Json}, json.Steady → json.skipFault ≠ some .overflow
  | .null, _ | .bool _, _ | .integer _, _ | .double _, _ | .string _, _ => nofun
  | .torn _ _, steady => steady.2
  | .cut _ _, steady => steady.2
  | .array _, steady => SteadyItems.skipFault steady
  | .object _, steady => SteadyFields.skipFault steady

theorem SteadyItems.skipFault :
    ∀ {items : List Json}, SteadyItems items → skipFaultItems items ≠ some .overflow
  | [], _ => nofun
  | _ :: _, ⟨first, others⟩ => or_ne_some first.skipFault others.skipFault

theorem SteadyFields.skipFault :
    ∀ {fields : List (String × Json)}, SteadyFields fields → skipFaultFields fields ≠ some .overflow
  | [], _ => nofun
  | (_, _) :: _, ⟨first, others⟩ => or_ne_some first.skipFault others.skipFault

end

mutual

theorem Steady.readFault : ∀ {json : Json}, json.Steady → json.readFault ≠ some .overflow
  | .null, _ | .bool _, _ | .integer _, _ | .double _, _ | .string _, _ => nofun
  | .torn _ _, steady => fun same => steady.1 (Option.some.inj same)
  | .cut _ _, steady => fun same => steady.1 (Option.some.inj same)
  | .array _, steady => SteadyItems.readFault steady
  | .object _, steady => SteadyFields.readFault steady

theorem SteadyItems.readFault :
    ∀ {items : List Json}, SteadyItems items → readFaultItems items ≠ some .overflow
  | [], _ => nofun
  | _ :: _, ⟨first, others⟩ => or_ne_some first.readFault others.readFault

theorem SteadyFields.readFault :
    ∀ {fields : List (String × Json)}, SteadyFields fields → readFaultFields fields ≠ some .overflow
  | [], _ => nofun
  | (_, _) :: _, ⟨first, others⟩ => or_ne_some first.readFault others.readFault

end

theorem steadyFields_iff {fields : List (String × Json)} :
    SteadyFields fields ↔ ∀ entry ∈ fields, entry.2.Steady := by
  induction fields with
  | nil => exact ⟨fun _ => nofun, fun _ => trivial⟩
  | cons entry rest ih =>
    rw [List.forall_mem_cons]
    exact and_congr_right fun _ => ih

theorem steadyItems_iff {items : List Json} :
    SteadyItems items ↔ ∀ item ∈ items, item.Steady := by
  induction items with
  | nil => exact ⟨fun _ => nofun, fun _ => trivial⟩
  | cons item rest ih => exact (and_congr_right fun _ => ih).trans List.forall_mem_cons.symm

/-! ## Reading texts -/

theorem before_ne_overflow (m : Malformation) (cs : List Char) : before m cs ≠ .overflow := nofun

theorem nextTo_ne_overflow (m : Malformation) (cs : List Char) : nextTo m cs ≠ .overflow := nofun

theorem shortEscape_ne_overflow (cs : List Char) : shortEscape cs ≠ .overflow := by
  unfold shortEscape
  split <;> exact nofun

namespace Reading

variable {r : Reading}

theorem broken_break {fault : Fault} (steady : r.broken ≠ some .overflow)
    (other : fault ≠ .overflow) : (r.break fault).broken ≠ some .overflow :=
  or_ne_some steady (by simpa using other)

theorem broken_settle (steady : r.broken ≠ some .overflow) (cs : List Char) :
    (r.settle cs).broken ≠ some .overflow := by
  unfold settle
  split
  · refine broken_break steady ?_
    split <;> exact nofun
  · exact steady

theorem broken_pushUnit (steady : r.broken ≠ some .overflow) (code : Nat) (rest : List Char) :
    (r.pushUnit code rest).broken ≠ some .overflow := by
  unfold pushUnit
  split <;> split
  · exact steady
  · exact broken_break steady nofun
  · exact broken_break steady nofun
  · split <;> exact steady

theorem stop_ne_overflow (steady : r.broken ≠ some .overflow) {read skip : Fault}
    (first : read ≠ .overflow) (second : skip ≠ .overflow) :
    (r.stop read skip).1 ≠ .overflow ∧ (r.stop read skip).2 ≠ .overflow := by
  refine ⟨?_, second⟩
  unfold stop
  cases broken : r.broken with
  | none => exact first
  | some fault => exact fun same => steady (broken.trans (congrArg some same))

end Reading

/-- What reading a string finds is no overflow. -/
def SteadyString : Except (Fault × Fault) (Except Fault String × List Char) → Prop
  | .error (read, skip) => read ≠ .overflow ∧ skip ≠ .overflow
  | .ok (.error fault, _) => fault ≠ .overflow
  | .ok (.ok _, _) => True

/-- A string that breaks off is marked with what is wrong with its text. -/
theorem steady_readString {r : Reading} (steady : r.broken ≠ some .overflow) (cs : List Char) :
    SteadyString (readString r cs) := by
  fun_induction readString r cs with
  | case1 | case8 => exact Reading.stop_ne_overflow steady nofun nofun
  | case2 r rest =>
    have settled := r.broken_settle steady ('"' :: rest)
    unfold SteadyString
    split
    · rename_i closed
      cases closed
    · rename_i fault _ closed
      split at closed
      · rename_i broken
        cases closed
        exact fun same => settled (broken.trans (congrArg some same))
      · cases closed
    · trivial
  | case3 _ _ _ _ _ _ code _ ih => exact ih (Reading.broken_pushUnit steady code _)
  | case4 => exact Reading.stop_ne_overflow steady (shortEscape_ne_overflow _) (shortEscape_ne_overflow _)
  | case5 => exact Reading.stop_ne_overflow steady (shortEscape_ne_overflow _) (shortEscape_ne_overflow _)
  | case6 _ _ _ _ _ _ _ _ ih => exact ih (Reading.broken_settle steady _)
  | case7 | case9 => exact Reading.stop_ne_overflow (Reading.broken_settle steady _) nofun nofun
  | case10 _ _ _ _ _ _ _ _ _ _ ih => exact ih (Reading.broken_settle steady _)

theorem steady_stopped {read skip : Fault} (first : read ≠ .overflow) (second : skip ≠ .overflow) :
    (Step.stopped read skip).json.Steady :=
  ⟨first, fun same => second (Option.some.inj same)⟩

/-- A number is steady whatever its size: one that is too large is a fault of the text. -/
theorem steady_numeral (n : Numeral) (negative : Bool) (power rest : List Char) :
    (n.json negative power rest).Steady := by
  unfold Numeral.json
  split
  · trivial
  · split
    · trivial
    · exact ⟨before_ne_overflow _ _, nofun⟩
  · split
    · exact ⟨before_ne_overflow _ _, nofun⟩
    · trivial

theorem steady_digitMissing (cs : List Char) : (Step.digitMissing cs).json.Steady := by
  refine steady_stopped ?_ (nextTo_ne_overflow _ _)
  split <;> exact nofun

theorem steady_readExponent (whole : List Char) (fraction : Option (List Char)) (negative : Bool)
    (cs : List Char) : (readExponent whole fraction negative cs).json.Steady := by
  unfold readExponent
  split
  dsimp only
  split
  · exact steady_digitMissing _
  · exact steady_numeral _ _ _ _

/-- Whatever a number looks like, it is read or stopped at what the text has in place of a digit. -/
theorem steady_readNumber (negative : Bool) (cs : List Char) :
    (readNumber negative cs).json.Steady := by
  unfold readNumber
  dsimp only
  split
  · exact steady_digitMissing _
  · exact steady_stopped (nextTo_ne_overflow _ _) (nextTo_ne_overflow _ _)
  · split
    · split
      · exact steady_digitMissing _
      · split
        · exact steady_readExponent _ _ _ _
        · exact steady_readExponent _ _ _ _
        · exact steady_numeral _ _ _ _
    · exact steady_readExponent _ _ _ _
    · exact steady_readExponent _ _ _ _
    · exact steady_numeral _ _ _ _

theorem steady_ended : Step.ended.json.Steady := steady_stopped nofun nofun

theorem steady_readWord {json : Json} (steady : json.Steady) (word cs : List Char) :
    (readWord json word cs).json.Steady := by
  fun_induction readWord json word cs with
  | case1 => exact steady
  | case2 => exact steady_ended
  | case3 _ _ _ ih => exact ih
  | case4 => exact steady_stopped (nextTo_ne_overflow _ _) (nextTo_ne_overflow _ _)

theorem steady_limitDepth (depth : Nat) (cs : List Char) {s : Step} (steady : s.json.Steady) :
    (limitDepth depth cs s).json.Steady := by
  unfold limitDepth
  split
  · exact ⟨nextTo_ne_overflow _ _, steady.skipFault⟩
  · exact steady

theorem steady_stopItems {fault : Fault} (other : fault ≠ .overflow) :
    SteadyItems (stopItems fault).1 :=
  ⟨⟨other, fun same => other (Option.some.inj same)⟩, trivial⟩

theorem steady_stopFields {read skip : Fault} (first : read ≠ .overflow)
    (second : skip ≠ .overflow) : SteadyFields (stopFields read skip).1 :=
  ⟨⟨first, fun same => second (Option.some.inj same)⟩, trivial⟩

/-- What a text is read into with so much fuel is steady. -/
structure SteadyReading (fuel : Nat) : Prop where
  value : ∀ depth cs, (readValue fuel depth cs).json.Steady
  items : ∀ depth first cs, SteadyItems (readItems fuel depth first cs).1
  fields : ∀ depth first cs, SteadyFields (readFields fuel depth first cs).1

namespace SteadyReading

variable {fuel : Nat}

theorem zero : SteadyReading 0 where
  value _ _ := steady_ended
  items _ _ _ := steady_stopItems nofun
  fields _ _ _ := steady_stopFields nofun nofun

/-- With more fuel a value is read from its first character: its parts are steady with the fuel that
is left. -/
theorem next_value (steady : SteadyReading fuel) (depth : Nat) (cs : List Char) :
    (readValue (fuel + 1) depth cs).json.Steady := by
  rw [readValue]
  split
  · exact steady_ended
  · exact steady_readWord (show Steady .null from trivial) _ _
  · exact steady_readWord (show Steady (.bool true) from trivial) _ _
  · exact steady_readWord (show Steady (.bool false) from trivial) _ _
  · rename_i rest _
    have text := steady_readString (r := .initial) nofun rest
    generalize readString .initial rest = found at text
    split
    · trivial
    · exact ⟨text, nofun⟩
    · exact steady_stopped text.1 text.2
  · exact steady_readNumber _ _
  · exact steady_limitDepth _ _ (steady.items _ _ _)
  · exact steady_limitDepth _ _ (steady.fields _ _ _)
  · split
    · exact steady_readNumber _ _
    · exact steady_stopped (nextTo_ne_overflow _ _) (nextTo_ne_overflow _ _)

/-- The items of a list are steady one after the other, also where the text ends or goes on in a
wrong way. -/
theorem next_items (steady : SteadyReading fuel) (depth : Nat) (first : Bool) (cs : List Char) :
    SteadyItems (readItems (fuel + 1) depth first cs).1 := by
  unfold readItems
  extract_lets item
  have others (cs : List Char) : SteadyItems (item cs).1 := by
    have own := steady.value depth cs
    dsimp only [item]
    split
    · exact ⟨own, trivial⟩
    · exact ⟨own, steady.items _ _ _⟩
  split
  · exact steady_stopItems nofun
  · trivial
  · split
    · exact others _
    · split
      · exact ⟨⟨nextTo_ne_overflow _ _, nofun⟩, trivial⟩
      · exact others _
  · split
    · exact others _
    · exact steady_stopItems (nextTo_ne_overflow _ _)

/-- So are the entries of a map, whose names and colons may be missing as well. -/
theorem next_fields (steady : SteadyReading fuel) (depth : Nat) (first : Bool) (cs : List Char) :
    SteadyFields (readFields (fuel + 1) depth first cs).1 := by
  unfold readFields
  extract_lets stopped entry
  have others (cs : List Char) : SteadyFields (entry cs).1 := by
    dsimp -zeta only [entry]
    split
    · rename_i rest
      have text := steady_readString (r := .initial) nofun rest
      generalize readString .initial rest = found at text
      split
      · exact steady_stopFields text.1 text.2
      · rename_i key rest
        extract_lets s field
        have own : s.json.Steady := by
          dsimp only [s]
          split
          · exact ⟨nofun, nofun⟩
          · exact steady.value _ _
          · exact ⟨nextTo_ne_overflow _ _, fun same => nextTo_ne_overflow _ _ (Option.some.inj same)⟩
        have first : field.2.Steady := by
          dsimp only [field]
          split
          · exact own
          · exact ⟨text, own.skipFault⟩
        split
        · exact ⟨first, trivial⟩
        · exact ⟨first, steady.fields _ _ _⟩
    · exact steady_stopFields (nextTo_ne_overflow _ _) (nextTo_ne_overflow _ _)
  split
  · exact steady_stopFields nofun nofun
  · trivial
  · split
    · exact steady_stopFields (nextTo_ne_overflow _ _) (nextTo_ne_overflow _ _)
    · split
      · exact steady_stopFields nofun nofun
      · exact steady_stopFields (nextTo_ne_overflow _ _) (nextTo_ne_overflow _ _)
      · exact others _
  · split
    · exact others _
    · exact steady_stopFields (nextTo_ne_overflow _ _) (nextTo_ne_overflow _ _)

theorem all (fuel : Nat) : SteadyReading fuel := by
  induction fuel with
  | zero => exact zero
  | succ fuel ih => exact ⟨ih.next_value, ih.next_items, ih.next_fields⟩

end SteadyReading

/-- The marks of a tree that a text was read into are no overflows. -/
theorem steady_read (text : String) : (Json.read text).json.Steady := by
  have value := (SteadyReading.all (fuelFor text.toList)).value 0 text.toList
  unfold Json.read
  extract_lets cs s
  split
  · exact value
  · split <;> exact value

end Json

/-! ## Faults -/

namespace Fault

theorem under_ne_overflow {fault : Fault} (other : fault ≠ .overflow) (i : Nat) :
    fault.under i ≠ .overflow := by
  cases fault with
  | overflow => exact absurd rfl other
  | text | form => exact nofun

theorem beyond_ne_overflow {fault : Fault} (other : fault ≠ .overflow) :
    fault.beyond ≠ .overflow := by
  unfold beyond
  split
  · exact nofun
  · exact nofun
  · exact nofun
  · exact other

end Fault

/-! ## Codecs -/

/-- No tree that is steady makes a reader abort. -/
def Codec.Steady (c : Codec α) : Prop := ∀ json, json.Steady → c.decode json ≠ .error .overflow

/-- No tree that is steady makes a reader abort. -/
def Variant.Steady (v : Variant α) : Prop :=
  ∀ json, json.Steady → v.decode json ≠ .error .overflow

/-- No tree that is steady makes a reader abort. -/
def Field.Steady (f : Field α) : Prop := ∀ json, json.Steady → f.decode json ≠ .error .overflow

/-- The fields found are steady, and what is wrong when one is missing is no overflow. -/
structure Slots.Steady (slots : Slots) : Prop where
  find : ∀ names place json, slots.find names = some (place, json) → json.Steady
  lack : ∀ names, slots.lack names ≠ .overflow

/-- What is found is no overflow. -/
def Found.Steady (found : Found α) : Prop := ∀ place, found ≠ .error (place, .overflow)

/-- No fields that are steady make a reader abort. -/
def Record.Steady (r : Record α) : Prop := ∀ slots, slots.Steady → (r.read slots).Steady

theorem map_ne_overflow {x : Except Fault α} (steady : x ≠ .error .overflow) (f : α → β) :
    x.map f ≠ .error .overflow := by
  cases x with
  | ok => exact nofun
  | error fault => exact fun same => steady (congrArg Except.error (Except.error.inj same))

theorem mismatch_ne_overflow {json : Json} (steady : json.Steady) (expected : String) :
    Codec.mismatch expected json ≠ (.error .overflow : Except Fault α) := by
  cases json with
  | torn | cut => exact fun same => steady.1 (Except.error.inj same)
  | _ => exact nofun

namespace Codec.Steady

variable {c : Codec α}

theorem string : Codec.string.Steady := by
  intro json steady
  cases json with
  | string => exact nofun
  | _ => exact mismatch_ne_overflow steady "a string"

theorem bool : Codec.bool.Steady := by
  intro json steady
  cases json with
  | bool => exact nofun
  | _ => exact mismatch_ne_overflow steady "a boolean"

theorem natural (bits : Nat) : (Codec.natural bits).Steady := by
  intro json steady
  cases json with
  | integer i =>
    simp only [Codec.natural]
    split <;> (intro same; cases same)
  | _ => exact mismatch_ne_overflow steady s!"u{bits}"

theorem double : Codec.double.Steady := by
  intro json steady
  cases json with
  | double | integer => exact nofun
  | _ => exact mismatch_ne_overflow steady "f64"

/-- A list of steady items does not abort: what is wrong with an item that cannot be read is about
the text. -/
theorem decodeItems (steady : c.Steady) {i : Nat} {items : List Json}
    (all : Json.SteadyItems items) : Codec.decodeItems c.decode i items ≠ .error .overflow := by
  induction items generalizing i with
  | nil => exact nofun
  | cons json rest ih =>
    obtain ⟨own, others⟩ := all
    have later := ih (i := i + 1) others
    cases first : c.decode json with
    | error fault =>
      have other : fault ≠ .overflow := by
        rintro rfl
        exact steady json own first
      have stopped : (Except.error (fault.under i) : Except Fault (List α)) ≠ .error .overflow :=
        fun same => Fault.under_ne_overflow other i (Except.error.inj same)
      cases json with
      | cut => exact fun same => own.1 (Except.error.inj same)
      | _ =>
        simp only [Codec.decodeItems, first]
        exact stopped
    | ok a =>
      cases json with
      | cut => exact fun same => own.1 (Except.error.inj same)
      | _ =>
        simp only [Codec.decodeItems, first]
        exact map_ne_overflow later (a :: ·)

theorem list (steady : c.Steady) : c.list.Steady := by
  intro json steadyJson
  cases json with
  | array items => exact steady.decodeItems steadyJson
  | _ => exact mismatch_ne_overflow steadyJson "a sequence"

theorem option (steady : c.Steady) : c.option.Steady := by
  intro json steadyJson
  cases json with
  | null => exact nofun
  | _ => exact map_ne_overflow (steady _ steadyJson) _

theorem choice (names : List (String × α)) (name : α → String) :
    (Codec.choice names name).Steady := by
  intro json steady
  simp only [Codec.choice]
  split
  · split <;> (intro same; cases same)
  · split <;> (intro same; cases same)
  · exact mismatch_ne_overflow steady "a name"

/-- A choice of forms looks at a text for the tag and then reads one form, and neither aborts. -/
theorem tagged {key : String} {variants : List (Variant α)} (each : ∀ v ∈ variants, v.Steady) :
    (Codec.tagged key variants).Steady := by
  have chosen {tag : String} {rest : Json} (steady : rest.Steady) :
      Variant.choose variants tag rest ≠ .error .overflow := by
    unfold Variant.choose
    split
    · rename_i v found
      exact each v (List.mem_of_find?_eq_some found) rest steady
    · intro same
      cases same
  intro json steady
  cases read : json.readFault with
  | some fault =>
    simp only [Codec.tagged, read]
    exact fun same => steady.readFault (read.trans (congrArg some (Except.error.inj same)))
  | none =>
    simp only [Codec.tagged, read]
    cases json with
    | object fields =>
      have all := Json.steadyFields_iff.mp steady
      have others : (Json.object (fields.filter (·.1 != key))).Steady :=
        Json.steadyFields_iff.mpr fun entry member => all entry (List.mem_filter.mp member).1
      dsimp only
      generalize listed : fields.filter (·.1 == key) = tags
      cases tags with
      | nil =>
        intro same
        cases same
      | cons entry rest =>
        obtain ⟨name, first⟩ := entry
        have member : (name, first) ∈ fields.filter (·.1 == key) := listed ▸ List.mem_cons_self
        have own : first.Steady := all (name, first) (List.mem_filter.mp member).1
        cases rest with
        | nil =>
          cases first with
          | string => exact chosen others
          | _ => exact mismatch_ne_overflow own "a name"
        | cons => cases first <;> exact mismatch_ne_overflow own "a name"
    | array items =>
      cases items with
      | nil => exact mismatch_ne_overflow steady "a tagged value"
      | cons first rest =>
        cases first with
        | string => exact chosen steady.2
        | _ => exact mismatch_ne_overflow steady "a tagged value"
    | _ => exact mismatch_ne_overflow steady "a tagged value"

end Codec.Steady

namespace Found.Steady

variable {x : Found α} {y : Found β}

theorem ok (a : α) : Found.Steady (.ok a) := fun _ => nofun

theorem error {place : Option Nat} {fault : Fault} (other : fault ≠ .overflow) :
    Found.Steady (.error (place, fault) : Found α) :=
  fun _ same => other (Prod.mk.inj (Except.error.inj same)).2

/-- Of two findings the fault that is met first counts, so none aborts if neither does. -/
theorem both (first : Found.Steady x) (second : Found.Steady y) : Found.Steady (x.both y) := by
  cases x with
  | ok a =>
    cases y with
    | ok b => exact ok _
    | error e => exact fun place same => second place (congrArg Except.error (Except.error.inj same))
  | error e =>
    have left (f : Option Nat × Fault) (same : f = e) : f.2 ≠ .overflow := by
      rintro whole
      exact first e.1 (congrArg Except.error (Prod.ext rfl (same ▸ whole)))
    cases y with
    | ok b => exact fun place same => first place (congrArg Except.error (Except.error.inj same))
    | error f =>
      simp only [Found.both]
      split
      · exact fun place same => first place (congrArg Except.error (Except.error.inj same))
      · exact fun place same => second place (congrArg Except.error (Except.error.inj same))

theorem map (steady : Found.Steady x) (f : α → β) : Found.Steady (x.map f) := by
  cases x with
  | ok => exact ok _
  | error => exact fun place same => steady place (congrArg Except.error (Except.error.inj same))

theorem settle {x : Found (Unit × α)} (steady : Found.Steady x) :
    Record.settle x ≠ .error .overflow := by
  cases x with
  | ok => exact nofun
  | error e => exact fun same => steady e.1 (congrArg Except.error (Prod.ext rfl (Except.error.inj same)))

end Found.Steady

namespace Field.Steady

variable {c : Codec α} {name : String}

theorem required (steady : c.Steady) : (Field.required name c).Steady := steady

theorem defaulted {value : α} (steady : c.Steady) : (Field.defaulted name c value).Steady := steady

theorem optional (steady : c.Steady) : (Field.optional name c).Steady := steady.option

theorem optionalNamed (steady : c.Steady) : (Field.optionalNamed name c).Steady := steady.option

theorem nullable (steady : c.Steady) : (Field.nullable name c).Steady := steady.option

/-- A field that is there is read as its codec reads it, and one that is missing is no abort. -/
theorem read {f : Field α} (steady : f.Steady) {slots : Slots} (steadySlots : slots.Steady) :
    (f.read slots).Steady := by
  unfold Field.read
  split
  · rename_i place json found
    have own := steady json (steadySlots.find _ _ _ found)
    split
    · exact .ok _
    · rename_i fault read
      refine .error (Fault.under_ne_overflow ?_ place)
      rintro rfl
      exact own read
  · split
    · exact .ok _
    · exact .error (steadySlots.lack _)

end Field.Steady

namespace Record.Steady

theorem nil : Record.nil.Steady := fun _ _ => .ok ()

theorem cons {f : Field α} {r : Record β} (first : f.Steady) (rest : r.Steady) :
    (Record.cons f r).Steady :=
  fun slots steady => (first.read steady).both (rest slots steady)

theorem map {r : Record α} (steady : r.Steady) (into : α → β) (back : β → α) :
    (r.map into back).Steady := fun slots all => (steady slots all).map into

end Record.Steady

/-! ## The fields of a record in a tree -/

/-- An entry that is found is one of the steady ones. -/
theorem Record.findEntry_steady {names : List String} {place found : Nat}
    {fields : List (String × Json)} {json : Json} (all : Json.SteadyFields fields)
    (entry : findEntry names place fields = some (found, json)) : json.Steady := by
  induction fields generalizing place with
  | nil => cases entry
  | cons first rest ih =>
    obtain ⟨key, value⟩ := first
    rw [findEntry] at entry
    split at entry
    · cases entry
      exact all.1
    · exact ih all.2 entry

/-- What stands around the fields of a record, such as names it does not know, is about the text. -/
theorem Record.steady_surroundings (names : List (List String)) {place : Nat} {seen : List Nat}
    {fields : List (String × Json)} (all : Json.SteadyFields fields) :
    (surroundings names place seen fields).Steady := by
  induction fields generalizing place seen with
  | nil => exact .ok ()
  | cons first rest ih =>
    obtain ⟨key, value⟩ := first
    obtain ⟨own, others⟩ := all
    unfold surroundings
    split
    · split
      · exact .error nofun
      · split
        · exact .error own.1
        · exact ih others
    · split
      · exact .error own.1
      · split
        · rename_i fault skipped
          exact .error fun same => own.skipFault (skipped.trans (congrArg some same))
        · exact ih others

theorem Record.surplusFault_ne_overflow {json : Json} (steady : json.Steady) (place : Nat) :
    surplusFault place json ≠ .overflow := by
  unfold surplusFault
  split
  · exact Fault.beyond_ne_overflow steady.1
  · exact nofun
  · exact nofun

/-- So are the items that a record has no fields for. -/
theorem Record.steady_overlong {place count : Nat} {items : List Json}
    (all : Json.SteadyItems items) : (overlong place count items).Steady := by
  induction items generalizing place count with
  | nil => cases count <;> exact .ok ()
  | cons json rest ih =>
    obtain ⟨own, others⟩ := all
    cases count with
    | zero => exact .error (surplusFault_ne_overflow own place)
    | succ count =>
      cases json with
      | cut => exact .error own.1
      | _ => exact ih others

theorem Record.steady_slotsOfFields {fields : List (String × Json)}
    (all : Json.SteadyFields fields) : (slotsOfFields fields).Steady where
  find _ _ _ found := findEntry_steady all found
  lack _ := nofun

theorem Record.steady_slotsOfItems (r : Record α) {items : List Json}
    (all : Json.SteadyItems items) : (r.slotsOfItems items).Steady where
  find names place json found := by
    refine findEntry_steady (Json.steadyFields_iff.mpr fun entry member => ?_) found
    obtain ⟨pair, source, rfl⟩ := List.mem_map.mp member
    exact Json.steadyItems_iff.mp all _ (List.of_mem_zip source).2
  lack _ := nofun

/-- A record whose fields do not make a reader abort does not either. -/
theorem Record.Steady.decode {r : Record α} (steady : r.Steady) {json : Json}
    (steadyJson : json.Steady) : r.decode json ≠ .error .overflow := by
  cases json with
  | object fields =>
    exact ((steady_surroundings _ steadyJson).both
      (steady _ (steady_slotsOfFields steadyJson))).settle
  | array items =>
    exact ((steady_overlong steadyJson).both
      (steady _ (steady_slotsOfItems r steadyJson))).settle
  | _ => exact mismatch_ne_overflow steadyJson r.expected

theorem Codec.Steady.record {r : Record α} (steady : r.Steady) : r.codec.Steady :=
  fun _ all => steady.decode all

theorem Variant.Steady.ofRecord {tag : String} {r : Record β} (steady : r.Steady) (into : β → α)
    (back : α → Option β) : (Variant.ofRecord tag r into back).Steady :=
  fun _ all => map_ne_overflow (steady.decode all) into

end CollectionRunner
