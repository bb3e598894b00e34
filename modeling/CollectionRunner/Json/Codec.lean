import CollectionRunner.Json.Tree

/-!
# Typed documents

A `Codec` writes values of a type as trees and reads them back. Codecs of records are built field by
field: a `Record` knows the names of its fields, and reading one reports the fault that comes first
in the text, be it a field of the wrong type, a field given twice or something unreadable inside a
field nobody knows. A record may also be written as the array of its fields.
-/

namespace CollectionRunner

/-- How values of a type are written as trees and read from them. -/
structure Codec (α : Type) where
  encode : α → Json
  decode : Json → Except Fault α

namespace Codec

/-- Read through another type. -/
def map (c : Codec α) (into : α → β) (back : β → α) : Codec β where
  encode b := c.encode (back b)
  decode json := (c.decode json).map into

/-- Answer a value that is not of the expected kind: a tree that cannot be read keeps its own
fault. -/
def mismatch (expected : String) : Json → Except Fault α
  | .torn read _ => .error read
  | .cut read _ => .error read
  | json => .error (.form [] (.kind json.kindText expected))

/-- Trees as they are. -/
def json : Codec Json where
  encode j := j
  decode j := match j.readFault with
    | some fault => .error fault
    | none => .ok j

/-- Texts. -/
def string : Codec String where
  encode := .string
  decode
    | .string s => .ok s
    | other => mismatch "a string" other

/-- Truth values. -/
def bool : Codec Bool where
  encode := .bool
  decode
    | .bool b => .ok b
    | other => mismatch "a boolean" other

/-- Natural numbers of so many bits, written as integers. -/
def natural (bits : Nat) : Codec Nat where
  encode n := .integer n
  decode
    | .integer i =>
      if 0 ≤ i ∧ i.toNat < Number.twoTo bits then .ok i.toNat
      else .error (.form [] (.value (Json.integer i).kindText s!"u{bits}"))
    | other => mismatch s!"u{bits}" other

/-- Doubles; integers are accepted too. -/
def double : Codec Float where
  encode := .double
  decode
    | .double x => .ok x
    | .integer i => .ok (Json.doubleOfInt i)
    | other => mismatch "f64" other

/-- Read the items of an array one after the other, numbered from `i` on. -/
def decodeItems (item : Json → Except Fault α) (i : Nat) : List Json → Except Fault (List α)
  | [] => .ok []
  | .cut read _ :: _ => .error read
  | json :: rest => do
    let first ← (item json).mapError (Fault.under i)
    let others ← decodeItems item (i + 1) rest
    return first :: others

/-- Lists, written as arrays. -/
def list (c : Codec α) : Codec (List α) where
  encode items := .array (items.map c.encode)
  decode
    | .array items => decodeItems c.decode 0 items
    | other => mismatch "a sequence" other

/-- Values that may be absent, written as `null`. -/
def option (c : Codec α) : Codec (Option α) where
  encode
    | some a => c.encode a
    | none => .null
  decode
    | .null => .ok none
    | other => (c.decode other).map some

/-- A choice among named values, written as the name. An object whose only field has the name and
no value is read like the name. -/
def choice (names : List (String × α)) (name : α → String) : Codec α where
  encode a := .string (name a)
  decode json :=
    let find (s : String) : Except Fault α :=
      match names.lookup s with
      | some a => .ok a
      | none => .error (.form [] (.value (Json.string s).kindText "a known name"))
    match json with
    | .string s => find s
    | .object [(s, .null)] => find s
    | other => mismatch "a name" other

end Codec

/-! ## Records -/

/-- The fields of a record as they stand in a document, each with its place. -/
structure Slots where
  find : List String → Option (Nat × Json)
  /-- Whether the fields were written as an array. -/
  positional : Bool
  /-- What is wrong when a field that must be there is not. -/
  lack : List String → Fault

/-- What reading a part of a record finds: a value, or a fault and its place. A fault without place
comes after all that have one. -/
abbrev Found (α : Type) := Except (Option Nat × Fault) α

namespace Found

/-- Whether a fault at the first place is met no later than one at the second. -/
def noLater : Option Nat → Option Nat → Bool
  | some i, some j => i ≤ j
  | none, some _ => false
  | _, none => true

/-- Both values, or the fault that is met first. -/
def both : Found α → Found β → Found (α × β)
  | .ok a, .ok b => .ok (a, b)
  | .ok _, .error e => .error e
  | .error e, .ok _ => .error e
  | .error e, .error f => .error (if noLater e.1 f.1 then e else f)

end Found

/-- One field of a record. -/
structure Field (α : Type) where
  /-- The name it is written with, and the others it is read by. -/
  names : List String
  /-- Its tree; nothing when it is left out. -/
  encode : α → Option Json
  decode : Json → Except Fault α
  /-- Value when an object does not have the field. -/
  absent : Option α
  /-- Value when an array ends before the field. -/
  short : Option α

namespace Field

/-- A field that must be there. -/
def required (name : String) (c : Codec α) : Field α :=
  ⟨[name], fun a => some (c.encode a), c.decode, none, none⟩

/-- A field with a value of its own when it is missing. -/
def defaulted (name : String) (c : Codec α) (value : α) : Field α :=
  ⟨[name], fun a => some (c.encode a), c.decode, some value, some value⟩

/-- A field left out when it has no value. -/
def optional (name : String) (c : Codec α) : Field (Option α) :=
  ⟨[name], fun a => a.map c.encode, c.option.decode, some none, some none⟩

/-- A field left out of objects when it has no value, but not of arrays. -/
def optionalNamed (name : String) (c : Codec α) : Field (Option α) :=
  { optional name c with short := none }

/-- A field that is always written, `null` when it has no value. -/
def nullable (name : String) (c : Codec α) : Field (Option α) :=
  ⟨[name], fun a => some (c.option.encode a), c.option.decode, some none, none⟩

/-- Read also by another name. -/
def alsoNamed (f : Field α) (other : String) : Field α := { f with names := f.names ++ [other] }

/-- Read the field among those of its record. -/
def read (f : Field α) (slots : Slots) : Found α :=
  match slots.find f.names with
  | some (place, json) =>
    match f.decode json with
    | .ok a => .ok a
    | .error fault => .error (some place, fault.under place)
  | none =>
    match if slots.positional then f.short else f.absent with
    | some a => .ok a
    | none => .error (none, slots.lack f.names)

end Field

/-- The fields of a record, or some of them. -/
structure Record (α : Type) where
  /-- What is written, for messages. -/
  title : String
  /-- The names of each field, in the order they are declared. -/
  names : List (List String)
  encode : α → List (String × Json)
  read : Slots → Found α

namespace Record

/-- No field. -/
def nil : Record Unit := ⟨"", [], fun _ => [], fun _ => .ok ()⟩

/-- Say what is written. -/
def titled (r : Record α) (title : String) : Record α := { r with title }

/-- A field before others. -/
def cons (f : Field α) (r : Record β) : Record (α × β) where
  title := r.title
  names := f.names :: r.names
  encode a :=
    match f.encode a.1 with
    | some json => (f.names.headD "", json) :: r.encode a.2
    | none => r.encode a.2
  read slots := (f.read slots).both (r.read slots)

/-- Read through another type. -/
def map (r : Record α) (into : α → β) (back : β → α) : Record β where
  title := r.title
  names := r.names
  encode b := r.encode (back b)
  read slots := (r.read slots).map into

/-- First of the entries that has one of the names, with its place. -/
def findEntry (names : List String) : Nat → List (String × Json) → Option (Nat × Json)
  | _, [] => none
  | place, (key, json) :: rest =>
    if names.contains key then some (place, json) else findEntry names (place + 1) rest

/-- Position of the field with a name. -/
def fieldIndex (names : List (List String)) (key : String) : Option Nat :=
  names.findIdx? (·.contains key)

/-- The first fault of an object besides those of its fields' values: a field given twice, an object
that stops, or an unreadable value of an unknown field. -/
def surroundings (names : List (List String)) :
    Nat → List Nat → List (String × Json) → Found Unit
  | _, _, [] => .ok ()
  | place, seen, (key, json) :: rest =>
    match fieldIndex names key with
    | some i =>
      if seen.contains i then
        .error (some place, .form [] (.duplicate ((names[i]?.bind List.head?).getD key) place))
      else
        match json with
        | .cut read _ => .error (some place, read)
        | _ => surroundings names (place + 1) (i :: seen) rest
    | none =>
      match json with
      | .cut read _ => .error (some place, read)
      | _ =>
        match json.skipFault with
        | some fault => .error (some place, fault)
        | none => surroundings names (place + 1) seen rest

/-- The fault of what comes where an array has all the fields of a record: the array may stop there,
but no value is read. -/
def surplusFault (place : Nat) : Json → Fault
  | .cut read _ => read.beyond
  | .torn (.text .trailingComma left) _ => .text .trailingComma left
  | _ => .form [place] .surplus

/-- The first fault of an array besides those of its fields' values: an array that stops early or
that has more items than the record has fields. -/
def overlong : Nat → Nat → List Json → Found Unit
  | _, _, [] => .ok ()
  | place, 0, json :: _ => .error (some place, surplusFault place json)
  | place, _ + 1, .cut read _ :: _ => .error (some place, read)
  | place, count + 1, _ :: rest => overlong (place + 1) count rest

/-- Forget the place of a fault. -/
def settle : Found (Unit × α) → Except Fault α
  | .ok (_, a) => .ok a
  | .error (_, fault) => .error fault

/-- What is read, in words. -/
def expected (r : Record α) : String := "struct " ++ r.title

/-- What is read from an array, in words. -/
def expectedItems (r : Record α) : String :=
  let count := r.names.length
  s!"{r.expected} with {count} element" ++ (if count = 1 then "" else "s")

/-- The fields of an object. -/
def slotsOfFields (fields : List (String × Json)) : Slots where
  find names := findEntry names 0 fields
  positional := false
  lack names := .form [] (.missing (names.headD ""))

/-- The fields of an array. -/
def slotsOfItems (r : Record α) (items : List Json) : Slots where
  find names :=
    findEntry names 0 ((r.names.zip items).map fun (names, json) => (names.headD "", json))
  positional := true
  lack names := .form [] (.length (r.names.findIdx (· == names)) r.expectedItems)

/-- Read a record from an object or an array. -/
def decode (r : Record α) : Json → Except Fault α
  | .object fields => settle ((surroundings r.names 0 [] fields).both (r.read (slotsOfFields fields)))
  | .array items =>
    settle ((overlong 0 r.names.length items).both (r.read (r.slotsOfItems items)))
  | other => Codec.mismatch r.expected other

/-- Records as objects. -/
def codec (r : Record α) : Codec α where
  encode a := .object (r.encode a)
  decode := r.decode

end Record

/-! ## Tagged values -/

/-- One form of a value that names its form in a field beside its other fields. -/
structure Variant (α : Type) where
  tag : String
  /-- The other fields, when the value has this form. -/
  encode : α → Option (List (String × Json))
  decode : Json → Except Fault α

namespace Variant

/-- A form with the fields of a record. -/
def ofRecord (tag : String) (r : Record β) (into : β → α) (back : α → Option β) : Variant α where
  tag := tag
  encode a := (back a).map r.encode
  decode json := (r.decode json).map into

/-- A form that is itself a tagged value, its fields standing beside the tag. -/
def ofCodec (tag : String) (c : Codec β) (into : β → α) (back : α → Option β) : Variant α where
  tag := tag
  encode a := (back a).map fun b =>
    match c.encode b with
    | .object fields => fields
    | _ => []
  decode json := (c.decode json).map into

/-- Read the form with a tag. -/
def choose (variants : List (Variant α)) (tag : String) (rest : Json) : Except Fault α :=
  match variants.find? (·.tag == tag) with
  | some v => v.decode rest
  | none => .error (.form [] (.value (Json.string tag).kindText "a known name"))

/-- The first form that can write a value, with its tag. -/
def encodeFirst (key : String) (a : α) : List (Variant α) → Json
  | [] => .null
  | v :: rest =>
    match v.encode a with
    | some fields => .object ((key, .string v.tag) :: fields)
    | none => encodeFirst key a rest

end Variant

/-- Values written as objects with a field `key` that names their form, or as arrays that start with
the name. The whole tree is read before its form is looked at. -/
def Codec.tagged (key : String) (variants : List (Variant α)) : Codec α where
  encode a := Variant.encodeFirst key a variants
  decode json :=
    match json.readFault with
    | some fault => .error fault
    | none =>
      match json with
      | .object fields =>
        match fields.filter (·.1 == key) with
        | [(_, .string tag)] =>
          Variant.choose variants tag (.object (fields.filter (·.1 != key)))
        | [] => .error (.form [] (.missing key))
        | (_, first) :: _ => Codec.mismatch "a name" first
      | .array (.string tag :: rest) => Variant.choose variants tag (.array rest)
      | other => Codec.mismatch "a tagged value" other

end CollectionRunner
