import CollectionRunner.Files
import CollectionRunner.Json.Print
import CollectionRunner.Number.Parse
import CollectionRunner.Text.Blank
import CollectionRunner.Text.Quoted

/-!
# Values that scripts and their host exchange

Whatever a script hands to the program is seen as one of six kinds of value: nothing, a truth value,
a double, a text, a list, or a map with its names in ascending order.
-/

namespace CollectionRunner

/-- A value exchanged with a script. -/
inductive ScriptValue
  | null
  | bool (b : Bool)
  | number (x : Float)
  | text (s : String)
  | list (items : List ScriptValue)
  | map (entries : List (String × ScriptValue))
  deriving Repr, Inhabited

namespace ScriptValue

/-! ## Numbers -/

/-- The integer a double is, when it is one that every larger computation still holds exactly. -/
def integral? (x : Float) : Option Int :=
  match Number.whole? x with
  | some i => if i.natAbs < 9000000000000000 then some i else none
  | none => none

/-- Text of a number: integers without fraction, everything else in full digits. -/
def numberText (x : Float) : String :=
  match integral? x with
  | some i => toString i
  | none =>
    if Number.notANumber x then "NaN"
    else if Number.finite x then Number.plainText x
    else if Number.signed x then "-Infinity"
    else "Infinity"

/-! ## Looking at values -/

/-- Whether there is no value. -/
def isAbsent : ScriptValue → Bool
  | null => true
  | _ => false

/-- Whether a condition on the value holds: not for nothing, `false`, zero, what is no number, and the
empty text. -/
def isTruthy : ScriptValue → Bool
  | null => false
  | bool b => b
  | number x => x != 0.0 && !Number.notANumber x
  | text s => !s.isEmpty
  | list _ => true
  | map _ => true

/-- Name of the kind of the value. -/
def typeName : ScriptValue → String
  | null => "null"
  | bool _ => "boolean"
  | number _ => "number"
  | text _ => "string"
  | list _ => "list"
  | map _ => "map"

/-- The number a value stands for in comparisons. -/
def toNumber? : ScriptValue → Option Float
  | number x => some x
  | bool b => some (if b then 1.0 else 0.0)
  | text s => Number.parse (Text.trim s)
  | _ => none

/-- Number of characters, items or entries. -/
def length? : ScriptValue → Option Nat
  | text s => some s.length
  | list items => some items.length
  | map entries => some entries.length
  | _ => none

mutual

/-- Equality of values. Numbers are equal as numbers: zero has one value, and what is no number
differs from itself. -/
def same : ScriptValue → ScriptValue → Bool
  | null, null => true
  | bool a, bool b => a == b
  | number x, number y => x == y
  | text a, text b => a == b
  | list a, list b => sameItems a b
  | map a, map b => sameEntries a b
  | _, _ => false

/-- Equality of lists. -/
def sameItems : List ScriptValue → List ScriptValue → Bool
  | [], [] => true
  | a :: as, b :: bs => same a b && sameItems as bs
  | _, _ => false

/-- Equality of maps. -/
def sameEntries : List (String × ScriptValue) → List (String × ScriptValue) → Bool
  | [], [] => true
  | (k, a) :: as, (l, b) :: bs => k == l && same a b && sameEntries as bs
  | _, _ => false

end

/-! ## Texts -/

/-- Items between brackets. -/
def bracketed (items : List String) : String :=
  if items.isEmpty then "[]" else "[ " ++ String.intercalate ", " items ++ " ]"

/-- Entries between braces. -/
def braced (entries : List String) : String :=
  if entries.isEmpty then "\x7b\x7d" else "\x7b " ++ String.intercalate ", " entries ++ " \x7d"

mutual

/-- The value as the console shows it. -/
def display : ScriptValue → String
  | null => "null"
  | bool b => if b then "true" else "false"
  | number x => numberText x
  | text s => s
  | list items => bracketed (displayItems items)
  | map entries => braced (displayEntries entries)

/-- The items of a list as the console shows them. -/
def displayItems : List ScriptValue → List String
  | [] => []
  | item :: rest => display item :: displayItems rest

/-- The entries of a map as the console shows them. -/
def displayEntries : List (String × ScriptValue) → List String
  | [] => []
  | (name, value) :: rest => (name ++ ": " ++ display value) :: displayEntries rest

end

mutual

/-- The value as messages show it, with texts in quotes. -/
def describe : ScriptValue → String
  | null => "null"
  | bool b => if b then "true" else "false"
  | number x => numberText x
  | text s => Text.quoted s
  | list items => bracketed (describeItems items)
  | map entries => braced (describeEntries entries)

/-- The items of a list as messages show them. -/
def describeItems : List ScriptValue → List String
  | [] => []
  | item :: rest => describe item :: describeItems rest

/-- The entries of a map as messages show them. -/
def describeEntries : List (String × ScriptValue) → List String
  | [] => []
  | (name, value) :: rest => (name ++ ": " ++ describe value) :: describeEntries rest

end

/-- Values as one line of console output. -/
def consoleText (values : List ScriptValue) : String :=
  String.intercalate " " (values.map display)

/-! ## Documents -/

/-- A number in documents: an integer when it is one, nothing when it is not finite. -/
def numberJson (x : Float) : Json :=
  match integral? x with
  | some i => .integer i
  | none => if Number.finite x then .double x else .null

mutual

/-- The value as a document. -/
def toJson : ScriptValue → Json
  | null => .null
  | bool b => .bool b
  | number x => numberJson x
  | text s => .string s
  | list items => .array (toJsonItems items)
  | map entries => .object (toJsonEntries entries)

/-- The items of a list as documents. -/
def toJsonItems : List ScriptValue → List Json
  | [] => []
  | item :: rest => toJson item :: toJsonItems rest

/-- The entries of a map as documents. -/
def toJsonEntries : List (String × ScriptValue) → List (String × Json)
  | [] => []
  | (name, value) :: rest => (name, toJson value) :: toJsonEntries rest

end

/-- Put an entry into a map in the order of the names, in place of one of its name. -/
def insertEntry (name : String) (value : α) : List (String × α) → List (String × α)
  | [] => [(name, value)]
  | (key, old) :: rest =>
    if name < key then (name, value) :: (key, old) :: rest
    else if name = key then (name, value) :: rest
    else (key, old) :: insertEntry name value rest

mutual

/-- The value of a document, of duplicate fields the last. -/
def ofJson : Json → ScriptValue
  | .bool b => bool b
  | .integer i => number (Json.doubleOfInt i)
  | .double x => number x
  | .string s => text s
  | .array items => list (ofJsonItems items)
  | .object fields => map (ofJsonFields [] fields)
  | _ => null

/-- The items of an array. -/
def ofJsonItems : List Json → List ScriptValue
  | [] => []
  | item :: rest => ofJson item :: ofJsonItems rest

/-- The fields of an object, added to entries. -/
def ofJsonFields (entries : List (String × ScriptValue)) :
    List (String × Json) → List (String × ScriptValue)
  | [] => entries
  | (name, value) :: rest => ofJsonFields (insertEntry name (ofJson value) entries) rest

end

/-- The value of a text that is a document; nothing when it is none. -/
def parse (s : String) : ScriptValue :=
  match Codec.json.parse s with
  | .ok json => ofJson json
  | .error _ => null

/-- The text kept in a variable: texts as they are, nothing as the empty text, everything else as a
document. -/
def toVariable : ScriptValue → String
  | text s => s
  | null => ""
  | other => (toJson other).compact

end ScriptValue

end CollectionRunner
