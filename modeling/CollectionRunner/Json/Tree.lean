import CollectionRunner.Json.Fault
import CollectionRunner.Number.Layout
import CollectionRunner.Text.Quoted

/-!
# JSON documents as far as they can be read

A document is read into a tree before anyone knows what type it should have, yet what is wrong with
it depends on that type: a value nobody asks for may hold a number out of range, and a type mismatch
early in the text hides a syntax error further on. So the tree records where its text stops making
sense (`torn`, `cut`) and the reader of a typed document meets those marks in the order of the text.
-/

namespace CollectionRunner

/-- A JSON tree. Objects keep their fields in the order of the text, duplicates included. -/
inductive Json
  | null
  | bool (b : Bool)
  | integer (i : Int)
  | double (x : Float)
  | string (s : String)
  | array (items : List Json)
  | object (fields : List (String × Json))
  /-- A value that cannot be read, with the fault of reading it and, unless it can be skipped, the
  fault of skipping it. -/
  | torn (read : Fault) (skip : Option Fault)
  /-- The place where an array or object stops before another value was begun. -/
  | cut (read : Fault) (skip : Option Fault)
  deriving Repr, Inhabited

namespace Json

mutual

/-- First fault met when a value is skipped unread. -/
def skipFault : Json → Option Fault
  | .torn _ skip => skip
  | .cut _ skip => skip
  | .array items => skipFaultItems items
  | .object fields => skipFaultFields fields
  | _ => none

/-- First fault met when the items of an array are skipped. -/
def skipFaultItems : List Json → Option Fault
  | [] => none
  | item :: rest => (skipFault item).or (skipFaultItems rest)

/-- First fault met when the fields of an object are skipped. -/
def skipFaultFields : List (String × Json) → Option Fault
  | [] => none
  | (_, value) :: rest => (skipFault value).or (skipFaultFields rest)

end

mutual

/-- First fault met when a value is read whatever it is. -/
def readFault : Json → Option Fault
  | .torn read _ => some read
  | .cut read _ => some read
  | .array items => readFaultItems items
  | .object fields => readFaultFields fields
  | _ => none

/-- First fault met when the items of an array are read. -/
def readFaultItems : List Json → Option Fault
  | [] => none
  | item :: rest => (readFault item).or (readFaultItems rest)

/-- First fault met when the fields of an object are read. -/
def readFaultFields : List (String × Json) → Option Fault
  | [] => none
  | (_, value) :: rest => (readFault value).or (readFaultFields rest)

end

mutual

/-- Number of values nested in one another. -/
def height : Json → Nat
  | .array items => heightItems items + 1
  | .object fields => heightFields fields + 1
  | _ => 1

/-- Largest height of the items of an array. -/
def heightItems : List Json → Nat
  | [] => 0
  | item :: rest => max (height item) (heightItems rest)

/-- Largest height of the fields of an object. -/
def heightFields : List (String × Json) → Nat
  | [] => 0
  | (_, value) :: rest => max (height value) (heightFields rest)

end

/-- Value of a field, the last one of its name. -/
def field? (name : String) : Json → Option Json
  | .object fields => fields.reverse.lookup name
  | _ => none

/-- What a value is, for messages. -/
def kindText : Json → String
  | .null => "null"
  | .bool b => "boolean \x60" ++ (if b then "true" else "false") ++ "\x60"
  | .integer i => s!"integer \x60{i}\x60"
  | .double x => "floating point \x60" ++ Number.documentText x ++ "\x60"
  | .string s => "string " ++ Text.quoted s
  | .array _ => "sequence"
  | .object _ => "map"
  | .torn _ _ => "nothing"
  | .cut _ _ => "nothing"

/-- Double nearest to an integer. -/
def doubleOfInt (i : Int) : Float := Number.ofInt i

end Json

end CollectionRunner
