import CollectionRunner.Json.Tree
import CollectionRunner.Number.Layout

/-!
# Printing JSON documents

`compact` writes a tree without white space, `pretty` with one item or field a line and an
indentation of two blanks.
-/

namespace CollectionRunner.Json

/-- A character inside a string. -/
def escapeChar (c : Char) : List Char :=
  if c == '"' then ['\\', '"']
  else if c == '\\' then ['\\', '\\']
  else if c == '\n' then ['\\', 'n']
  else if c == '\r' then ['\\', 'r']
  else if c == '\t' then ['\\', 't']
  else if c == '\x08' then ['\\', 'b']
  else if c == '\x0c' then ['\\', 'f']
  else if c.toNat < 0x20 then
    ['\\', 'u', '0', '0', Nat.digitChar (c.toNat / 16), Nat.digitChar (c.toNat % 16)]
  else [c]

/-- A string with its quotes. -/
def stringText (s : String) : String :=
  String.ofList ('"' :: (s.toList.flatMap escapeChar ++ ['"']))

/-- A double; what is not finite is written as `null`. -/
def doubleText (x : Float) : String :=
  if Number.finite x then Number.documentText x else "null"

mutual

/-- A tree without white space. -/
def compact : Json → String
  | .null => "null"
  | .bool b => if b then "true" else "false"
  | .integer i => toString i
  | .double x => doubleText x
  | .string s => stringText s
  | .array items => "[" ++ String.intercalate "," (compactItems items) ++ "]"
  | .object fields => "\x7b" ++ String.intercalate "," (compactFields fields) ++ "\x7d"
  | .torn _ _ => "null"
  | .cut _ _ => "null"

/-- The items of an array. -/
def compactItems : List Json → List String
  | [] => []
  | item :: rest => compact item :: compactItems rest

/-- The fields of an object. -/
def compactFields : List (String × Json) → List String
  | [] => []
  | (name, value) :: rest => (stringText name ++ ":" ++ compact value) :: compactFields rest

end

/-- Start of a line at a depth of nesting. -/
def indent (depth : Nat) : String := String.ofList ('\n' :: List.replicate (2 * depth) ' ')

mutual

/-- A tree at a depth of nesting, one item or field a line. -/
def prettyAt (depth : Nat) : Json → String
  | .array [] => "[]"
  | .array (item :: rest) =>
    "[" ++ String.intercalate "," (prettyItems (depth + 1) (item :: rest)) ++ indent depth ++ "]"
  | .object [] => "\x7b\x7d"
  | .object (field :: rest) =>
    "\x7b" ++ String.intercalate "," (prettyFields (depth + 1) (field :: rest)) ++ indent depth ++
      "\x7d"
  | json => compact json

/-- The items of an array, each on its line. -/
def prettyItems (depth : Nat) : List Json → List String
  | [] => []
  | item :: rest => (indent depth ++ prettyAt depth item) :: prettyItems depth rest

/-- The fields of an object, each on its line. -/
def prettyFields (depth : Nat) : List (String × Json) → List String
  | [] => []
  | (name, value) :: rest =>
    (indent depth ++ stringText name ++ ": " ++ prettyAt depth value) :: prettyFields depth rest

end

/-- A tree over several lines. -/
def pretty (json : Json) : String := prettyAt 0 json

end CollectionRunner.Json
