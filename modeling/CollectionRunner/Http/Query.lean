import CollectionRunner.Text.Lossy

/-!
# Query parameters

The part of an address between the first question mark and the next number sign holds pairs of
names and values, joined by ampersands and encoded for forms.
-/

namespace CollectionRunner.Query

/-- Split a list at the first element equal to `sep`. -/
def splitFirst [BEq α] (sep : α) (l : List α) : List α × Option (List α) :=
  match l.dropWhile (· != sep) with
  | _ :: rest => (l.takeWhile (· != sep), some rest)
  | [] => (l, none)

/-- Split a list at every element equal to `sep`. -/
def splitAll [BEq α] (sep : α) : List α → List (List α)
  | [] => [[]]
  | a :: rest =>
    match splitAll sep rest with
    | [] => [[a]]
    | first :: others => if a == sep then [] :: first :: others else (a :: first) :: others

/-- Value of a hexadecimal digit. -/
def hexDigit (b : UInt8) : Option UInt8 :=
  if 0x30 ≤ b && b ≤ 0x39 then some (b - 0x30)
  else if 0x41 ≤ b && b ≤ 0x46 then some (b - 0x41 + 10)
  else if 0x61 ≤ b && b ≤ 0x66 then some (b - 0x61 + 10)
  else none

/-- Undo the encoding: plus signs are blanks, a percent sign before two hexadecimal digits a byte. -/
def unescape : List UInt8 → List UInt8
  | [] => []
  | 0x2b :: rest => 0x20 :: unescape rest
  | 0x25 :: a :: b :: rest =>
    match hexDigit a, hexDigit b with
    | some high, some low => (high * 16 + low) :: unescape rest
    | _, _ => 0x25 :: unescape (a :: b :: rest)
  | c :: rest => c :: unescape rest

/-- The text of an encoded part. -/
def decode (part : List UInt8) : String := String.ofList (Text.lossy (unescape part))

/-- The pairs of a query in order; empty parts hold none. -/
def pairs (query : String) : List (String × String) :=
  ((splitAll 0x26 (Text.bytes query)).filter (! ·.isEmpty)).map fun part =>
    let (name, value) := splitFirst 0x3d part
    (decode name, decode (value.getD []))

/-- The pairs of the query of an address. -/
def ofUrl (url : String) : List (String × String) :=
  match splitFirst '?' url.toList with
  | (_, some query) => pairs (String.ofList (splitFirst '#' query).1)
  | (_, none) => []

end CollectionRunner.Query
