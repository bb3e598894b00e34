import CollectionRunner.Json.Fault
import CollectionRunner.Json.Read

/-!
# Places of faults

A fault says how much of its text follows, or which value is wrong. `Fault.place` turns either into a
line and a column: a wrong scalar is known once it is read, a wrong array or object before it is
entered, and what an array or object lacks when it is over.
-/

namespace CollectionRunner

namespace Json

/-- A place in a text: the line, counted from one, and the bytes before it in that line. -/
structure Place where
  line : Nat
  column : Nat
  deriving DecidableEq, Repr, Inhabited

/-- The place so many bytes further. -/
def Place.advance (p : Place) : Nat → List Char → Place
  | _, [] => p
  | offset, c :: rest =>
    if offset < c.utf8Size then { p with column := p.column + offset }
    else
      (if c = '\n' then ⟨p.line + 1, 0⟩ else { p with column := p.column + c.utf8Size } : Place).advance
        (offset - c.utf8Size) rest

/-! ## Parts of a text -/

/-- The text after the value that it starts with. -/
def afterValue (cs : List Char) : List Char := ((readValue (fuelFor cs) 0 cs).rest).getD []

/-- The text from an item on, given the text from an earlier one on. -/
def itemAt : Nat → List Char → List Char
  | 0, cs => skipGap cs
  | i + 1, cs => itemAt i ((skipGap (afterValue cs)).drop 1)

/-- The text after the key that it starts with. -/
def afterKey (cs : List Char) : List Char := skipGap (afterValue cs)

/-- The text from an entry on, given the text from an earlier one on. -/
def entryAt : Nat → List Char → List Char
  | 0, cs => skipGap cs
  | i + 1, cs => entryAt i ((skipGap (afterValue ((afterKey cs).drop 1))).drop 1)

/-- The text from a value on: the path tells the items and entries on the way to it. -/
def focus : List Nat → List Char → List Char
  | [], cs => skipGap cs
  | i :: path, cs =>
    match skipGap cs with
    | '[' :: rest => focus path (itemAt i rest)
    | '\x7b' :: rest => focus path ((afterKey (entryAt i rest)).drop 1)
    | cs => cs

/-! ## Where a value is found to be wrong -/

/-- The text left when the first value of a text is found to be of the wrong kind. -/
def leftOfWrong : List Char → List Char
  | '[' :: rest => '[' :: rest
  | '\x7b' :: rest => '\x7b' :: rest
  | cs => afterValue cs

/-- The text left when an entry of the object that a text starts with is found to be one too many. -/
def leftOfDuplicate (entry : Nat) (cs : List Char) : List Char :=
  match afterKey (entryAt entry (cs.drop 1)) with
  | '\x7d' :: rest => rest
  | cs => cs

end Json

/-- Number of bytes that follow when a value at the start of a text is found to be wrong. -/
def Mismatch.left (cs : List Char) : Mismatch → Nat
  | kind _ _ => Json.bytes (Json.leftOfWrong cs)
  | value _ _ => Json.bytes (Json.leftOfWrong cs)
  | length _ _ => Json.bytes (Json.afterValue cs)
  | missing _ => Json.bytes (Json.afterValue cs)
  | duplicate _ entry => Json.bytes (Json.leftOfDuplicate entry cs)
  | surplus => Json.bytes cs - 1

namespace Fault

/-- Number of bytes of a text that follow a fault. -/
def left (cs : List Char) : Fault → Nat
  | text _ left => left
  | form path m => m.left (Json.focus path cs)
  | overflow => 0

/-- The place of a fault in its text. -/
def place (cs : List Char) (f : Fault) : Json.Place :=
  Json.Place.advance ⟨1, 0⟩ (Json.bytes cs - f.left cs) cs

end Fault

end CollectionRunner
