/-!
# What is wrong with documents

A text may be no JSON at all, or a value in it may not have the form that is asked for. The first is
known by how much of the text is left, the second by the path to the value.
-/

namespace CollectionRunner

/-- Why a text is no JSON. -/
inductive Malformation
  | listEnded
  | objectEnded
  | stringEnded
  | valueEnded
  | colonExpected
  | listCommaExpected
  | objectCommaExpected
  | wordExpected
  | valueExpected
  | keyExpected
  | badEscape
  | badNumber
  | numberTooLarge
  | controlCharacter
  /-- Half of a surrogate pair where a whole one is to be. -/
  | loneSurrogate
  /-- A surrogate pair that stops after its first half. -/
  | halfPair
  | trailingComma
  | trailingText
  | nestedTooDeep
  deriving DecidableEq, Repr, Inhabited

/-- Whether the text stops before it is complete. -/
def Malformation.isEnding : Malformation → Bool
  | listEnded => true
  | objectEnded => true
  | stringEnded => true
  | valueEnded => true
  | _ => false

/-- Why a text is no JSON, in words. -/
def Malformation.text : Malformation → String
  | listEnded => "EOF while parsing a list"
  | objectEnded => "EOF while parsing an object"
  | stringEnded => "EOF while parsing a string"
  | valueEnded => "EOF while parsing a value"
  | colonExpected => "expected \x60:\x60"
  | listCommaExpected => "expected \x60,\x60 or \x60]\x60"
  | objectCommaExpected => "expected \x60,\x60 or \x60\x7d\x60"
  | wordExpected => "expected ident"
  | valueExpected => "expected value"
  | keyExpected => "key must be a string"
  | badEscape => "invalid escape"
  | badNumber => "invalid number"
  | numberTooLarge => "number out of range"
  | controlCharacter => "control character (\\u0000-\\u001F) found while parsing a string"
  | loneSurrogate => "lone leading surrogate in hex escape"
  | halfPair => "unexpected end of hex escape"
  | trailingComma => "trailing comma"
  | trailingText => "trailing characters"
  | nestedTooDeep => "recursion limit exceeded"

/-- Why a value does not have the form that is asked for. -/
inductive Mismatch
  /-- It is of another kind. -/
  | kind (found expected : String)
  /-- It is of the right kind and not acceptable all the same. -/
  | value (found expected : String)
  /-- It has too few items. -/
  | length (found : Nat) (expected : String)
  | missing (field : String)
  /-- A field is given once more by an entry. -/
  | duplicate (field : String) (entry : Nat)
  /-- It is an item too many. -/
  | surplus
  deriving DecidableEq, Repr, Inhabited

/-- Why a value does not have the form that is asked for, in words. -/
def Mismatch.text : Mismatch → String
  | kind found expected => s!"invalid type: {found}, expected {expected}"
  | value found expected => s!"invalid value: {found}, expected {expected}"
  | length found expected => s!"invalid length {found}, expected {expected}"
  | missing field => s!"missing field \x60{field}\x60"
  | duplicate field _ => s!"duplicate field \x60{field}\x60"
  | surplus => Malformation.trailingText.text

/-- What is wrong with a document. -/
inductive Fault
  /-- The text is no JSON at the place which that many bytes follow. -/
  | text (m : Malformation) (left : Nat)
  /-- The value at a path of item and entry numbers has the wrong form. -/
  | form (path : List Nat) (m : Mismatch)
  /-- A duration is longer than a clock can measure; the reader aborts. -/
  | overflow
  deriving DecidableEq, Repr, Inhabited

namespace Fault

/-- The fault seen from a container of which the value is a part. -/
def under (i : Nat) : Fault → Fault
  | form path m => form (i :: path) m
  | f => f

/-- What is wrong, in words. -/
def message : Fault → String
  | text m _ => m.text
  | form _ m => m.text
  | overflow => "duration out of range"

/-- Whether the text stops before it is complete. -/
def isEnding : Fault → Bool
  | text m _ => m.isEnding
  | _ => false

/-- Whether the text breaks the rules of JSON, items too many included. -/
def isSyntax : Fault → Bool
  | text m _ => !m.isEnding
  | form _ .surplus => true
  | _ => false

/-- The fault of a value that comes where a record takes no further one. -/
def beyond : Fault → Fault
  | text .trailingComma left => text .trailingComma left
  | text .listEnded left => text .listEnded left
  | text _ left => text .trailingText left
  | f => f

end Fault

namespace Json

/-- Number of bytes of a text. -/
def bytes (cs : List Char) : Nat := cs.foldl (fun n c => n + c.utf8Size) 0

/-- A fault at the place that a text follows. -/
def before (m : Malformation) (cs : List Char) : Fault := .text m (bytes cs)

/-- A fault at the next byte of a text, or at its end. -/
def nextTo (m : Malformation) (cs : List Char) : Fault := .text m (bytes cs - 1)

end Json

end CollectionRunner
