import CollectionRunner.Text.Blank
import CollectionRunner.Text.Lossy

/-!
# Base64

Bytes are written in groups of three as four symbols of 64; a last group that is short is filled up
with padding. Reading accepts only what writing produces.
-/

namespace CollectionRunner.Base64

/-- The byte of the padding. -/
def padding : UInt8 := 61

/-- The symbol of a number below 64. -/
def symbol (n : Nat) : UInt8 :=
  if n < 26 then UInt8.ofNat (n + 65)
  else if n < 52 then UInt8.ofNat (n - 26 + 97)
  else if n < 62 then UInt8.ofNat (n - 52 + 48)
  else if n = 62 then 43
  else 47

/-- The number of a symbol. -/
def value? (b : UInt8) : Option Nat :=
  let n := b.toNat
  if 65 ≤ n ∧ n ≤ 90 then some (n - 65)
  else if 97 ≤ n ∧ n ≤ 122 then some (n - 97 + 26)
  else if 48 ≤ n ∧ n ≤ 57 then some (n - 48 + 52)
  else if n = 43 then some 62
  else if n = 47 then some 63
  else none

/-- Write bytes as symbols. -/
def encode : List UInt8 → List UInt8
  | [] => []
  | [a] => [symbol (a.toNat / 4), symbol (a.toNat % 4 * 16), padding, padding]
  | [a, b] =>
    [symbol (a.toNat / 4), symbol (a.toNat % 4 * 16 + b.toNat / 16), symbol (b.toNat % 16 * 4),
      padding]
  | a :: b :: c :: rest =>
    symbol (a.toNat / 4) :: symbol (a.toNat % 4 * 16 + b.toNat / 16) ::
      symbol (b.toNat % 16 * 4 + c.toNat / 64) :: symbol (c.toNat % 64) :: encode rest

/-- Why a text cannot be read. -/
inductive Fault
  | badSymbol (byte : UInt8) (offset : Nat)
  | badLastSymbol (byte : UInt8) (offset : Nat)
  | badLength (length : Nat)
  | badPadding
  deriving DecidableEq, Repr, Inhabited

/-- Why a text cannot be read, in words. -/
def Fault.text : Fault → String
  | badSymbol byte offset => s!"Invalid symbol {byte.toNat}, offset {offset}."
  | badLastSymbol byte offset => s!"Invalid last symbol {byte.toNat}, offset {offset}."
  | badLength length => s!"Invalid input length: {length}"
  | badPadding => "Invalid padding"

/-- The number of a symbol that stands at an offset. -/
def valueAt (byte : UInt8) (offset : Nat) : Except Fault Nat :=
  match value? byte with
  | some n => .ok n
  | none => .error (.badSymbol byte offset)

/-- The numbers of the symbols of the last group, and how much padding follows them. -/
def lastValues (start : Nat) : Nat → List Nat → Nat → List UInt8 → Except Fault (List Nat × Nat)
  | _, values, pads, [] => .ok (values, pads)
  | i, values, pads, b :: rest =>
    if b = padding then
      if i < 2 then .error (.badSymbol b (start + i))
      else lastValues start (i + 1) values (pads + 1) rest
    else if 0 < pads then .error (.badSymbol padding (start + i - pads))
    else do lastValues start (i + 1) (values ++ [← valueAt b (start + i)]) pads rest

/-- Read the last group, which starts at an offset. -/
def decodeLast (start : Nat) (group : List UInt8) : Except Fault (List UInt8) := do
  let (values, pads) ← lastValues start 0 [] 0 group
  let lastSymbol := Fault.badLastSymbol (group[values.length - 1]?.getD 0) (start + values.length - 1)
  match values with
  | [] => if group.isEmpty then return [] else throw (.badLength start)
  | [_] => throw (.badLength (start + 1))
  | [a, b] =>
    if pads ≠ 2 then throw .badPadding
    else if b % 16 ≠ 0 then throw lastSymbol
    else return [UInt8.ofNat (a * 4 + b / 16)]
  | [a, b, c] =>
    if pads ≠ 1 then throw .badPadding
    else if c % 4 ≠ 0 then throw lastSymbol
    else return [UInt8.ofNat (a * 4 + b / 16), UInt8.ofNat (b % 16 * 16 + c / 4)]
  | a :: b :: c :: d :: _ =>
    return [UInt8.ofNat (a * 4 + b / 16), UInt8.ofNat (b % 16 * 16 + c / 4),
      UInt8.ofNat (c % 4 * 64 + d)]

/-- Read symbols from an offset on. -/
def decodeFrom (start : Nat) : List UInt8 → Except Fault (List UInt8)
  | a :: b :: c :: d :: e :: rest => do
    let a ← valueAt a start
    let b ← valueAt b (start + 1)
    let c ← valueAt c (start + 2)
    let d ← valueAt d (start + 3)
    let after ← decodeFrom (start + 4) (e :: rest)
    return UInt8.ofNat (a * 4 + b / 16) :: UInt8.ofNat (b % 16 * 16 + c / 4) ::
      UInt8.ofNat (c % 4 * 64 + d) :: after
  | group => decodeLast start group

/-- Read symbols. A symbol too many that is none is found first. -/
def decode (symbols : List UInt8) : Except Fault (List UInt8) :=
  match symbols.getLast? with
  | some b =>
    if symbols.length % 4 = 1 ∧ b ≠ padding ∧ value? b = none then
      .error (.badSymbol b (symbols.length - 1))
    else decodeFrom 0 symbols
  | none => .ok []

/-- Write a text. -/
def encodeText (s : String) : String :=
  String.ofList ((encode (Text.bytes s)).map fun b => Char.ofNat b.toNat)

/-- Read a text, white space at its ends left aside. What is no text is replaced. -/
def decodeText (s : String) : Except Fault String := do
  return String.ofList (Text.lossy (← decode (Text.bytes (Text.trim s))))

end CollectionRunner.Base64
