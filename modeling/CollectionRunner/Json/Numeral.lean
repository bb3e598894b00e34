import CollectionRunner.Json.Tree
import CollectionRunner.Number.Rounding

/-!
# Numbers of JSON documents

A number without fraction and exponent is an integer when it fits 64 bits. Any other number becomes
a double in one multiplication or division by a power of ten: at most the first digits that fit an
unsigned 64-bit integer are kept, so the last place may be off by one from the nearest double.
-/

namespace CollectionRunner.Json

/-- What the digits of a number say before they are turned into a value. -/
inductive Numeral
  | integer (i : Int)
  /-- `significand * 10 ^ exponent`. -/
  | scaled (significand : Nat) (exponent : Int)
  /-- An exponent too large to be stored, with its sign. -/
  | extreme (significand : Nat) (positive : Bool)
  deriving Repr

/-- Largest value of an unsigned 64-bit integer. -/
def maxNatural : Nat := Number.twoTo 64 - 1

/-- Largest exponent that is kept. -/
def maxExponent : Nat := Number.twoTo 31 - 1

/-- Value of a decimal digit. -/
def digitValue (c : Char) : Nat := c.toNat - '0'.toNat

/-- Digits accumulated as long as the sum fits 64 bits: the sum and the digits left over. -/
def accumulate (sum : Nat) : List Char → Nat × List Char
  | [] => (sum, [])
  | c :: rest =>
    let next := sum * 10 + digitValue c
    if next ≤ maxNatural then accumulate next rest else (sum, c :: rest)

/-- Exponent kept within the range of a 32-bit integer. -/
def saturate (e : Int) : Int := max (-(Number.twoTo 31)) (min (Number.twoTo 31 - 1) e)

/-- Meaning of a number from its integer digits, its fraction digits when it has a point, and its
exponent digits with their sign when it has one. -/
def Numeral.of (whole : List Char) (fraction : Option (List Char))
    (power : Option (Bool × List Char)) (negative : Bool) : Numeral :=
  let (sum, dropped) := accumulate 0 whole
  if dropped.isEmpty && fraction.isNone && power.isNone then
    if negative && (sum = 0 || Number.twoTo 63 < sum) then .scaled sum 0
    else .integer (if negative then -(sum : Int) else sum)
  else
    let (significand, unread) := accumulate sum (fraction.getD [])
    let kept := (fraction.getD []).length - unread.length
    let scale : Int := (dropped.length : Int) - kept
    match power with
    | none => .scaled significand scale
    | some (positive, digits) =>
      let e := digits.foldl (fun n c => min (n * 10 + digitValue c) (maxExponent + 1)) 0
      if maxExponent < e then .extreme significand positive
      else .scaled significand (saturate (if positive then scale + e else scale - e))

/-- The digits of an exponent after the one at which it gets too large. -/
def beyondExponent (e : Nat) : List Char → List Char
  | [] => []
  | c :: rest =>
    let e := e * 10 + digitValue c
    if maxExponent < e then rest else beyondExponent e rest

/-- `10 ^ n` for `n ≤ 308`, rounded to nearest. -/
def powerOfTen (n : Nat) : Float := Number.nearest (Number.tenTo n) 1

/-- Scale a magnitude down by `10 ^ exponent`, at most 308 places at a time. -/
def scaleDown : Nat → Float → Nat → Float
  | 0, x, _ => x
  | fuel + 1, x, places =>
    if places ≤ 308 then x / powerOfTen places
    else if x == 0.0 then x
    else scaleDown fuel (x / powerOfTen 308) (places - 308)

/-- Magnitude of `significand * 10 ^ exponent`, or nothing when it is out of range. -/
def magnitude (significand : Nat) (exponent : Int) : Option Float :=
  let x := (UInt64.ofNat significand).toFloat
  if exponent < 0 then some (scaleDown 8 x (-exponent).toNat)
  else if exponent ≤ 308 then
    let scaled := x * powerOfTen exponent.toNat
    if scaled.isInf then none else some scaled
  else if x == 0.0 then some x
  else none

/-- Tree of a number, given the digits of its exponent and the text after it; one out of range can be
skipped but not read. An exponent is found too large before its last digits are read. -/
def Numeral.json (negative : Bool) (power rest : List Char) : Numeral → Json
  | .integer i => .integer i
  | .scaled significand exponent =>
    match magnitude significand exponent with
    | some x => .double (if negative then -x else x)
    | none => .torn (before .numberTooLarge rest) none
  | .extreme significand positive =>
    if significand ≠ 0 ∧ positive then
      .torn (before .numberTooLarge (beyondExponent 0 power ++ rest)) none
    else .double (if negative then -0.0 else 0.0)

end CollectionRunner.Json
