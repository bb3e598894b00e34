import CollectionRunner.Number.Rounding

/-!
# The shortest digits of a double

A finite double is a significand times a power of two. `shortest` finds, in exact arithmetic, the
decimal with the fewest digits that lies among the reals rounding to the double, and of those the
one closest to it. `tenths` rounds the exact value to one decimal place.
-/

namespace CollectionRunner.Number

/-- A finite double without its sign: `significand * 2 ^ exponent`. -/
structure Binary where
  significand : Nat
  exponent : Int
  deriving DecidableEq, Repr

/-- A decimal `coefficient * 10 ^ exponent`. -/
structure Decimal where
  coefficient : Nat
  exponent : Int
  deriving DecidableEq, Repr

/-- Whether the sign bit is set. -/
def signed (x : Float) : Bool := x.toBits.toNat / twoTo 63 == 1

/-- Whether `x` is neither infinite nor a NaN. -/
def finite (x : Float) : Bool := x.toBits.toNat / twoTo 52 % 2048 != 2047

/-- Whether `x` is a NaN. -/
def notANumber (x : Float) : Bool := !finite x && x.toBits.toNat % twoTo 52 != 0

/-- Significand and exponent of a finite double. -/
def binary (x : Float) : Binary :=
  let bits : Nat := x.toBits.toNat
  let fraction : Nat := bits % twoTo 52
  let biased : Nat := bits / twoTo 52 % 2048
  if biased = 0 then ⟨fraction, -1074⟩ else ⟨fraction + twoTo 52, (biased : Int) - 1075⟩

/-- The value of a double that is a whole number. -/
def whole? (x : Float) : Option Int :=
  if finite x then
    let b := binary x
    let den := twoTo (-b.exponent).toNat
    if b.significand % den = 0 then
      let n : Int := (b.significand / den * twoTo b.exponent.toNat : Nat)
      some (if signed x then -n else n)
    else none
  else none

/-- The double without its fraction, as an integer. -/
def truncated (x : Float) : Int :=
  let b := binary x
  let n : Int := (b.significand * twoTo b.exponent.toNat / twoTo (-b.exponent).toNat : Nat)
  if signed x then -n else n

/-- The reals that round to a double, as quotients over one denominator: the value, the two ends,
and whether the ends belong to it. -/
structure Neighbourhood where
  low : Nat
  value : Nat
  high : Nat
  den : Nat
  closed : Bool

/-- Half the distance to the neighbours of a double on both sides. The lower neighbour of a power of
two is half as far away as the upper one. -/
def Binary.neighbourhood (b : Binary) : Neighbourhood :=
  let up := twoTo b.exponent.toNat
  let den := 4 * twoTo (-b.exponent).toNat
  let below := if b.significand = twoTo 52 && b.exponent != -1074 then 1 else 2
  { low := (4 * b.significand - below) * up
    value := 4 * b.significand * up
    high := (4 * b.significand + 2) * up
    den := den
    closed := b.significand % 2 == 0 }

/-- Number of decimal digits. -/
def digitCount (n : Nat) : Nat := (Nat.toDigits 10 n).length

/-- The `p` with `10 ^ (p - 1) ≤ num / den < 10 ^ p`. -/
def pointPosition (num den : Nat) : Int :=
  if den ≤ num then digitCount (num / den)
  else
    let d := digitCount (den / num)
    if num * tenTo (d - 1) = den then 2 - d else 1 - d

/-- Whether `k * 10 ^ p` is in the neighbourhood. -/
def Neighbourhood.holds (n : Neighbourhood) (k : Nat) (p : Int) : Bool :=
  let lhs := k * n.den * tenTo p.toNat
  let scale := tenTo (-p).toNat
  if n.closed then n.low * scale ≤ lhs && lhs ≤ n.high * scale
  else n.low * scale < lhs && lhs < n.high * scale

/-- The decimal with step `10 ^ p` closest to the value among the two next to it that lie in the
neighbourhood. -/
def Neighbourhood.onGrid (n : Neighbourhood) (p : Int) : Option Nat :=
  let num := n.value * tenTo (-p).toNat
  let den := n.den * tenTo p.toNat
  let down := num / den
  let rest := num % den
  let first := if 2 * rest < den || (2 * rest == den && down % 2 == 0) then down else down + 1
  let second := if first = down then down + 1 else down
  if n.holds first p then some first else if n.holds second p then some second else none

/-- Write a coefficient without trailing zeros. -/
def Decimal.stripped : Nat → Decimal → Decimal
  | 0, d => d
  | fuel + 1, d =>
    if d.coefficient ≠ 0 ∧ d.coefficient % 10 = 0 then
      stripped fuel ⟨d.coefficient / 10, d.exponent + 1⟩
    else d

/-- The first grid, coarsest first, that meets the neighbourhood. -/
def Neighbourhood.search (n : Neighbourhood) (top : Int) : Nat → Nat → Decimal
  | 0, _ => ⟨0, 0⟩
  | fuel + 1, count =>
    match n.onGrid (top - count) with
    | some k => if k = 0 then search n top fuel (count + 1) else Decimal.stripped 20 ⟨k, top - count⟩
    | none => search n top fuel (count + 1)

/-- Shortest decimal that reads back as the finite double `x`, sign left out. -/
def shortest (x : Float) : Decimal :=
  let b := binary x
  if b.significand = 0 then ⟨0, 0⟩
  else
    let n := b.neighbourhood
    n.search (pointPosition n.value n.den) 20 1

/-- The exact value of a finite double in tenths, rounded to nearest with ties to even. -/
def tenths (x : Float) : Nat :=
  let b := binary x
  let num := 10 * b.significand * twoTo b.exponent.toNat
  let den := twoTo (-b.exponent).toNat
  let down := num / den
  let rest := num % den
  if 2 * rest < den || (2 * rest == den && down % 2 == 0) then down else down + 1

end CollectionRunner.Number
