import CollectionRunner.Number.Power

/-!
# Rounding quotients to doubles

`nearest num den` is the double closest to the quotient of two natural numbers, ties going to the
even significand. Every decimal text the program reads becomes a double through it
(`ofDecimal`), so reading is exact: no intermediate result is rounded.
-/

namespace CollectionRunner.Number

/-- Exponent of the unit in the last place of the double nearest to a value in
`[2 ^ e, 2 ^ (e + 1))`; doubles below the normal range share the unit `2 ^ -1074`. -/
def unitExponent (e : Int) : Int := max (e - 52) (-1074)

/-- Bit pattern of the infinity of positive sign. -/
def infinityBits : Nat := 0x7FF0000000000000

/-- Divide by `2 ^ drop`, rounding to nearest with ties to even; `sticky` says that the dividend
stands for a slightly larger number. -/
def roundShift (n drop : Nat) (sticky : Bool) : Nat :=
  let kept := n >>> drop
  let rest := n - (kept <<< drop)
  let half := (1 <<< drop) / 2
  if drop = 0 then kept
  else if half < rest || (rest == half && (sticky || kept % 2 == 1)) then kept + 1 else kept

/-- Bits of the double nearest to `num / den`, for a positive quotient. -/
def nearestBits (num den : Nat) : Nat :=
  -- Scale so that the quotient keeps at least 66 significant bits.
  let shift : Int := 66 + (den.log2 : Int) - (num.log2 : Int)
  let scaledNum := if 0 ≤ shift then num <<< shift.toNat else num
  let scaledDen := if 0 ≤ shift then den else den <<< (-shift).toNat
  let quotient := scaledNum / scaledDen
  let sticky := scaledNum % scaledDen != 0
  let e : Int := (quotient.log2 : Int) - shift
  if 1024 ≤ e then infinityBits
  else if e < -1080 then 0
  else
    let unit := unitExponent e
    let significand := roundShift quotient (unit + shift).toNat sticky
    min infinityBits ((unit + 1074).toNat * twoTo 52 + significand)

/-- The double nearest to `num / den`, ties to even, overflowing to infinity. -/
def nearest (num den : Nat) : Float :=
  if num = 0 then 0.0 else Float.ofBits (UInt64.ofNat (nearestBits num den))

/-- The double nearest to `coefficient * 10 ^ exponent`. Exponents far outside the range of doubles
are answered without computing the power. -/
def ofDecimal (coefficient : Nat) (exponent : Int) : Float :=
  if coefficient = 0 then 0.0
  else
    let size : Int := (coefficient.log2 : Int) * 3 / 10 + exponent
    if 400 < size then Float.ofBits (UInt64.ofNat infinityBits)
    else if size < -400 then 0.0
    else if 0 ≤ exponent then nearest (coefficient * tenTo exponent.toNat) 1
    else nearest coefficient (tenTo (-exponent).toNat)

/-- The double nearest to an integer. -/
def ofInt (i : Int) : Float :=
  if i < 0 then -nearest i.natAbs 1 else nearest i.natAbs 1

end CollectionRunner.Number
