import CollectionRunner.Number.Digits

/-!
# Remainders of doubles
-/

namespace CollectionRunner.Number

/-- What is left of `x` after taking away `y` as often as it goes into it, with the sign of `x`. The
result is exact. -/
def remainder (x y : Float) : Float :=
  if !finite x || notANumber y || y == 0.0 then 0.0 / 0.0
  else if !finite y then x
  else
    let a := binary x
    let b := binary y
    let unit := min a.exponent b.exponent
    let rest := (a.significand * twoTo (a.exponent - unit).toNat) %
      (b.significand * twoTo (b.exponent - unit).toNat)
    let magnitude := nearest (rest * twoTo unit.toNat) (twoTo (-unit).toNat)
    if signed x then -magnitude else magnitude

end CollectionRunner.Number
