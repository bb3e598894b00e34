import CollectionRunner.Number.Digits

/-!
# Texts of doubles

The digits of a double are chosen once (`shortest`); the texts differ only in how they lay the
digits out: positionally or with an exponent, with or without a final `.0`.
-/

namespace CollectionRunner.Number

/-- Digits of the coefficient. -/
def Decimal.digits (d : Decimal) : List Char := Nat.toDigits 10 d.coefficient

/-- Exponent of the leading digit: the value is `d.ddd * 10 ^ leading`. -/
def Decimal.leading (d : Decimal) : Int := d.exponent + d.digits.length - 1

/-- The digits with a point and no exponent. -/
def Decimal.positional (d : Decimal) : String :=
  let ds := d.digits
  if 0 ≤ d.exponent then String.ofList (ds ++ List.replicate d.exponent.toNat '0')
  else
    let places := (-d.exponent).toNat
    if places < ds.length then
      String.ofList (ds.take (ds.length - places) ++ '.' :: ds.drop (ds.length - places))
    else String.ofList ('0' :: '.' :: (List.replicate (places - ds.length) '0' ++ ds))

/-- One digit before the point and an exponent, `plus` before a non-negative one. -/
def Decimal.scientific (d : Decimal) (plus : String) : String :=
  let mantissa := match d.digits with
    | [] => "0"
    | [c] => String.ofList [c]
    | c :: rest => String.ofList (c :: '.' :: rest)
  let e := d.leading
  mantissa ++ "e" ++ (if e < 0 then "-" else plus) ++ toString e.natAbs

/-- How finite doubles are laid out: leading digits with exponents in `[least, bound)` are written
positionally. -/
structure Layout where
  least : Int
  bound : Int
  plus : String
  /-- Whether whole numbers end in `.0`. -/
  pointed : Bool

/-- Text of a double, with texts for the three values that have no digits. -/
def Layout.text (l : Layout) (x : Float) : String :=
  if notANumber x then "NaN"
  else
    let sign := if signed x then "-" else ""
    if finite x then
      let d := shortest x
      sign ++
        if l.least ≤ d.leading && d.leading < l.bound || d.coefficient == 0 then
          d.positional ++ if l.pointed && 0 ≤ d.exponent then ".0" else ""
        else d.scientific l.plus
    else sign ++ "inf"

/-- Digits without exponent and without `.0`, however large or small the number is. -/
def plainText (x : Float) : String := Layout.text ⟨-400, 400, "", false⟩ x

/-- Numbers inside documents: `12.5`, `0.0`, `1e+16`, `1e-6`. -/
def documentText (x : Float) : String := Layout.text ⟨-5, 16, "+", true⟩ x

/-- Numbers inside displayed containers of the script language: `1.0`, `1e16`, `1e-5`. -/
def exactText (x : Float) : String := Layout.text ⟨-4, 16, "", true⟩ x

/-- Numbers as scripts print them: whole numbers keep `.0`, magnitudes above about `10 ^ 13` and
below about `10 ^ -13` get an exponent, and zero has no sign. -/
def scriptText (x : Float) : String :=
  let magnitude := Float.abs x
  if magnitude == 0.0 then "0.0"
  else if magnitude > 9999999827968.0 || magnitude < 9.9999998245167e-14 then
    Layout.text ⟨0, 1, "", false⟩ x
  else Layout.text ⟨-400, 400, "", true⟩ x

/-- A double with one decimal place. -/
def tenthsText (x : Float) : String :=
  if notANumber x then "NaN"
  else
    let sign := if signed x then "-" else ""
    if finite x then
      let t := tenths x
      sign ++ toString (t / 10) ++ "." ++ toString (t % 10)
    else sign ++ "inf"

end CollectionRunner.Number
