import CollectionRunner.Number.Rounding

/-!
# Reading doubles

A text stands for a double when it is an optional sign followed by `inf`, `infinity` or `nan` in any
case, or by decimal digits with an optional point and exponent. The double is the one nearest to
what the digits say.
-/

namespace CollectionRunner.Number

/-- Value of decimal digits. -/
def digitsValue (digits : List Char) : Nat :=
  digits.foldl (fun n c => n * 10 + (c.toNat - '0'.toNat)) 0

/-- Largest exponent that is told apart from still larger ones. -/
def exponentCap : Nat := 1000000000

/-- Value of the digits of an exponent, at most `exponentCap`. -/
def exponentValue (digits : List Char) : Nat :=
  digits.foldl (fun n c => min exponentCap (n * 10 + (c.toNat - '0'.toNat))) 0

/-- The exponent after a mantissa, and nothing else. -/
def parseExponent : List Char → Option Int
  | [] => some 0
  | c :: rest =>
    if c == 'e' || c == 'E' then
      let (negative, digits) := match rest with
        | '-' :: digits => (true, digits)
        | '+' :: digits => (false, digits)
        | digits => (false, digits)
      if digits.isEmpty || !digits.all Char.isDigit then none
      else some (if negative then -(exponentValue digits : Int) else exponentValue digits)
    else none

/-- The double nearest to an unsigned decimal text. -/
def parseMagnitude (cs : List Char) : Option Float :=
  let whole := cs.takeWhile Char.isDigit
  let rest := cs.dropWhile Char.isDigit
  let (fraction, rest) := match rest with
    | '.' :: rest => (rest.takeWhile Char.isDigit, rest.dropWhile Char.isDigit)
    | rest => ([], rest)
  if whole.isEmpty && fraction.isEmpty then none
  else
    (parseExponent rest).map fun e =>
      ofDecimal (digitsValue (whole ++ fraction)) (e - fraction.length)

/-- The double without sign that a word stands for. -/
def parseWord (cs : List Char) : Option Float :=
  let word := String.ofList (cs.map Char.toLower)
  if word == "inf" || word == "infinity" then some (Float.ofBits 0x7FF0000000000000)
  else if word == "nan" then some (Float.ofBits 0x7FF8000000000000)
  else none

/-- The double a text stands for. -/
def parse (text : String) : Option Float :=
  let (negative, cs) := match text.toList with
    | '-' :: rest => (true, rest)
    | '+' :: rest => (false, rest)
    | cs => (false, cs)
  ((parseWord cs).or (parseMagnitude cs)).map fun x => if negative then -x else x

end CollectionRunner.Number
