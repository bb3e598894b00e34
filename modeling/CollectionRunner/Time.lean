import CollectionRunner.Json.Codec
import CollectionRunner.Number.Power
import CollectionRunner.Text.Blank

/-!
# Moments in time

A moment is a number of seconds since the beginning of 1970 and a number of nanoseconds, which exceeds
a second during a leap second. Documents hold moments as dates with a time and an offset; they are
written in universal time with as many digits as they need, in groups of three.
-/

namespace CollectionRunner

/-- A moment in time. -/
structure Moment where
  seconds : Int
  nanoseconds : Nat
  deriving DecidableEq, Repr, Inhabited

/-- A day of the calendar. -/
structure Date where
  year : Int
  month : Nat
  day : Nat
  deriving DecidableEq, Repr

namespace Date

/-- Whether a year has a 29th of February. -/
def leapYear (year : Int) : Bool := year % 4 == 0 && (year % 100 != 0 || year % 400 == 0)

/-- Number of days of a month. -/
def monthLength (year : Int) (month : Nat) : Nat :=
  if month = 2 then (if leapYear year then 29 else 28)
  else if month = 4 ∨ month = 6 ∨ month = 9 ∨ month = 11 then 30
  else 31

/-- Days from the beginning of 1970 to a date. Years are counted from March, so that the leap day
comes last. -/
def toDays (d : Date) : Int :=
  let year := if d.month ≤ 2 then d.year - 1 else d.year
  let era := year.fdiv 400
  let yearOfEra := year - era * 400
  let monthFromMarch : Int := if d.month ≤ 2 then d.month + 9 else d.month - 3
  let dayOfYear := (153 * monthFromMarch + 2) / 5 + d.day - 1
  let dayOfEra := yearOfEra * 365 + yearOfEra / 4 - yearOfEra / 100 + dayOfYear
  era * 146097 + dayOfEra - 719468

/-- The date a number of days after the beginning of 1970. -/
def ofDays (days : Int) : Date :=
  let shifted := days + 719468
  let era := shifted.fdiv 146097
  let dayOfEra := shifted - era * 146097
  let yearOfEra := (dayOfEra - dayOfEra / 1460 + dayOfEra / 36524 - dayOfEra / 146096) / 365
  let dayOfYear := dayOfEra - (365 * yearOfEra + yearOfEra / 4 - yearOfEra / 100)
  let monthFromMarch := (5 * dayOfYear + 2) / 153
  let day := dayOfYear - (153 * monthFromMarch + 2) / 5 + 1
  let month := if monthFromMarch < 10 then monthFromMarch + 3 else monthFromMarch - 9
  let year := yearOfEra + era * 400
  ⟨if month ≤ 2 then year + 1 else year, month.toNat, day.toNat⟩

end Date

/-- Digits of a number with zeros before them. -/
def padded (width n : Nat) : String :=
  let digits := Nat.toDigits 10 n
  String.ofList (List.replicate (width - digits.length) '0' ++ digits)

namespace Moment

/-- The date of a moment, and the hour, minute, second and fraction of its time. -/
def parts (m : Moment) : Date × Nat × Nat × Nat × Nat :=
  let days := m.seconds.fdiv 86400
  let time := (m.seconds - days * 86400).toNat
  let leap := m.nanoseconds / 1000000000
  (Date.ofDays days, time / 3600, time / 60 % 60, time % 60 + leap, m.nanoseconds % 1000000000)

/-- A year, with a sign when it does not have four digits. -/
def yearText (year : Int) : String :=
  if 0 ≤ year ∧ year ≤ 9999 then padded 4 year.toNat
  else (if year < 0 then "-" else "+") ++ padded 4 year.natAbs

/-- The fraction of a second with its point. -/
def fractionText (nanoseconds : Nat) : String :=
  if nanoseconds = 0 then ""
  else if nanoseconds % 1000000 = 0 then "." ++ padded 3 (nanoseconds / 1000000)
  else if nanoseconds % 1000 = 0 then "." ++ padded 6 (nanoseconds / 1000)
  else "." ++ padded 9 nanoseconds

/-- Date and time of a moment with a text for its part of a second. -/
def textWith (fraction : String) (m : Moment) : String :=
  let (date, hour, minute, second, _) := m.parts
  yearText date.year ++ "-" ++ padded 2 date.month ++ "-" ++ padded 2 date.day ++ "T" ++
    padded 2 hour ++ ":" ++ padded 2 minute ++ ":" ++ padded 2 second ++ fraction ++ "Z"

/-- Milliseconds of the second of a moment. -/
def milliseconds (m : Moment) : Nat := m.nanoseconds % 1000000000 / 1000000

/-- A moment in documents. -/
def text (m : Moment) : String :=
  let (_, _, _, _, fraction) := m.parts
  m.textWith (fractionText fraction)

/-- A moment to the millisecond. -/
def millisecondText (m : Moment) : String := m.textWith ("." ++ padded 3 m.milliseconds)

/-- Date and time in digits, as names use them. -/
def stamp (m : Moment) : String :=
  let (date, hour, minute, second, _) := m.parts
  yearText date.year ++ padded 2 date.month ++ padded 2 date.day ++ "-" ++
    padded 2 hour ++ padded 2 minute ++ padded 2 second

/-- The stamp and the milliseconds. -/
def preciseStamp (m : Moment) : String :=
  m.stamp ++ "-" ++ padded 3 m.milliseconds

/-! ## Reading -/

/-- A text without the white space it starts with. -/
def skipBlank (cs : List Char) : List Char := cs.dropWhile Text.blank

/-- Value of digits. -/
def digitsNat (digits : List Char) : Nat :=
  digits.foldl (fun n c => n * 10 + (c.toNat - '0'.toNat)) 0

/-- At most `width` digits, at least one, after white space. -/
def readDigits (width : Nat) (cs : List Char) : Option (Nat × List Char) :=
  let cs := skipBlank cs
  let digits := (cs.take width).takeWhile Char.isDigit
  if digits.isEmpty then none else some (digitsNat digits, cs.drop digits.length)

/-- A year: four digits at most, or any number of them after a sign. -/
def readYear (cs : List Char) : Option (Int × List Char) :=
  match skipBlank cs with
  | '-' :: rest => (digitsOnly rest).map fun (n, rest) => (-(n : Int), rest)
  | '+' :: rest => (digitsOnly rest).map fun (n, rest) => ((n : Int), rest)
  | cs => (readDigits 4 cs).map fun (n, rest) => ((n : Int), rest)
where
  /-- Digits without white space before them. -/
  digitsOnly (cs : List Char) : Option (Nat × List Char) :=
    let digits := cs.takeWhile Char.isDigit
    if digits.isEmpty then none else some (digitsNat digits, cs.dropWhile Char.isDigit)

/-- A separator after white space. -/
def readMark (c : Char) (cs : List Char) : Option (List Char) :=
  match skipBlank cs with
  | d :: rest => if d = c then some rest else none
  | [] => none

/-- The fraction of a second in nanoseconds; digits beyond the ninth are dropped. -/
def readFraction (cs : List Char) : Option (Nat × List Char) :=
  match cs with
  | '.' :: rest =>
    let digits := rest.takeWhile Char.isDigit
    if digits.isEmpty then none
    else
      let kept := digits.take 9
      some (digitsNat kept * Number.tenTo (9 - kept.length), rest.dropWhile Char.isDigit)
  | _ => some (0, cs)

/-- Two digits with no white space before them. -/
def readTwo : List Char → Option (Nat × List Char)
  | a :: b :: rest => if a.isDigit && b.isDigit then some (digitsNat [a, b], rest) else none
  | _ => none

/-- The offset from universal time, in seconds. -/
def readOffset (cs : List Char) : Option (Int × List Char) :=
  match skipBlank cs with
  | c :: rest =>
    if c = 'Z' ∨ c = 'z' then
      some (0, rest)
    else if c = '+' ∨ c = '-' ∨ c = '\u2212' then do
      let (hours, rest) ← readTwo rest
      let rest := rest.dropWhile fun c => c == ':' || Text.blank c
      let (minutes, rest) ← readTwo rest
      if 60 ≤ minutes ∨ 24 ≤ hours then none
      else
        let offset : Int := hours * 3600 + minutes * 60
        some (if c = '+' then offset else -offset, rest)
    else
      match c :: rest with
      | a :: b :: d :: rest =>
        if [a, b, d].map Char.toLower = ['u', 't', 'c'] then some (0, rest) else none
      | _ => none
  | [] => none

/-- Years that moments can lie in. -/
def yearBound : Int := 262142

/-- Read a moment as documents hold it. -/
def read (s : String) : Option Moment := do
  let (year, cs) ← readYear s.toList
  let (month, cs) ← readDigits 2 (← readMark '-' cs)
  let (day, cs) ← readDigits 2 (← readMark '-' cs)
  let cs ← match cs with
    | c :: rest => if c = 'T' ∨ c = 't' ∨ c = ' ' then some rest else none
    | [] => none
  let (hour, cs) ← readDigits 2 cs
  let (minute, cs) ← readDigits 2 (← readMark ':' cs)
  let (second, cs) ← readDigits 2 (← readMark ':' cs)
  let (nanoseconds, cs) ← readFraction cs
  let (offset, cs) ← readOffset cs
  if (skipBlank cs).isEmpty && year.natAbs ≤ yearBound && 1 ≤ month && month ≤ 12 && 1 ≤ day &&
      day ≤ Date.monthLength year month && hour < 24 && minute < 60 && second ≤ 60 then
    let days := Date.toDays ⟨year, month, day⟩
    let leap := second / 60
    return ⟨days * 86400 + hour * 3600 + minute * 60 + (second - leap) - offset,
      nanoseconds + leap * 1000000000⟩
  else none

/-- Moments in documents. -/
def codec : Codec Moment where
  encode m := .string m.text
  decode json := do
    let s ← Codec.string.decode json
    match read s with
    | some m => return m
    | none => .error (.form [] (.value (Json.string s).kindText "a date and time"))

end Moment

end CollectionRunner
