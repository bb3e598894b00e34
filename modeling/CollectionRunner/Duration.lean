import CollectionRunner.Http.Model
import CollectionRunner.Number.Digits

/-!
# Spans of time

Durations count nanoseconds. Documents hold timeouts as whole milliseconds and measured times as
milliseconds with a fraction; the latter are rounded on their way in and out.
-/

namespace CollectionRunner

/-- A span of time. -/
structure Duration where
  nanoseconds : Nat
  deriving DecidableEq, Repr, Inhabited

namespace Duration

/-- No time at all. -/
def zero : Duration := ⟨0⟩

/-- A number of whole milliseconds. -/
def ofMilliseconds (ms : Nat) : Duration := ⟨ms * 1000000⟩

/-- The whole milliseconds of a span. -/
def milliseconds (d : Duration) : Nat := d.nanoseconds / 1000000

/-- The whole milliseconds as they fit 64 bits. -/
def wordMilliseconds (d : Duration) : Nat := d.milliseconds % wordBound

/-- The span in seconds, the whole seconds and the rest each rounded before they are added. -/
def seconds (d : Duration) : Float :=
  (UInt64.ofNat (d.nanoseconds / 1000000000)).toFloat +
    (UInt64.ofNat (d.nanoseconds % 1000000000)).toFloat / 1000000000.0

/-- The span in milliseconds with a fraction. -/
def fractional (d : Duration) : Float := d.seconds * 1000.0

/-- The span nearest to a finite, non-negative number of seconds, ties to an even nanosecond; nothing
when the seconds do not fit 64 bits. -/
def ofSeconds? (x : Float) : Option Duration :=
  let b := Number.binary x
  let num := b.significand * Number.twoTo b.exponent.toNat
  let den := Number.twoTo (-b.exponent).toNat
  if wordBound ≤ num / den then none
  else
    let nanos := num * 1000000000
    let down := nanos / den
    let rest := nanos % den
    some ⟨if 2 * rest < den || (2 * rest == den && down % 2 == 0) then down else down + 1⟩

/-- The span of a number of milliseconds; negative numbers count as zero. -/
def ofFractional? (ms : Float) : Option Duration :=
  ofSeconds? ((if ms > 0.0 then ms else 0.0) / 1000.0)

/-- Timeouts in documents. -/
def wholeCodec : Codec Duration :=
  (Codec.natural 64).map ofMilliseconds wordMilliseconds

/-- Measured times in documents. Reading one that no clock can measure aborts. -/
def fractionalCodec : Codec Duration where
  encode d := .double d.fractional
  decode json := do
    let ms ← Codec.double.decode json
    match ofFractional? ms with
    | some d => return d
    | none => .error .overflow

end Duration

end CollectionRunner
