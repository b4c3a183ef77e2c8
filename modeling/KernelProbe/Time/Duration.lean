import KernelProbe.Text.Numeral

/-!
# Durations and instants

A `Duration` is a whole number of nanoseconds, an `Instant` a point on the monotonic clock. `text`
writes a duration in the largest unit that it fills, with the exact fraction and no trailing zeros.
`Instant.add?` fails beyond the clock's last second.
-/

namespace KernelProbe

/-- A span of time in nanoseconds. -/
structure Duration where
  /-- The length in nanoseconds. -/
  nanos : Nat
deriving DecidableEq, Repr

namespace Duration

/-- Nanoseconds in a second. -/
def nanosPerSecond : Nat := 1000000000

/-- No time. -/
def zero : Duration := ⟨0⟩

/-- A span of whole seconds and nanoseconds. -/
def ofParts (seconds nanos : Nat) : Duration := ⟨seconds * nanosPerSecond + nanos⟩

/-- A span of whole seconds. -/
def ofSeconds (n : Nat) : Duration := ofParts n 0

/-- A span of whole milliseconds. -/
def ofMillis (n : Nat) : Duration := ⟨n * 1000000⟩

/-- Whether no time passes. -/
def isZero (d : Duration) : Bool := d.nanos == 0

/-- The whole seconds. -/
def seconds (d : Duration) : Nat := d.nanos / nanosPerSecond

/-- The nanoseconds beyond the whole seconds. -/
def subsecond (d : Duration) : Nat := d.nanos % nanosPerSecond

/-- The whole microseconds. -/
def micros (d : Duration) : Nat := d.nanos / 1000

/-- Digits without the zeros at their end. -/
def trimZeros (digits : List Char) : List Char :=
  (digits.reverse.dropWhile (· == '0')).reverse

/-- A quotient by `10 ^ places` in decimal, with a point only before a fraction. -/
def decimalFraction (n places : Nat) : String :=
  let whole := Text.decimal (n / Nat.pow 10 places)
  let fraction := trimZeros (Text.zeroPadded places (n % Nat.pow 10 places)).toList
  if fraction.isEmpty then whole else whole ++ "." ++ String.ofList fraction

/-- The span in seconds, milliseconds, microseconds or nanoseconds, the first that it fills. -/
def text (d : Duration) : String :=
  if d.nanos ≥ nanosPerSecond then decimalFraction d.nanos 9 ++ "s"
  else if d.nanos ≥ 1000000 then decimalFraction d.nanos 6 ++ "ms"
  else if d.nanos ≥ 1000 then decimalFraction d.nanos 3 ++ "µs"
  else decimalFraction d.nanos 0 ++ "ns"

end Duration

/-- A reading of the monotonic clock, in nanoseconds since its origin. -/
structure Instant where
  /-- Nanoseconds since the clock's origin. -/
  nanos : Nat
deriving DecidableEq, Repr

namespace Instant

/-- The greatest second that the clock can show. -/
def lastSecond : Nat := 0x7fffffffffffffff

/-- The time from `earlier` to `later`, none if they are out of order. -/
def since (later earlier : Instant) : Duration := ⟨later.nanos - earlier.nanos⟩

/-- The instant a span after `start`, unless its second lies beyond the last. -/
def add? (start : Instant) (d : Duration) : Option Instant :=
  let sum := start.nanos + d.nanos
  if sum / Duration.nanosPerSecond ≤ lastSecond then some ⟨sum⟩ else none

end Instant

end KernelProbe
