/-
Durations and instants.

Durations are natural numbers of nanoseconds; instants are integers of
nanoseconds from an origin that nothing depends on, so that a schedule may start
before the first reading of a clock.

* `Duration.text` — the text of a duration in the largest unit that fits it, with
  the digits of the fraction that are needed and no more.
-/

namespace Telemetry

/-- A length of time in nanoseconds. -/
abbrev Duration := Nat

/-- A point in time, in nanoseconds from a fixed origin. -/
abbrev Instant := Int

namespace Duration

/-- A duration of whole milliseconds. -/
def ofMillis (ms : Nat) : Duration := ms * 1000000

/-- A duration of whole seconds and nanoseconds. -/
def ofParts (secs nanos : Nat) : Duration := secs * 1000000000 + nanos

/-- The digits of `n` on `width` places, without the zeros at their end. -/
def fraction (width n : Nat) : String :=
  let digits := Nat.toDigits 10 n
  let placed := List.replicate (width - digits.length) '0' ++ digits
  String.ofList ((placed.reverse.dropWhile (· == '0')).reverse)

/-- The whole part and fraction of a quotient by a power of ten. -/
def decimal (n width : Nat) : String :=
  let unit := Nat.pow 10 width
  if n % unit = 0 then toString (n / unit)
  else toString (n / unit) ++ "." ++ fraction width (n % unit)

/-- A duration in seconds, milliseconds, microseconds or nanoseconds, the largest
of them that it reaches. -/
def text (d : Duration) : String :=
  if 1000000000 ≤ d then decimal d 9 ++ "s"
  else if 1000000 ≤ d then decimal d 6 ++ "ms"
  else if 1000 ≤ d then decimal d 3 ++ "µs"
  else toString d ++ "ns"

end Duration

end Telemetry
