/-
The periodic timer with absolute deadlines.

Each deadline is the one before it plus the period, whatever the clock read when
it was waited for, so delays do not add up.

* `Timer.wait` — moves to the next deadline and says how long to sleep, or by how
  much the deadline has been missed;
* `Timer.selfDriven` — the waits of a timer on a clock that advances only while
  the timer sleeps.
-/
import Telemetry.Error

namespace Telemetry

/-- A period and the deadline last waited for. -/
structure Timer where
  period : Duration
  lastWake : Instant
deriving DecidableEq

/-- The outcome of waiting for a deadline. -/
inductive Wait where
  | slept (d : Duration)
  | missed (late : Duration)
deriving DecidableEq

namespace Timer

/-- A timer whose first deadline is one period after `start`. -/
def startingAt (start : Instant) (period : Duration) : Timer := ⟨period, start⟩

/-- The deadline that the next wait is for. -/
def nextDeadline (t : Timer) : Instant := t.lastWake + t.period

/-- Waits for the next deadline when the clock reads `now`. -/
def wait (t : Timer) (now : Instant) : Wait × Timer :=
  let due := t.nextDeadline
  (if due ≤ now then .missed (now - due).toNat else .slept (due - now).toNat,
    { t with lastWake := due })

/-- The reading of the clock after a wait that began at `now`. -/
def after (now : Instant) : Wait → Instant
  | .slept d => now + d
  | .missed _ => now

/-- The first `n` waits of a timer on a clock that reads `now` at first and advances
only while the timer sleeps. -/
def selfDriven : Nat → Instant → Timer → List (Wait × Timer)
  | 0, _, _ => []
  | n + 1, now, t =>
    let (w, t) := t.wait now
    (w, t) :: selfDriven n (after now w) t

end Timer

/-- The error of a wait, if its deadline was missed. -/
def Wait.error? : Wait → Option PipelineError
  | .slept _ => none
  | .missed late => some (.deadlineMissed late)

end Telemetry
