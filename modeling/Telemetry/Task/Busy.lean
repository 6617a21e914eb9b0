/-
Accounting for the time a task is running.

A task folds the time since its last checkpoint into its busy time at every
checkpoint, and does not count the time of a call that may block.

* `BusyClock.checkpoint` — folds the time up to a reading of the clock;
* `BusyClock.block` — a call that may block: a checkpoint before it, and a new
  beginning after it.
-/
import Telemetry.Time

namespace Telemetry

/-- The instant from which time counts, and the busy time folded so far. -/
structure BusyClock where
  since : Instant
  busy : Duration
deriving DecidableEq

namespace BusyClock

/-- The clock of a task that begins at `now`. -/
def start (now : Instant) : BusyClock := ⟨now, 0⟩

/-- Folds the time up to `now`. -/
def checkpoint (b : BusyClock) (now : Instant) : BusyClock :=
  ⟨now, b.busy + (now - b.since).toNat⟩

/-- A call that may block, begun at `before` and over at `after`. -/
def block (b : BusyClock) (before after : Instant) : BusyClock :=
  { b.checkpoint before with since := after }

/-- The busy time in whole microseconds. -/
def micros (b : BusyClock) : Nat := b.busy / 1000

end BusyClock

end Telemetry
