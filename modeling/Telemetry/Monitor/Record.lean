/-
The share of one task in one epoch.

* `Record.cpuPercent` — the share in percent of the epoch, never below one;
* `Record.stackUsed` — the bytes of stack between the budget and the high water;
* `Record.text` — one line with both.

Design notes: the percentage divides by a hundredth of the epoch rounded down, so
it is exact only for long epochs; differences of naturals stop at zero.
-/
import Telemetry.Text.Blank

namespace Telemetry

/-- The figures of one task for one epoch. -/
structure Record where
  id : UInt32
  name : String
  stackBudget : Nat
  stackHighWater : Nat
  deltaRuntime : Nat
  deltaTotal : Nat
deriving DecidableEq

namespace Record

/-- The share of the epoch in percent, never below one. -/
def cpuPercent (r : Record) : Nat :=
  max 1 (r.deltaRuntime / max 1 (r.deltaTotal / 100))

/-- The bytes of stack used at the deepest. -/
def stackUsed (r : Record) : Nat :=
  r.stackBudget - r.stackHighWater

/-- A record as one line. -/
def text (r : Record) : String :=
  Text.padRight 10 r.name ++ " " ++ Text.padLeft 10 (toString r.deltaRuntime) ++ " " ++
    Text.padLeft 4 (toString r.cpuPercent) ++ "% stack " ++ toString r.stackUsed ++ "/" ++
    toString r.stackBudget

end Record

end Telemetry
