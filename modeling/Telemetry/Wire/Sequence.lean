/-
Sequence numbers seen by a receiver.

* `Tracker.observe` — the gap before a sequence number and the tracker after it.

Design notes: a number that does not move forward by less than half the range is
a restart of the sender or a late datagram; it counts no gap and tracking goes on
from it.
-/

namespace Telemetry

/-- The last sequence number seen and the count of messages inferred missing. -/
structure Tracker where
  last : Option UInt32 := none
  missing : Nat := 0
deriving DecidableEq, Inhabited

namespace Tracker

/-- How many messages are missing between two sequence numbers. -/
def gap (last seqnum : UInt32) : UInt32 :=
  let step := seqnum - last
  if step = 0 ∨ step > 0x7FFFFFFF then 0 else step - 1

/-- The gap before `seqnum`, and the tracker that has seen it. -/
def observe (t : Tracker) (seqnum : UInt32) : UInt32 × Tracker :=
  let g := match t.last with
    | none => 0
    | some last => gap last seqnum
  (g, ⟨some seqnum, t.missing + g.toNat⟩)

end Tracker

end Telemetry
