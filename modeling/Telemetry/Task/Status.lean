/-
What a scheduler reports about its tasks.

A task has an identity, which means something only while the task lives, and the
figures that a scheduler keeps for it; a snapshot holds all live tasks with the
scheduler's own runtime counter, taken at one moment.
-/

namespace Telemetry

/-- The identity of a running task. -/
structure TaskId where
  number : UInt32
deriving DecidableEq, Inhabited

/-- The text of an identity. -/
def TaskId.text (id : TaskId) : String :=
  "TaskId(" ++ toString id.number.toNat ++ ")"

/-- The figures of one task: its runtime is cumulative and in ticks of the
scheduler, its high water is the least free stack ever seen, in bytes. -/
structure TaskStatus where
  id : TaskId
  name : String
  priority : UInt8
  runtime : Nat
  stackHighWater : Nat
deriving DecidableEq

/-- All live tasks and the scheduler's runtime counter. -/
structure Snapshot where
  tasks : List TaskStatus
  total : Nat
deriving DecidableEq

/-- A snapshot of a scheduler without tasks that has not run. -/
def Snapshot.empty : Snapshot := ⟨[], 0⟩

end Telemetry
