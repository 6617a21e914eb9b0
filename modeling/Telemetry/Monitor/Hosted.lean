/-
The scheduler of the program itself: its table of tasks.

* `HostedScheduler` — a table of tasks with the running time of the program, which is read after
  the entries of the table.
-/
import Telemetry.Monitor.Scheduler
import Telemetry.Task.Table

namespace Telemetry

/-- A table of tasks, and for how many microseconds the program has been running. -/
structure HostedScheduler where
  table : TaskTable
  total : Nat

instance : Scheduler HostedScheduler where
  taskCount s := s.table.count
  snapshot s := (s.table.snapshot s.total, s)

end Telemetry
