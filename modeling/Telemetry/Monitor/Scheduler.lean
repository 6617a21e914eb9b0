/-
Schedulers: where a monitor gets its snapshots from.

* `ScriptedScheduler` — replays snapshots and then repeats the last of them;
* `AnnouncedScheduler` — replays snapshots, each with a task count announced before
  it, which need not be true.
-/
import Telemetry.Task.Status

namespace Telemetry

/-- A source of task counts and snapshots. -/
class Scheduler (σ : Type) where
  /-- The number of live tasks. -/
  taskCount : σ → Nat
  /-- The figures of all live tasks. -/
  snapshot : σ → Snapshot × σ

/-- Snapshots to come, and the one given last. -/
structure ScriptedScheduler where
  pending : List Snapshot
  last : Snapshot := Snapshot.empty

namespace ScriptedScheduler

/-- A scheduler that has given no snapshot yet. -/
def create (snapshots : List Snapshot) : ScriptedScheduler := ⟨snapshots, Snapshot.empty⟩

instance : Scheduler ScriptedScheduler where
  taskCount s :=
    match s.pending with
    | next :: _ => next.tasks.length
    | [] => s.last.tasks.length
  snapshot s :=
    match s.pending with
    | next :: rest => (next, ⟨rest, next⟩)
    | [] => (s.last, s)

end ScriptedScheduler

/-- Snapshots to come, each with the count announced for it. -/
structure AnnouncedScheduler where
  pending : List (Nat × Snapshot)

instance : Scheduler AnnouncedScheduler where
  taskCount s :=
    match s.pending with
    | (n, _) :: _ => n
    | [] => 0
  snapshot s :=
    match s.pending with
    | (_, next) :: rest => (next, ⟨rest⟩)
    | [] => (Snapshot.empty, s)

end Telemetry
