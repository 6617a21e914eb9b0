/-
The monitor of the tasks.

* `Monitor.poll` — one epoch: the task count is judged first, and only then is a
  snapshot taken and accounted;
* `Monitor.report` — the notices of an epoch's records;
* `Monitor.forward` — the records offered to whoever listens;
* `Monitor.run` — epochs until one fails.
-/
import Telemetry.Channel
import Telemetry.Monitor.Registry
import Telemetry.Monitor.Scheduler

namespace Telemetry

/-- A monitor; `epochs` polls have succeeded. -/
structure Monitor where
  registry : Registry
  budgets : StackBudgets
  epochs : Nat := 0

namespace Monitor

/-- Epochs shorter than this many ticks give no records. -/
def threshold : Nat := 100

/-- A monitor that has not polled yet. -/
def create (registry : Registry) (budgets : StackBudgets) : Monitor := ⟨registry, budgets, 0⟩

variable {σ : Type} [Scheduler σ]

/-- One epoch. -/
def poll (m : Monitor) (s : σ) : Step (Monitor × σ) (Except MonitorError (List Record)) :=
  if m.registry.capacity < Scheduler.taskCount s then
    ⟨.error (.capacityExceeded (Scheduler.taskCount s) m.registry.capacity), (m, s), []⟩
  else
    let (snapshot, s) := Scheduler.snapshot s
    let epoch := m.registry.recordEpoch snapshot m.budgets threshold
    let m := { m with registry := epoch.state }
    match epoch.answer with
    | .error e => ⟨.error e, (m, s), epoch.notices⟩
    | .ok records => ⟨.ok records, ({ m with epochs := m.epochs + 1 }, s), epoch.notices⟩

/-- The notices of the records of one epoch; without records there are none. -/
def report (m : Monitor) (records : List Record) : List Notice :=
  if records.isEmpty then []
  else .epochReported m.epochs records.length :: records.map Notice.utilization

/-- Offers records to a channel; those it does not take are lost. -/
def forward (records : List Record) (tx : Channel Record) : Channel Record :=
  records.foldl (fun tx r => (tx.send r).2) tx

/-- At most `n` epochs, each reported and forwarded, up to the first that fails. -/
def run : Nat → Monitor × σ × Channel Record →
    Step (Monitor × σ × Channel Record) (Except MonitorError Unit)
  | 0, state => ⟨.ok (), state, []⟩
  | n + 1, (m, s, tx) =>
    let polled := m.poll s
    match polled.answer with
    | .error e => ⟨.error e, (polled.state.1, polled.state.2, tx), polled.notices⟩
    | .ok records =>
      let m := polled.state.1
      let rest := run n (m, polled.state.2, forward records tx)
      ⟨rest.answer, rest.state, polled.notices ++ m.report records ++ rest.notices⟩

end Monitor

end Telemetry
