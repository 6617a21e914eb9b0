/-
The registry of task identities.

A registry has a fixed number of slots. An identity takes the first free slot when
it is first seen and keeps it for good, with the name and budget it had then; the
slot remembers the runtime seen last.

* `Registry.find`, `Registry.allocate`, `Registry.resolve` — from an identity to
  its slot, an old or a new one;
* `Registry.recordEpoch` — accounts one snapshot: a record for each of its tasks if
  the epoch was long enough, and in any case the runtimes and the total are kept.

Design notes: an epoch that fails keeps what it did before the entry it failed on,
so its answer comes together with the registry it leaves. Counters that go back
count as no progress.
-/
import Telemetry.Monitor.Budgets
import Telemetry.Notice

namespace Telemetry

/-- What a registry remembers of one identity. -/
structure Slot where
  id : TaskId
  name : String
  stackBudget : Nat
  lastRuntime : Nat
deriving DecidableEq

/-- Slots, some of them free, and the total of the last snapshot accounted. -/
structure Registry where
  slots : List (Option Slot)
  lastTotal : Nat := 0

namespace Registry

/-- The number of slots of the program's registry. -/
def defaultCapacity : Nat := 12

/-- A registry whose slots are all free. -/
def create (capacity : Nat) : Registry := ⟨List.replicate capacity none, 0⟩

/-- The number of slots. -/
def capacity (r : Registry) : Nat := r.slots.length

/-- The occupied slots. -/
def occupied (r : Registry) : List Slot := r.slots.filterMap id

/-- The number of occupied slots. -/
def count (r : Registry) : Nat := r.occupied.length

/-- Whether a slot holds an identity. -/
def holds (id : TaskId) : Option Slot → Bool
  | none => false
  | some s => s.id == id

/-- The position of the slot of an identity. -/
def find (r : Registry) (id : TaskId) : Option Nat := r.slots.findIdx? (holds id)

/-- The slot at a position. -/
def slot? (r : Registry) (i : Nat) : Option Slot := r.slots[i]?.join

/-- The registry with a new slot at a position. -/
def setSlot (r : Registry) (i : Nat) (s : Slot) : Registry :=
  { r with slots := r.slots.set i (some s) }

/-- Gives an identity the first free slot. -/
def allocate (r : Registry) (id : TaskId) (name : String) (budget : Nat) :
    Step Registry (Except MonitorError Nat) :=
  match r.slots.findIdx? (·.isNone) with
  | none => ⟨.error (.capacityExceeded (r.count + 1) r.capacity), r, []⟩
  | some i => ⟨.ok i, r.setSlot i ⟨id, name, budget, 0⟩, [.slotAssigned i name id]⟩

/-- The slot of a task, a new one if it has none. -/
def resolve (r : Registry) (budgets : StackBudgets) (task : TaskStatus) :
    Step Registry (Except MonitorError Nat) :=
  match r.find task.id with
  | some i => ⟨.ok i, r, []⟩
  | none =>
    match budgets.get? task.name with
    | none => ⟨.error (.unconfigured task.id task.name), r, []⟩
    | some budget => r.allocate task.id task.name budget

/-- Remembers a runtime in a slot; the answer is the slot before that. -/
def remember (r : Registry) (i runtime : Nat) : Option Slot × Registry :=
  match r.slot? i with
  | none => (none, r)
  | some s => (some s, r.setSlot i { s with lastRuntime := runtime })

/-- The record of a task whose slot was `s` before the epoch. -/
def record (s : Slot) (task : TaskStatus) (deltaTotal : Nat) : Record :=
  ⟨task.id.number, task.name, s.stackBudget, task.stackHighWater,
    task.runtime - s.lastRuntime, deltaTotal⟩

/-- Accounts tasks one after the other, up to the first that has no slot and can get
none. -/
def account (budgets : StackBudgets) (deltaTotal : Nat) :
    List TaskStatus → Registry → Step Registry (Except MonitorError (List Record))
  | [], r => ⟨.ok [], r, []⟩
  | task :: rest, r =>
    let resolved := r.resolve budgets task
    match resolved.answer with
    | .error e => ⟨.error e, resolved.state, resolved.notices⟩
    | .ok i =>
      let (before, r) := resolved.state.remember i task.runtime
      let later := account budgets deltaTotal rest r
      let own := (before.map fun s => record s task deltaTotal).toList
      ⟨later.answer.map (own ++ ·), later.state, resolved.notices ++ later.notices⟩

/-- Accounts one snapshot. Records come only from epochs of at least `threshold`. -/
def recordEpoch (r : Registry) (snapshot : Snapshot) (budgets : StackBudgets)
    (threshold : Nat) : Step Registry (Except MonitorError (List Record)) :=
  if r.capacity < snapshot.tasks.length then
    ⟨.error (.capacityExceeded snapshot.tasks.length r.capacity), r, []⟩
  else
    let deltaTotal := snapshot.total - r.lastTotal
    let done := account budgets deltaTotal snapshot.tasks r
    match done.answer with
    | .error e => ⟨.error e, done.state, done.notices⟩
    | .ok records =>
      ⟨.ok (if threshold ≤ deltaTotal then records else []),
        { done.state with lastTotal := snapshot.total }, done.notices⟩

end Registry

end Telemetry
