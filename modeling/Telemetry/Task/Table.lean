/-
The table of tasks.

A task gets a fresh identity and an entry before it starts; the entry is marked
dead when the task ends, in whatever way, or when it could not be started at all.
Entries are never removed and identities never reused.

* `TaskTable.draw`, `TaskTable.enlist`, `TaskTable.retire` — the three steps of which
  everything else is made;
* `TaskTable.spawn` — the steps of one start, with its outcome;
* `TaskTable.count`, `TaskTable.snapshot` — what a monitor sees.

Design notes: between drawing an identity and enlisting its entry other tasks may do
the same, so the two are separate. A total is read after the entries, so that no
task's runtime can exceed it.
-/
import Telemetry.Notice
import Telemetry.Task.Busy

namespace Telemetry

/-- What the table keeps of one task. -/
structure TaskEntry where
  id : TaskId
  name : String
  priority : UInt8
  stackSize : Nat
  clock : BusyClock
  stackDepth : Nat := 0
  alive : Bool := true

namespace TaskEntry

/-- The entry of a task that begins at `now`. -/
def create (id : TaskId) (name : String) (priority : UInt8) (stackSize : Nat) (now : Instant) :
    TaskEntry :=
  ⟨id, name, priority, stackSize, BusyClock.start now, 0, true⟩

/-- The entry of work that no table knows; its identity is zero. -/
def detached (name : String) (stackSize : Nat) (now : Instant) : TaskEntry :=
  create ⟨0⟩ name 0 stackSize now

/-- The figures of a task. -/
def status (e : TaskEntry) : TaskStatus :=
  ⟨e.id, e.name, e.priority, e.clock.micros, e.stackSize - e.stackDepth⟩

/-- The entry after the stack has been seen at a depth. -/
def probe (e : TaskEntry) (depth : Nat) : TaskEntry :=
  { e with stackDepth := max e.stackDepth depth }

end TaskEntry

/-- The next identity and the entries, oldest first. -/
structure TaskTable where
  nextId : UInt32 := 1
  entries : List TaskEntry := []

/-- How an attempt to start a task can fail. -/
inductive StartFault where
  | invalidName
  | refused
deriving DecidableEq

namespace TaskTable

/-- A table without tasks. -/
def empty : TaskTable := ⟨1, []⟩

/-- A fresh identity. -/
def draw (t : TaskTable) : TaskId × TaskTable :=
  (⟨t.nextId⟩, { t with nextId := t.nextId + 1 })

/-- The table with one more entry. -/
def enlist (t : TaskTable) (e : TaskEntry) : TaskTable :=
  { t with entries := t.entries ++ [e] }

/-- The table with a task marked dead. -/
def retire (t : TaskTable) (id : TaskId) : TaskTable :=
  { t with entries := t.entries.map fun e => if e.id = id then { e with alive := false } else e }

/-- The live entries. -/
def live (t : TaskTable) : List TaskEntry := t.entries.filter (·.alive)

/-- The number of live tasks. -/
def count (t : TaskTable) : Nat := t.live.length

/-- The figures of the live tasks, oldest first, and the total read after them. -/
def snapshot (t : TaskTable) (total : Nat) : Snapshot := ⟨t.live.map (·.status), total⟩

/-- The size of the address space; no stack can be as large. -/
def addressSpace : Nat := 140737488355328

/-- Why a task cannot be started, if it cannot. -/
def startFault? (name : String) (stackSize : Nat) : Option StartFault :=
  if name.toList.contains '\x00' then some .invalidName
  else if addressSpace ≤ stackSize then some .refused
  else none

/-- Registers a task and starts it. A task with an invalid name stays registered, one
that is refused does not. -/
def spawn (t : TaskTable) (name : String) (priority : UInt8) (stackSize : Nat) (now : Instant) :
    Step TaskTable (Except StartFault TaskId) :=
  let (id, t) := t.draw
  let t := t.enlist (TaskEntry.create id name priority stackSize now)
  match startFault? name stackSize with
  | none => ⟨.ok id, t, [.taskSpawned name id priority stackSize]⟩
  | some .invalidName => ⟨.error .invalidName, t, []⟩
  | some .refused => ⟨.error .refused, t.retire id, []⟩

/-- The error of a task that the system refused to start. -/
def refusal (name : String) : Error := .task ("Failed to spawn task " ++ name)

end TaskTable

end Telemetry
