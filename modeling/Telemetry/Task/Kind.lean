/-
The four tasks of the program.

* `TaskKind.all` — the sampler, the transform stage, the transmitter and the
  monitor, each with a name, a priority and a stack budget.
-/

namespace Telemetry

/-- A task that the program always runs. -/
inductive TaskKind where
  | sensor
  | actuator
  | comms
  | stats
deriving DecidableEq

namespace TaskKind

/-- Every kind, in the order in which the tasks are started. -/
def all : List TaskKind := [.sensor, .actuator, .comms, .stats]

/-- The name under which a scheduler reports the task. -/
def name : TaskKind → String
  | .sensor => "Sensor"
  | .actuator => "Actuator"
  | .comms => "Comms"
  | .stats => "Stats"

/-- The lowest priority. -/
def idlePriority : UInt8 := 0

/-- The priority of the task; the monitor yields to the stages. -/
def priority : TaskKind → UInt8
  | .stats => idlePriority + 1
  | _ => idlePriority + 4

/-- The stack budget of the smallest task, in bytes. -/
def minimalStack : Nat := 256 * 1024

/-- The stack budget of the task, in bytes. -/
def stackSize : TaskKind → Nat
  | .stats => 2 * minimalStack
  | _ => minimalStack

/-- The kind with a given name. -/
def ofName? (name : String) : Option TaskKind :=
  all.find? fun k => k.name == name

end TaskKind

end Telemetry
