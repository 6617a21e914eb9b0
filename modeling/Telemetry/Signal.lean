/-
The values that flow through the pipeline.

A sample is one sensor reading, a command is what a control law answers to it,
and an actuator state pairs the two on their way to the network:

* `Command.clamp` — the command nearest to an unbounded integer;
* `invert` — the command opposite to a sample, defined without leaving sixteen
  bits, so that its agreement with `Command.clamp` is a statement.

Design notes: both are words of sixteen bits, because the wire carries exactly
sixteen bits of each and their two extreme values are where a wrap would hide.
-/

namespace Telemetry

/-- One sensor reading. -/
abbrev Sample := Int16

/-- The answer of a control law to one sample. -/
abbrev Command := Int16

/-- A sample together with the command computed for it. -/
structure ActuatorState where
  sample : Sample
  command : Command
deriving DecidableEq, Inhabited

/-- The command nearest to `v`. -/
def Command.clamp (v : Int) : Command :=
  Int16.ofInt (max (-32768) (min v 32767))

/-- The command opposite to a sample; the smallest sample has no opposite and
goes to the largest command. -/
def invert (s : Sample) : Command :=
  if s = Int16.minValue then Int16.maxValue else -s

/-- The text of a state in a notice. -/
def ActuatorState.text (s : ActuatorState) : String :=
  "ActuatorState \x7b sample: " ++ toString s.sample.toInt ++
    ", command: " ++ toString s.command.toInt ++ " \x7d"

end Telemetry
