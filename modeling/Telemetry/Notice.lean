/-
What the program reports while it runs.

A notice is an event with its data; its level, its text and, for the statistics,
its fields are functions of it. Every loss of a sample or state has a notice of
its own, so counting losses is counting notices:

* `Notice.level` — full channels warn, failing laws and sends are errors, closed
  channels are for debugging;
* `Notice.message` — the text of a notice;
* `Notice.fields` — the named values of a notice about statistics;
* `Notice.line` — a notice as a line of a log.
-/
import Telemetry.Error
import Telemetry.Monitor.Record

namespace Telemetry

/-- How much attention a notice asks for. -/
inductive Level where
  | trace
  | debug
  | info
  | warn
  | error
deriving DecidableEq

/-- The name of a level. -/
def Level.name : Level → String
  | .trace => "TRACE"
  | .debug => "DEBUG"
  | .info => "INFO"
  | .warn => "WARN"
  | .error => "ERROR"

/-- An event of the program. -/
inductive Notice where
  | samplingStarted (entries : Nat) (period : Duration)
  | samplingLate (e : PipelineError)
  | sampleDropped (s : Sample) (e : PipelineError)
  | sampleUndelivered (s : Sample) (e : PipelineError)
  | waveformExhausted (taken dropped : Nat)
  | lawCompiled (source : String)
  | transformStarted (law : String)
  | transformStopped (e : PipelineError)
  | lawFailed (s : Sample) (e : PipelineError)
  | stateDropped (s : ActuatorState) (e : PipelineError)
  | stateUndelivered (s : ActuatorState) (e : PipelineError)
  | networkUp (polls : Nat)
  | networkDown (ip : IpAddr) (e : ExchangeError)
  | socketOpen (destination : SocketAddr)
  | sent (m : Message)
  | sendFailed (e : PipelineError)
  | transmitStopped (seqnum : UInt32) (e : PipelineError)
  | listening (on : SocketAddr)
  | sequenceGap (gap seqnum : UInt32)
  | malformedDatagram (sender : SocketAddr) (e : Malformed)
  | received (count missing : Nat)
  | slotAssigned (index : Nat) (name : String) (id : TaskId)
  | epochReported (epoch tasks : Nat)
  | utilization (r : Record)
  | epochLate (e : PipelineError)
  | taskSpawned (name : String) (id : TaskId) (priority : UInt8) (stack : Nat)
  | noConfig (path : String)
  | noConfigFolder
  | loadingConfig (path : String)
  | serviceStarted (tasks : Nat) (destination : SocketAddr)
deriving DecidableEq

namespace Notice

/-- How much attention an event asks for. -/
def level : Notice → Level
  | .samplingStarted .. => .info
  | .samplingLate _ => .warn
  | .sampleDropped .. => .warn
  | .sampleUndelivered .. => .debug
  | .waveformExhausted .. => .info
  | .lawCompiled _ => .debug
  | .transformStarted _ => .info
  | .transformStopped _ => .info
  | .lawFailed .. => .error
  | .stateDropped .. => .warn
  | .stateUndelivered .. => .debug
  | .networkUp _ => .info
  | .networkDown .. => .trace
  | .socketOpen _ => .info
  | .sent _ => .trace
  | .sendFailed _ => .error
  | .transmitStopped .. => .info
  | .listening _ => .info
  | .sequenceGap .. => .warn
  | .malformedDatagram .. => .warn
  | .received .. => .info
  | .slotAssigned .. => .debug
  | .epochReported .. => .debug
  | .utilization _ => .info
  | .epochLate _ => .warn
  | .taskSpawned .. => .info
  | .noConfig _ => .info
  | .noConfigFolder => .warn
  | .loadingConfig _ => .info
  | .serviceStarted .. => .info

/-- The text of an event. -/
def message : Notice → String
  | .samplingStarted n period =>
    "Sampling " ++ toString n ++ " entries every " ++ Duration.text period
  | .samplingLate e => "Sampling: " ++ e.message
  | .sampleDropped s e => "Dropped sample " ++ toString s.toInt ++ ": " ++ e.message
  | .sampleUndelivered s e =>
    "Sample " ++ toString s.toInt ++ " not delivered: " ++ e.message
  | .waveformExhausted taken dropped =>
    "Waveform exhausted after " ++ toString taken ++ " samples (" ++ toString dropped ++
      " dropped), suspending"
  | .lawCompiled source => "Compiled control law: " ++ source
  | .transformStarted law => "Transform stage running with law '" ++ law ++ "'"
  | .transformStopped e => "Transform stage stopping: " ++ e.message
  | .lawFailed s e => "Sample " ++ toString s.toInt ++ " dropped: " ++ e.message
  | .stateDropped s e => "Dropped state " ++ s.text ++ ": " ++ e.message
  | .stateUndelivered s e => "State " ++ s.text ++ " not delivered: " ++ e.message
  | .networkUp polls => "Network up after " ++ toString polls ++ " poll(s)"
  | .networkDown ip e => "Network not ready on " ++ ip.text ++ ": " ++ e.message
  | .socketOpen destination => "Telemetry socket open, sending to " ++ destination.text
  | .sent m =>
    "Sent seq " ++ toString m.seqnum.toNat ++ " (" ++ toString m.sample.toInt ++ ", " ++
      toString m.command.toInt ++ ")"
  | .sendFailed e => e.message
  | .transmitStopped seqnum e =>
    "Transmit stage stopping after seq " ++ toString seqnum.toNat ++ ": " ++ e.message
  | .listening on => "Listening for telemetry on " ++ on.text
  | .sequenceGap gap seqnum =>
    "Sequence gap of " ++ toString gap.toNat ++ " before seqnum " ++ toString seqnum.toNat
  | .malformedDatagram sender e =>
    "Malformed datagram from " ++ sender.text ++ ": " ++ e.message
  | .received count missing =>
    "Received " ++ toString count ++ " message(s), " ++ toString missing ++ " missing"
  | .slotAssigned index name id =>
    "Stats slot " ++ toString index ++ " assigned to " ++ name ++ " (" ++ id.text ++ ")"
  | .epochReported epoch tasks =>
    "Epoch " ++ toString epoch ++ ": " ++ toString tasks ++ " task(s)"
  | .utilization r => r.text
  | .epochLate e => "Monitor: " ++ e.message
  | .taskSpawned name id priority stack =>
    "Spawned task " ++ name ++ " (" ++ id.text ++ ") priority " ++ toString priority.toNat ++
      " stack " ++ toString stack ++ " bytes"
  | .noConfig path => "No config at " ++ path ++ ", using defaults"
  | .noConfigFolder => "Could not determine config directory, using defaults"
  | .loadingConfig path => "Loading config from " ++ path
  | .serviceStarted tasks destination =>
    "Runtime started: " ++ toString tasks ++ " tasks, telemetry to " ++ destination.text

end Notice

/-- A named value of a notice about statistics. -/
inductive FieldValue where
  | number (n : Nat)
  | text (s : String)
deriving DecidableEq

/-- The named values of a notice about statistics; other notices have none, and
not even an empty list. -/
def Notice.fields : Notice → Option (List (String × FieldValue))
  | .epochReported .. => some []
  | .utilization r => some
    [("task", .text r.name), ("id", .number r.id.toNat), ("runtime", .number r.deltaRuntime),
      ("cpu_percent", .number r.cpuPercent), ("stack_budget", .number r.stackBudget),
      ("stack_high_water", .number r.stackHighWater)]
  | _ => none

/-- A named value as it is written. -/
def FieldValue.written : FieldValue → String
  | .number n => toString n
  | .text s => s

/-- A notice as a line of a log at a time of day. -/
def Notice.line (time : String) (n : Notice) : String :=
  let fields := (n.fields.getD []).map fun (name, value) => " " ++ name ++ "=" ++ value.written
  time ++ " " ++ n.level.name ++ " " ++ n.message ++ String.join fields

/-- What a step gives: its answer, the state after it, and the notices it made. -/
structure Step (σ α : Type) where
  answer : α
  state : σ
  notices : List Notice := []

end Telemetry
