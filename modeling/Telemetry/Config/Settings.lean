/-
The configuration of the program.

* `Config` — a section of settings for each part;
* `BudgetOverrides` — stack budgets by task name, in the order of the names;
* `Config.standard` — what holds where nothing is said, section by section;
* `Config.validate` — refuses the values that the program cannot work with.

Design notes: settings are words of the sizes that the program computes with, so that no
setting is out of range. Budgets are kept in order, because it means nothing in which order a
document names them.
-/
import Telemetry.Config.Destination
import Telemetry.Error
import Telemetry.Waveform

namespace Telemetry

/-- The table of samples that the sampler walks through. -/
inductive WaveformSource where
  | sine
  | samples (entries : List Sample)
deriving DecidableEq

/-- The table where none is chosen. -/
def WaveformSource.standard : WaveformSource := .sine

/-- The table itself. -/
def WaveformSource.waveform : WaveformSource → Waveform
  | .sine => Waveform.sine
  | .samples entries => ⟨entries⟩

/-- Stack budgets in bytes that replace those of the tasks, in ascending order of the names. -/
structure BudgetOverrides where
  entries : List (String × UInt64)
  ascending : entries.Pairwise (fun a b => a.1 < b.1)
deriving DecidableEq

namespace BudgetOverrides

/-- No overrides. -/
def empty : BudgetOverrides := ⟨[], .nil⟩

/-- A list in order with the budget of a name added or replaced. -/
def put (name : String) (bytes : UInt64) : List (String × UInt64) → List (String × UInt64)
  | [] => [(name, bytes)]
  | (n, b) :: rest =>
    if name < n then (name, bytes) :: (n, b) :: rest
    else if name = n then (name, bytes) :: rest
    else (n, b) :: put name bytes rest

/-- Every name of the new list is the one added or is in the old one. -/
theorem fst_mem_put {name : String} {bytes : UInt64} {entries : List (String × UInt64)}
    {p : String × UInt64} (h : p ∈ put name bytes entries) :
    p.1 = name ∨ ∃ q ∈ entries, p.1 = q.1 := by
  induction entries with
  | nil => simp_all [put]
  | cons e rest ih =>
    obtain ⟨n, b⟩ := e
    unfold put at h
    split at h
    · grind
    · split at h <;> grind

/-- Adding or replacing a budget keeps the order. -/
theorem pairwise_put {name : String} {bytes : UInt64} {entries : List (String × UInt64)}
    (h : entries.Pairwise (fun a b => a.1 < b.1)) :
    (put name bytes entries).Pairwise (fun a b => a.1 < b.1) := by
  induction entries with
  | nil => simp [put]
  | cons e rest ih =>
    obtain ⟨n, b⟩ := e
    rw [List.pairwise_cons] at h
    unfold put
    split
    · rw [List.pairwise_cons, List.pairwise_cons]
      grind
    · split
      · rw [List.pairwise_cons]
        grind
      · rw [List.pairwise_cons]
        refine ⟨fun p hp => ?_, ih h.2⟩
        have hcase := fst_mem_put hp
        grind

/-- The overrides with the budget of a name added or replaced. -/
def insert (o : BudgetOverrides) (name : String) (bytes : UInt64) : BudgetOverrides :=
  ⟨put name bytes o.entries, pairwise_put o.ascending⟩

end BudgetOverrides

namespace Config

/-- The settings of the sampler. -/
structure Sampling where
  periodMs : UInt64
  waveform : WaveformSource
deriving DecidableEq

/-- The settings of the transform stage; without a script it inverts. -/
structure Transform where
  script : Option String
deriving DecidableEq

/-- The settings of the transmitter. -/
structure Network where
  localIp : IpAddr
  destination : Destination
  port : UInt16
  readyPollMs : UInt64
deriving DecidableEq

/-- The settings of the monitor. -/
structure Monitor where
  periodMs : UInt64
  stackBudgets : BudgetOverrides
deriving DecidableEq

/-- The settings of the log, which goes to a file if there is one. -/
structure Logging where
  file : Option String
deriving DecidableEq

end Config

/-- The settings of every part of the program. -/
structure Config where
  sampling : Config.Sampling
  transform : Config.Transform
  network : Config.Network
  monitor : Config.Monitor
  logging : Config.Logging
deriving DecidableEq

namespace Config

/-! ### What holds where nothing is said -/

/-- Milliseconds between two samples. -/
def standardSamplePeriodMs : UInt64 := 100

/-- Milliseconds between two epochs of the monitor. -/
def standardMonitorPeriodMs : UInt64 := 500

/-- Milliseconds between two polls of the network. -/
def standardReadyPollMs : UInt64 := 10

/-- The address of this host. -/
def standardLocalIp : IpAddr := .loopback

/-- The port that telemetry is sent to. -/
def standardPort : UInt16 := Message.port

/-- The sampler of a configuration that has no section for it. -/
def Sampling.standard : Sampling := ⟨standardSamplePeriodMs, .standard⟩

/-- The transform stage of a configuration that has no section for it. -/
def Transform.standard : Transform := ⟨none⟩

/-- The transmitter of a configuration that has no section for it. -/
def Network.standard : Network := ⟨standardLocalIp, .standard, standardPort, standardReadyPollMs⟩

/-- The monitor of a configuration that has no section for it. -/
def Monitor.standard : Monitor := ⟨standardMonitorPeriodMs, .empty⟩

/-- The log of a configuration that has no section for it. -/
def Logging.standard : Logging := ⟨none⟩

/-- The configuration without any section. -/
def standard : Config := ⟨.standard, .standard, .standard, .standard, .standard⟩

/-! ### What the program can work with -/

/-- A value that the program cannot work with. -/
inductive Fault where
  | samplingPeriodZero
  | monitorPeriodZero
  | portZero
  | waveformEmpty
deriving DecidableEq

/-- What is said of a value that the program cannot work with. -/
def Fault.message : Fault → String
  | .samplingPeriodZero => "sampling.period_ms must be greater than 0"
  | .monitorPeriodZero => "monitor.period_ms must be greater than 0"
  | .portZero => "network.port must not be 0"
  | .waveformEmpty => "sampling.waveform must contain at least one sample"

/-- The first value that the program cannot work with. -/
def fault? (c : Config) : Option Fault :=
  if c.sampling.periodMs = 0 then some .samplingPeriodZero
  else if c.monitor.periodMs = 0 then some .monitorPeriodZero
  else if c.network.port = 0 then some .portZero
  else if c.sampling.waveform = .samples [] then some .waveformEmpty
  else none

/-- Refuses a configuration that the program cannot work with. -/
def validate (c : Config) : Except Error Unit :=
  match c.fault? with
  | some f => .error (.config f.message)
  | none => .ok ()

/-- The time between two samples. -/
def samplingPeriod (c : Config) : Duration := Duration.ofMillis c.sampling.periodMs.toNat

/-- The time between two epochs of the monitor. -/
def monitorPeriod (c : Config) : Duration := Duration.ofMillis c.monitor.periodMs.toNat

/-- The time between two polls of the network. -/
def readyPoll (c : Config) : Duration := Duration.ofMillis c.network.readyPollMs.toNat

/-- The address that telemetry is sent to. -/
def destination (c : Config) : SocketAddr :=
  ⟨c.network.destination.resolve c.network.localIp, c.network.port⟩

end Config

end Telemetry
