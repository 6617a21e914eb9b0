/-
The running program: the pipeline, the monitor and the table of their tasks, on one clock.

* `Service.start` — checks a configuration and starts the four tasks;
* `Service.advance` — does whatever is due at a reading of the clock;
* `Service.nextEvent` — when something is due next;
* `Service.isIdle` — whether nothing but the monitor has anything left to do.

Design notes: between two readings of the clock nothing happens. A stage that waits is a time at
which it goes on: the sampler waits for its next deadline, the transmitter for the network, the
monitor for its next epoch. The transform stage waits for nothing but samples.
-/
import Telemetry.Config.Settings
import Telemetry.Law
import Telemetry.Monitor
import Telemetry.Monitor.Hosted
import Telemetry.Pipeline

namespace Telemetry

/-- The parts of a running program, and when each of those that wait goes on. -/
structure Service (ν : Type) where
  begun : Instant
  table : TaskTable
  pipeline : Pipeline ν
  monitor : Monitor
  records : Channel Record
  readyPoll : Duration
  polls : Nat := 0
  isConnected : Bool := false
  nextPoll : Instant
  nextSample : Instant
  epochs : Timer
  nextEpoch : Instant

namespace Service

/-- How many items a channel of the pipeline holds. -/
def channelCapacity : Nat := 8

/-- How many records wait for a reader before the newest are lost. -/
def recordCapacity : Nat := 64

/-- Starts tasks, one after the other. -/
def spawnAll (now : Instant) : List TaskKind → TaskTable → Step TaskTable (Except Error Unit)
  | [], table => ⟨.ok (), table, []⟩
  | kind :: kinds, table =>
    let spawned := table.spawn kind.name kind.priority kind.stackSize now
    match spawned.answer with
    | .error _ => ⟨.error (TaskTable.refusal kind.name), spawned.state, spawned.notices⟩
    | .ok _ =>
      let rest := spawnAll now kinds spawned.state
      ⟨rest.answer, rest.state, spawned.notices ++ rest.notices⟩

/-- The budgets of the tasks, with the overrides of a configuration over them. -/
def budgets (c : Config) : StackBudgets :=
  StackBudgets.ofTaskKinds.override
    (c.monitor.stackBudgets.entries.map fun p => (p.1, p.2.toNat))

/-- The pipeline of a configuration. -/
def pipelineOf {ν : Type} [NetworkStack ν] (c : Config) (law : ControlLaw) (network : ν) :
    Pipeline ν :=
  Pipeline.create c.sampling.waveform.waveform c.samplingPeriod law.forStage law.description
    channelCapacity channelCapacity (Transmitter.create c.destination c.readyPoll 0) network

/-- The law of a configuration. -/
def lawOf (c : Config) : Except Error ControlLaw × List Notice :=
  match ControlLaw.ofSource c.transform.script with
  | (.ok law, notices) => (.ok law, notices)
  | (.error r, notices) => (.error (.context "Failed to load control law" r.error), notices)

variable {ν : Type} [NetworkStack ν]

/-- Lets the sampler wait for its next deadline, unless it is done. -/
def awaitSample (r : Service ν) (now : Instant) : Step (Service ν) Unit :=
  match r.pipeline.sampler.phase, r.pipeline.sampler.timer with
  | .reading, some timer =>
    let (sampler, late) := r.pipeline.sampler.await timer now
    ⟨(), { r with
      pipeline := { r.pipeline with sampler := sampler }, nextSample := timer.nextDeadline }, late⟩
  | _, _ => ⟨(), r, []⟩

/-- Lets the monitor wait for its next epoch. -/
def awaitEpoch (r : Service ν) (now : Instant) : Step (Service ν) Unit :=
  let (wait, epochs) := r.epochs.wait now
  let late := match wait.error? with
    | none => []
    | some e => [.epochLate e]
  ⟨(), { r with epochs := epochs, nextEpoch := r.epochs.nextDeadline }, late⟩

/-- Starts the sampler, and lets it and the monitor wait. -/
def begin (r : Service ν) (now : Instant) : Step (Service ν) Unit :=
  let started := r.pipeline.sampler.start now
  let r := { r with pipeline := { r.pipeline with sampler := started.state } }
  let sampling := r.awaitSample now
  let watching := sampling.state.awaitEpoch now
  ⟨(), watching.state, started.notices ++ sampling.notices ++ watching.notices⟩

/-- Starts the program with a configuration on a network. -/
def start (c : Config) (network : ν) (now : Instant) : Except Error (Service ν) × List Notice :=
  match c.validate with
  | .error e => (.error e, [])
  | .ok () =>
    match lawOf c with
    | (.error e, notices) => (.error e, notices)
    | (.ok law, notices) =>
      let spawned := spawnAll now TaskKind.all TaskTable.empty
      match spawned.answer with
      | .error e => (.error e, notices ++ spawned.notices)
      | .ok () =>
        let service : Service ν :=
          { begun := now
            table := spawned.state
            pipeline := pipelineOf c law network
            monitor := Monitor.create (Registry.create Registry.defaultCapacity) (budgets c)
            records := Channel.create Record "records" recordCapacity
            readyPoll := c.readyPoll
            nextPoll := now
            nextSample := now
            epochs := Timer.startingAt now c.monitorPeriod
            nextEpoch := now }
        let begun := service.begin now
        (.ok begun.state, notices ++ spawned.notices ++
          .serviceStarted TaskKind.all.length c.destination :: begun.notices)

/-- Polls the network when that is due and, once it is up, opens the socket. -/
def connect (r : Service ν) (now : Instant) : Step (Service ν) (Except Error Unit) :=
  if r.isConnected || now < r.nextPoll then ⟨.ok (), r, []⟩
  else
    let polled := NetworkStack.isUp r.pipeline.network
    let r := { r with
      pipeline := { r.pipeline with network := polled.state }
      polls := r.polls + 1
      nextPoll := now + r.readyPoll }
    if polled.answer then
      let opened := r.pipeline.transmitter.openSocket r.pipeline.network
      ⟨opened.answer, { r with
        pipeline :=
          { r.pipeline with transmitter := opened.state.1, network := opened.state.2 }
        isConnected := true },
        polled.notices ++ .networkUp r.polls :: opened.notices⟩
    else ⟨.ok (), r, polled.notices⟩

/-- Takes a sample when that is due. -/
def sample (r : Service ν) (now : Instant) : Step (Service ν) Unit :=
  if r.pipeline.sampler.phase = .reading ∧ r.nextSample ≤ now then
    let ticked := r.pipeline.step .tick
    let waiting := { r with pipeline := ticked.state }.awaitSample now
    ⟨(), waiting.state, ticked.notices ++ waiting.notices⟩
  else ⟨(), r, []⟩

/-- Some steps, as often as there are items. -/
def forEach {α : Type} (items : List α) (actions : List Action) : List Action :=
  items.flatMap fun _ => actions

/-- Lets the transform stage deal with the samples that wait for it. -/
def transform (r : Service ν) : Step (Service ν) Unit :=
  let done := r.pipeline.steps (forEach r.pipeline.samples.queue [.takeSample, .handleSample])
  ⟨(), { r with pipeline := done.state }, done.notices⟩

/-- Lets the transmitter deal with the states that wait for it, once its socket is open. -/
def transmit (r : Service ν) : Step (Service ν) Unit :=
  if r.isConnected then
    let done := r.pipeline.steps (forEach r.pipeline.states.queue [.takeState, .transmitState])
    ⟨(), { r with pipeline := done.state }, done.notices⟩
  else ⟨(), r, []⟩

/-- One epoch of the monitor when that is due. -/
def watch (r : Service ν) (now : Instant) : Step (Service ν) (Except Error Unit) :=
  if now < r.nextEpoch then ⟨.ok (), r, []⟩
  else
    let polled := r.monitor.poll (⟨r.table, (now - r.begun).toNat / 1000⟩ : HostedScheduler)
    let monitor := polled.state.1
    match polled.answer with
    | .error e => ⟨.error (.monitor e), { r with monitor := monitor }, polled.notices⟩
    | .ok records =>
      let r := { r with monitor := monitor, records := Monitor.forward records r.records }
      let waiting := r.awaitEpoch now
      ⟨.ok (), waiting.state, polled.notices ++ monitor.report records ++ waiting.notices⟩

/-- Does whatever is due. An error ends the program: the socket cannot be opened, or the tasks
are not those that the monitor was set up for. -/
def advance (r : Service ν) (now : Instant) : Step (Service ν) (Except Error Unit) :=
  let connected := r.connect now
  match connected.answer with
  | .error e => ⟨.error e, connected.state, connected.notices⟩
  | .ok () =>
    let sampled := connected.state.sample now
    let transformed := sampled.state.transform
    let transmitted := transformed.state.transmit
    let watched := transmitted.state.watch now
    ⟨watched.answer, watched.state, connected.notices ++ sampled.notices ++
      transformed.notices ++ transmitted.notices ++ watched.notices⟩

/-- When something is due next. -/
def nextEvent (r : Service ν) : Instant :=
  let first := if r.isConnected then r.nextEpoch else min r.nextPoll r.nextEpoch
  if r.pipeline.sampler.phase = .reading then min r.nextSample first else first

/-- The program at the times when something is due, at most `events` of them, until `enough`. -/
def runUntil (enough : Service ν → Bool) : Nat → Service ν → Service ν
  | 0, r => r
  | events + 1, r =>
    if enough r then r else runUntil enough events (r.advance r.nextEvent).state

/-- Whether nothing but the monitor has anything left to do. -/
def isIdle (r : Service ν) : Bool :=
  r.pipeline.sampler.phase = .suspended && r.isConnected && r.pipeline.samples.queue.isEmpty &&
    r.pipeline.states.queue.isEmpty

end Service

end Telemetry
