/-
The pipeline of three stages over two channels.

* `Pipeline.step` — one step of one stage, in any order: a tick of the sampler, a
  receive or the handling of the sample in hand by the transform stage, a receive
  or the transmission of the state in hand by the transmitter;
* `Pipeline.runStaged` — the three stages one after the other, each to its end.

Design notes: an item that a stage has received and not yet dealt with is in hand,
and so in the state. A step that its stage cannot take leaves the pipeline as it is.
-/
import Telemetry.Stage.Sampler
import Telemetry.Stage.Transform
import Telemetry.Stage.Transmitter

namespace Telemetry

/-- The stages, their channels and network, and the items in hand. -/
structure Pipeline (ν : Type) where
  sampler : Sampler
  samples : Channel Sample
  transform : Transform
  sampleInHand : Option Sample := none
  states : Channel ActuatorState
  transmitter : Transmitter
  stateInHand : Option ActuatorState := none
  network : ν

/-- What one stage does in one step. -/
inductive Action where
  | tick
  | takeSample
  | handleSample
  | takeState
  | transmitState
deriving DecidableEq

namespace Pipeline

/-- The name of the channel of samples. -/
def sampleChannel : String := "adc_queue"

/-- The name of the channel of states. -/
def stateChannel : String := "comms_queue"

variable {ν : Type} [NetworkStack ν]

/-- One step of one stage. -/
def step (p : Pipeline ν) : Action → Step (Pipeline ν) Unit
  | .tick =>
    let ticked := p.sampler.tick p.samples
    ⟨(), { p with sampler := ticked.state.1, samples := ticked.state.2 }, ticked.notices⟩
  | .takeSample =>
    match p.sampleInHand, p.samples.receive with
    | none, (.item s, rx) => ⟨(), { p with samples := rx, sampleInHand := some s }, []⟩
    | _, _ => ⟨(), p, []⟩
  | .handleSample =>
    match p.sampleInHand with
    | none => ⟨(), p, []⟩
    | some s =>
      let handled := p.transform.handle p.states s
      ⟨(), { p with
        transform := handled.state.1, states := handled.state.2, sampleInHand := none },
        handled.notices⟩
  | .takeState =>
    match p.stateInHand, p.states.receive with
    | none, (.item s, rx) => ⟨(), { p with states := rx, stateInHand := some s }, []⟩
    | _, _ => ⟨(), p, []⟩
  | .transmitState =>
    match p.stateInHand with
    | none => ⟨(), p, []⟩
    | some s =>
      let done := p.transmitter.transmit p.network s
      ⟨(), { p with
        transmitter := done.state.1, network := done.state.2, stateInHand := none },
        done.notices ++ Transmitter.failureNotice done.answer⟩

/-- The steps of a schedule, one after the other. -/
def steps (p : Pipeline ν) : List Action → Step (Pipeline ν) Unit
  | [] => ⟨(), p, []⟩
  | a :: rest =>
    let first := p.step a
    let later := steps first.state rest
    ⟨(), later.state, first.notices ++ later.notices⟩

/-- A pipeline before its first step. -/
def create (waveform : Waveform) (period : Duration) (law : Sample → Except Error Command)
    (description : String) (sampleCapacity stateCapacity : Nat) (transmitter : Transmitter)
    (network : ν) : Pipeline ν where
  sampler := Sampler.create waveform period
  samples := Channel.create Sample sampleChannel sampleCapacity
  transform := ⟨law, description, 0⟩
  states := Channel.create ActuatorState stateChannel stateCapacity
  transmitter := transmitter
  network := network

/-- `n` ticks of the sampler, without waiting between them. -/
def ticks : Nat → Sampler × Channel Sample → Step (Sampler × Channel Sample) Unit
  | 0, state => ⟨(), state, []⟩
  | n + 1, (s, tx) =>
    let ticked := s.tick tx
    let rest := ticks n ticked.state
    ⟨(), rest.state, ticked.notices ++ rest.notices⟩

/-- The sampler to the end of its waveform, then the transform stage to the end of
the samples, then the transmitter to the end of the states; a stage that is done
goes away and leaves its channel closed. There is no answer if the network is still
down after `rounds` polls. -/
def runStaged (p : Pipeline ν) (rounds : Nat) :
    Step (Pipeline ν) (Option (Except Error Unit)) :=
  let started := p.sampler.start 0
  let sampled := ticks p.sampler.waveform.length (started.state, p.samples)
  let (sampler, samples) := sampled.state
  let handled := p.transform.run samples.dropSender p.states
  let (transform, samples, states) := handled.state
  let sent := p.transmitter.run rounds p.network states.dropSender
  let (transmitter, network, states) := sent.state
  ⟨sent.answer,
    { p with
      sampler := sampler, samples := samples, transform := transform, states := states,
      transmitter := transmitter, network := network },
    started.notices ++ sampled.notices ++ handled.notices ++ sent.notices⟩

end Pipeline

end Telemetry
