/-
A record of every buffer that a pipeline hands to its network.

A network keeps what it has sent, and a send that fails leaves nothing behind. The tap
stands in front of a network, passes every call on, and writes down each buffer, sent or
not:

* `Transmitter.transmit_tapped` — a tap changes neither the answer of a transmission nor the
  network;
* `Pipeline.steps_tapped` — a pipeline runs on a tapped network as it runs without the tap;
* `Pipeline.attempts` — the buffers of a schedule, in the order of the attempts.
-/
import Telemetry.Proofs.Stage.Outcome

namespace Telemetry

/-- A network, and the buffers that have been handed to it. -/
structure Tapped (ν : Type) where
  inner : ν
  handed : List (List UInt8) := []

variable {ν : Type} [NetworkStack ν]

instance : NetworkStack (Tapped ν) where
  isUp n :=
    let polled := NetworkStack.isUp n.inner
    ⟨polled.answer, { n with inner := polled.state }, polled.notices⟩
  openSocket n destination :=
    let opened := NetworkStack.openSocket n.inner destination
    (opened.1, { n with inner := opened.2 })
  send n destination bytes :=
    let sent := NetworkStack.send n.inner destination bytes
    (sent.1, ⟨sent.2, n.handed ++ [bytes]⟩)

theorem Tapped.send_handed (n : Tapped ν) (destination : SocketAddr) (bytes : List UInt8) :
    (NetworkStack.send n destination bytes).2.handed = n.handed ++ [bytes] := rfl

/-- A transmission over a tapped network is the transmission over the network. -/
theorem Transmitter.transmit_tapped (t : Transmitter) (n : Tapped ν) (state : ActuatorState) :
    (t.transmit n state).answer = (t.transmit n.inner state).answer ∧
    (t.transmit n state).state.1 = (t.transmit n.inner state).state.1 ∧
    (t.transmit n state).state.2.inner = (t.transmit n.inner state).state.2 ∧
    (t.transmit n state).notices = (t.transmit n.inner state).notices := by
  obtain ⟨address, readyPoll, socket, seqnum, sent, failed⟩ := t
  rcases socket with _ | destination
  · exact ⟨rfl, rfl, rfl, rfl⟩
  · simp only [transmit, NetworkStack.send]
    rcases NetworkStack.send n.inner destination
      (Message.actuatorState (seqnum + 1) state).encode with ⟨e | k, net⟩
    · exact ⟨rfl, rfl, rfl, rfl⟩
    · exact ⟨rfl, rfl, rfl, rfl⟩

namespace Pipeline

/-- The pipeline with a tap in front of its network. -/
def tapped (p : Pipeline ν) : Pipeline (Tapped ν) :=
  ⟨p.sampler, p.samples, p.transform, p.sampleInHand, p.states, p.transmitter, p.stateInHand,
    ⟨p.network, []⟩⟩

/-- The pipeline without the tap. -/
def untapped (p : Pipeline (Tapped ν)) : Pipeline ν :=
  ⟨p.sampler, p.samples, p.transform, p.sampleInHand, p.states, p.transmitter, p.stateInHand,
    p.network.inner⟩

theorem step_untapped (p : Pipeline (Tapped ν)) (a : Action) :
    (p.step a).state.untapped = (p.untapped.step a).state := by
  obtain ⟨sampler, samples, transform, sampleInHand, states, transmitter, stateInHand, network⟩ := p
  -- only a transmission reaches the network, the other steps do not see which one it is
  cases a with
  | tick => rfl
  | takeSample =>
    rcases sampleInHand with _ | s
    · simp only [step, untapped]
      rcases samples.receive with ⟨_ | _ | _, rx⟩ <;> rfl
    · rfl
  | handleSample => rcases sampleInHand with _ | s <;> rfl
  | takeState =>
    rcases stateInHand with _ | s
    · simp only [step, untapped]
      rcases states.receive with ⟨_ | _ | _, rx⟩ <;> rfl
    · rfl
  | transmitState =>
    rcases stateInHand with _ | s
    · rfl
    · obtain ⟨-, htransmitter, hnetwork, -⟩ := transmitter.transmit_tapped network s
      simp only [step, untapped, htransmitter, hnetwork]

theorem steps_untapped (p : Pipeline (Tapped ν)) (as : List Action) :
    (p.steps as).state.untapped = (p.untapped.steps as).state := by
  induction as generalizing p with
  | nil => rfl
  | cons a rest ih =>
    show ((p.step a).state.steps rest).state.untapped = _
    rw [ih, step_untapped]
    rfl

/-- A tap does not change the run of a pipeline. -/
theorem steps_tapped (p : Pipeline ν) (as : List Action) :
    (p.tapped.steps as).state.untapped = (p.steps as).state :=
  steps_untapped p.tapped as

/-- The buffers that a schedule hands to the network, sent or not, in order. -/
def attempts (p : Pipeline ν) (as : List Action) : List (List UInt8) :=
  (p.tapped.steps as).state.network.handed

end Pipeline

end Telemetry
