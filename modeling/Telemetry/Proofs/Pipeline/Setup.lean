/-
Pipelines that are ready to run.

* `Setup.started` — a pipeline over a scripted network, its sampler started and its socket
  open;
* `Pipeline.step_takeSample`, `Pipeline.step_takeState` — a receive moves the oldest item
  of a channel into an empty hand, or does nothing;
* `Pipeline.step_handleSample`, `Pipeline.step_transmitState` — an item in hand is dealt
  with, and an empty hand stays empty;
* `Pipeline.steps_invariant` — what every step preserves, every schedule preserves.
-/
import Mathlib.Data.Nat.Notation
import Telemetry.Proofs.Stage.Outcome

namespace Telemetry

namespace Pipeline

variable {ν : Type} [NetworkStack ν]

/-- The pipeline whose sampler has started at `now` and whose transmitter has opened its
socket, if it could. -/
def start (p : Pipeline ν) (now : Instant) : Pipeline ν :=
  let opened := p.transmitter.openSocket p.network
  { p with
    sampler := (p.sampler.start now).state
    transmitter := opened.state.1
    network := opened.state.2 }

theorem step_takeSample (p : Pipeline ν) :
    p.step .takeSample = ⟨(), p, []⟩ ∨
    ∃ s rest, p.sampleInHand = none ∧ p.samples.queue = s :: rest ∧
      p.step .takeSample =
        ⟨(), { p with
          samples := { p.samples with queue := rest }, sampleInHand := some s }, []⟩ := by
  obtain ⟨sampler, samples, transform, sampleInHand, states, transmitter, stateInHand, network⟩ := p
  rcases sampleInHand with _ | s
  · have hreceive := samples.receive_received
    simp only [step]
    generalize samples.receive = received at hreceive ⊢
    cases hreceive with
    | item hqueue => exact Or.inr ⟨_, _, trivial, hqueue, rfl⟩
    | waiting => exact Or.inl rfl
    | closed => exact Or.inl rfl
  · exact Or.inl rfl

theorem step_handleSample (p : Pipeline ν) :
    p.sampleInHand = none ∧ p.step .handleSample = ⟨(), p, []⟩ ∨
    ∃ s, p.sampleInHand = some s ∧
      (p.step .handleSample).state = { p with
        transform := (p.transform.handle p.states s).state.1
        states := (p.transform.handle p.states s).state.2
        sampleInHand := none } := by
  rcases hhand : p.sampleInHand with _ | s
  · exact Or.inl ⟨rfl, by simp [step, hhand]⟩
  · exact Or.inr ⟨s, rfl, by simp [step, hhand]⟩

theorem step_takeState (p : Pipeline ν) :
    p.step .takeState = ⟨(), p, []⟩ ∨
    ∃ a rest, p.stateInHand = none ∧ p.states.queue = a :: rest ∧
      p.step .takeState =
        ⟨(), { p with
          states := { p.states with queue := rest }, stateInHand := some a }, []⟩ := by
  obtain ⟨sampler, samples, transform, sampleInHand, states, transmitter, stateInHand, network⟩ := p
  rcases stateInHand with _ | a
  · have hreceive := states.receive_received
    simp only [step]
    generalize states.receive = received at hreceive ⊢
    cases hreceive with
    | item hqueue => exact Or.inr ⟨_, _, trivial, hqueue, rfl⟩
    | waiting => exact Or.inl rfl
    | closed => exact Or.inl rfl
  · exact Or.inl rfl

theorem step_transmitState (p : Pipeline ν) :
    p.stateInHand = none ∧ p.step .transmitState = ⟨(), p, []⟩ ∨
    ∃ a, p.stateInHand = some a ∧
      (p.step .transmitState).state = { p with
        transmitter := (p.transmitter.transmit p.network a).state.1
        network := (p.transmitter.transmit p.network a).state.2
        stateInHand := none } := by
  rcases hhand : p.stateInHand with _ | a
  · exact Or.inl ⟨rfl, by simp [step, hhand]⟩
  · exact Or.inr ⟨a, rfl, by simp [step, hhand]⟩

/-- Only a transmission touches the network. -/
theorem step_network (p : Pipeline ν) {a : Action} (ha : a ≠ .transmitState) :
    (p.step a).state.network = p.network := by
  cases a with
  | tick => rfl
  | takeSample => rcases p.step_takeSample with hstep | ⟨_, _, _, _, hstep⟩ <;> rw [hstep]
  | handleSample => rcases p.step_handleSample with ⟨_, hstep⟩ | ⟨_, _, hstep⟩ <;> rw [hstep]
  | takeState => rcases p.step_takeState with hstep | ⟨_, _, _, _, hstep⟩ <;> rw [hstep]
  | transmitState => exact absurd rfl ha

theorem steps_invariant {P : Pipeline ν → Prop} (hstep : ∀ p a, P p → P (p.step a).state)
    (as : List Action) : ∀ {p : Pipeline ν}, P p → P (p.steps as).state := by
  induction as with
  | nil => exact fun h => h
  | cons a rest ih => exact fun h => ih (hstep _ a h)

end Pipeline

/-- What a pipeline over a scripted network is built from. -/
structure Setup where
  waveform : Waveform
  period : Duration
  law : Sample → Except Error Command
  description : String
  sampleCapacity : ℕ
  stateCapacity : ℕ
  destination : SocketAddr
  readyPoll : Duration
  seqnum : UInt32
  upAfter : ℕ
  failAttempts : List ℕ

namespace Setup

/-- The transmitter of a setup, before it has opened its socket. -/
def transmitter (u : Setup) : Transmitter :=
  Transmitter.create u.destination u.readyPoll u.seqnum

/-- The network of a setup. -/
def network (u : Setup) : ScriptedNetwork :=
  ScriptedNetwork.create u.upAfter u.failAttempts

/-- The pipeline of a setup, its sampler started at `now` and its socket open. -/
def started (u : Setup) (now : Instant) : Pipeline ScriptedNetwork :=
  (Pipeline.create u.waveform u.period u.law u.description u.sampleCapacity u.stateCapacity
    u.transmitter u.network).start now

end Setup

end Telemetry
