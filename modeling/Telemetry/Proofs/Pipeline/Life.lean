/-
The life of a pipeline, from its first step to the return of its last loop.

Stages go away one after the other: the sampler when it is dropped, the other two when
their loop has found its channel closed, that is, empty and without its producer. A stage
that goes away takes its ends of the channels with it.

* `Pipeline.occur` — one step of a stage that is still there, or the end of a stage;
* `Pipeline.course` — events one after the other, in any order;
* `Pipeline.tally` — the number of events of a course that are of a certain kind.

Design notes: a loop that returns and the stage it belongs to go at once, since nothing of
the stage is left to happen in between. Nothing happens to a stage that is gone, and a
loop that would wait leaves the pipeline as it is.
-/
import Telemetry.Proofs.Pipeline.Setup

namespace Telemetry

/-- The three stages. -/
inductive Stage where
  | sampler
  | transform
  | transmitter
deriving DecidableEq

/-- The stage that takes a step. -/
def Action.stage : Action → Stage
  | .tick => .sampler
  | .takeSample | .handleSample => .transform
  | .takeState | .transmitState => .transmitter

/-- A step of a stage, or the end of a stage. -/
inductive Event where
  | act (a : Action)
  | leave (s : Stage)
deriving DecidableEq

namespace Pipeline

variable {ν : Type}

/-- Whether a stage is still there. -/
def alive (p : Pipeline ν) : Stage → Bool
  | .sampler => p.samples.senderAlive
  | .transform => p.samples.receiverAlive
  | .transmitter => p.states.receiverAlive

/-- The end of a stage; the loops of the last two end on a closed channel only. -/
def leave (p : Pipeline ν) : Stage → Step (Pipeline ν) Unit
  | .sampler => ⟨(), { p with samples := p.samples.dropSender }, []⟩
  | .transform =>
    match p.sampleInHand, p.samples.receive with
    | none, (.closed e, rx) =>
      ⟨(), { p with samples := rx.dropReceiver, states := p.states.dropSender },
        [.transformStopped e]⟩
    | _, _ => ⟨(), p, []⟩
  | .transmitter =>
    match p.stateInHand, p.states.receive with
    | none, (.closed e, rx) =>
      ⟨(), { p with states := rx.dropReceiver }, [.transmitStopped p.transmitter.seqnum e]⟩
    | _, _ => ⟨(), p, []⟩

theorem leave_transform (p : Pipeline ν) :
    p.leave .transform = ⟨(), p, []⟩ ∨
    p.sampleInHand = none ∧ p.samples.queue = [] ∧ p.samples.senderAlive = false ∧
      p.leave .transform =
        ⟨(), { p with samples := p.samples.dropReceiver, states := p.states.dropSender },
          [.transformStopped p.samples.closed]⟩ := by
  obtain ⟨sampler, samples, transform, sampleInHand, states, transmitter, stateInHand, network⟩ := p
  rcases sampleInHand with _ | s
  · have hreceive := samples.receive_received
    simp only [leave]
    generalize samples.receive = received at hreceive ⊢
    cases hreceive with
    | item => exact Or.inl rfl
    | waiting => exact Or.inl rfl
    | closed hqueue hgone => exact Or.inr ⟨trivial, hqueue, hgone, rfl⟩
  · exact Or.inl rfl

theorem leave_transmitter (p : Pipeline ν) :
    p.leave .transmitter = ⟨(), p, []⟩ ∨
    p.stateInHand = none ∧ p.states.queue = [] ∧ p.states.senderAlive = false ∧
      p.leave .transmitter =
        ⟨(), { p with states := p.states.dropReceiver },
          [.transmitStopped p.transmitter.seqnum p.states.closed]⟩ := by
  obtain ⟨sampler, samples, transform, sampleInHand, states, transmitter, stateInHand, network⟩ := p
  rcases stateInHand with _ | a
  · have hreceive := states.receive_received
    simp only [leave]
    generalize states.receive = received at hreceive ⊢
    cases hreceive with
    | item => exact Or.inl rfl
    | waiting => exact Or.inl rfl
    | closed hqueue hgone => exact Or.inr ⟨trivial, hqueue, hgone, rfl⟩
  · exact Or.inl rfl

/-! ### Courses of events -/

variable [NetworkStack ν]

/-- One event, if its stage is still there. -/
def occur (p : Pipeline ν) : Event → Step (Pipeline ν) Unit
  | .act a => if p.alive a.stage then p.step a else ⟨(), p, []⟩
  | .leave s => if p.alive s then p.leave s else ⟨(), p, []⟩

/-- What holds of a pipeline holds behind an event, if the steps and ends of the stages that
are still there preserve it. -/
theorem occur_preserves {P : Pipeline ν → Prop} (p : Pipeline ν) (e : Event) (h : P p)
    (hact : ∀ a, p.alive a.stage = true → P (p.step a).state)
    (hleave : ∀ s, p.alive s = true → P (p.leave s).state) : P (p.occur e).state := by
  cases e with
  | act a =>
    by_cases halive : p.alive a.stage = true
    · rw [occur, if_pos halive]
      exact hact a halive
    · rw [occur, if_neg halive]
      exact h
  | leave s =>
    by_cases halive : p.alive s = true
    · rw [occur, if_pos halive]
      exact hleave s halive
    · rw [occur, if_neg halive]
      exact h

/-- Events one after the other. -/
def course (p : Pipeline ν) : List Event → Step (Pipeline ν) Unit
  | [] => ⟨(), p, []⟩
  | e :: rest =>
    let first := p.occur e
    let later := course first.state rest
    ⟨(), later.state, first.notices ++ later.notices⟩

/-- How many events of a course are of the kind `seen`, each judged where it occurs. -/
def tally (seen : Pipeline ν → Event → Bool) (p : Pipeline ν) : List Event → ℕ
  | [] => 0
  | e :: rest => (seen p e).toNat + tally seen (p.occur e).state rest

/-- Whether an event is a tick that takes an entry of the waveform. -/
def takesEntry (p : Pipeline ν) : Event → Bool
  | .act .tick => p.alive .sampler && (p.sampler.tick p.samples).answer.isSome
  | _ => false

/-- Whether an answer is the failure of a law. -/
def isLawFailure {α : Type} : Except PipelineError α → Bool
  | .error (.controlLaw _) => true
  | _ => false

/-- Whether an event is the handling of a sample for which the law fails. -/
def failsLaw (p : Pipeline ν) : Event → Bool
  | .act .handleSample =>
    p.alive .transform &&
      p.sampleInHand.any fun s => isLawFailure (p.transform.handle p.states s).answer
  | _ => false

end Pipeline

end Telemetry
