/-
The stage that produces samples.

A sampler walks through its waveform once. Every period it takes the next entry
and offers it to the sample channel; after the last entry it is suspended for good.

* `Sampler.start` — leaves the initial phase and anchors the schedule;
* `Sampler.tick` — takes one entry, whether or not the channel accepts it;
* `Sampler.run` — waits and ticks until the waveform is exhausted.

Design notes: the readings of the clock are an argument of `run`, numbered from the
one taken at the start. The loop is driven by the number of entries left, and ends
because each round in the reading phase takes one of them.
-/
import Telemetry.Channel
import Telemetry.Notice
import Telemetry.Timer
import Telemetry.Waveform

namespace Telemetry

/-- The phase of a sampler. -/
inductive Phase where
  | init
  | reading
  | suspended
deriving DecidableEq

/-- A sampler with its counters; `position` entries have been taken. -/
structure Sampler where
  waveform : Waveform
  period : Duration
  timer : Option Timer := none
  phase : Phase := .init
  position : Nat := 0
  produced : Nat := 0
  dropped : Nat := 0
  missed : Nat := 0

namespace Sampler

/-- A sampler that has not started. -/
def create (waveform : Waveform) (period : Duration) : Sampler :=
  ⟨waveform, period, none, .init, 0, 0, 0, 0⟩

/-- Leaves the initial phase when the clock reads `now`; in any other phase nothing
happens. -/
def start (s : Sampler) (now : Instant) : Step Sampler Unit :=
  if s.phase = .init then
    { answer := ()
      state := { s with
        timer := some (Timer.startingAt now s.period)
        phase := if s.waveform.samples.isEmpty then .suspended else .reading }
      notices := [.samplingStarted s.waveform.length s.period] }
  else ⟨(), s, []⟩

/-- The sampler after offering its current entry with the given outcome, and the
notice of a loss. -/
def settle (s : Sampler) (sample : Sample) : Except PipelineError Unit → Sampler × List Notice
  | .ok () => ({ s with produced := s.produced + 1 }, [])
  | .error (.channelFull c) =>
    ({ s with dropped := s.dropped + 1 }, [.sampleDropped sample (.channelFull c)])
  | .error e => (s, [.sampleUndelivered sample e])

/-- The sampler, suspended if its waveform is exhausted. -/
def suspendAtEnd (s : Sampler) : Sampler × List Notice :=
  if s.waveform.length ≤ s.position then
    ({ s with phase := .suspended }, [.waveformExhausted s.position s.dropped])
  else (s, [])

/-- Takes the next entry and offers it to the channel. -/
def tick (s : Sampler) (tx : Channel Sample) : Step (Sampler × Channel Sample) (Option Sample) :=
  if s.phase ≠ .reading then ⟨none, (s, tx), []⟩
  else
    match s.waveform.get? s.position with
    | none => ⟨none, (s, tx), []⟩
    | some sample =>
      let (outcome, tx) := tx.send sample
      let (s, loss) := { s with position := s.position + 1 }.settle sample outcome
      let (s, ending) := s.suspendAtEnd
      ⟨some sample, (s, tx), loss ++ ending⟩

/-- Waits for a deadline of `timer` when the clock reads `now`. -/
def await (s : Sampler) (timer : Timer) (now : Instant) : Sampler × List Notice :=
  let (wait, timer) := timer.wait now
  let s := { s with timer := some timer }
  match wait.error? with
  | none => (s, [])
  | some e => ({ s with missed := s.missed + 1 }, [.samplingLate e])

/-- At most `rounds` rounds of waiting and ticking, the clock read once in each. -/
def drive (clock : Nat → Instant) : Nat → Nat → Sampler × Channel Sample →
    Step (Sampler × Channel Sample) Unit
  | 0, _, state => ⟨(), state, []⟩
  | rounds + 1, k, (s, tx) =>
    match s.phase, s.timer with
    | .reading, some timer =>
      let (s, late) := s.await timer (clock k)
      let ticked := s.tick tx
      let rest := drive clock rounds (k + 1) ticked.state
      ⟨(), rest.state, late ++ ticked.notices ++ rest.notices⟩
    | _, _ => ⟨(), (s, tx), []⟩

/-- Starts if need be, and takes every entry that is left. -/
def run (s : Sampler) (tx : Channel Sample) (clock : Nat → Instant) :
    Step (Sampler × Channel Sample) Unit :=
  let started := s.start (clock 0)
  let driven := drive clock (s.waveform.length - s.position) 1 (started.state, tx)
  ⟨(), driven.state, started.notices ++ driven.notices⟩

end Sampler

end Telemetry
