/-
The stage that turns samples into commands.

* `Transform.apply` — the state for one sample under the stage's law;
* `Transform.handle` — applies the law and offers the state to the next channel;
* `Transform.run` — handles what the sample channel holds, until it is closed.

Design notes: the law is any function from samples to commands or errors, so the
stage has no memory of the samples before. A run goes on for as long as the channel
gives an item; on a channel that is empty and still open it would wait.
-/
import Telemetry.Channel
import Telemetry.Notice

namespace Telemetry

/-- A law with its description, and the number of samples handled. -/
structure Transform where
  law : Sample → Except Error Command
  description : String
  processed : Nat := 0

namespace Transform

/-- The state for one sample. -/
def apply (t : Transform) (s : Sample) : Except PipelineError ActuatorState :=
  match t.law s with
  | .ok c => .ok ⟨s, c⟩
  | .error e => .error (.controlLaw e.message)

/-- The notice of a state that the channel did not take. -/
def loss (state : ActuatorState) : PipelineError → Notice
  | .channelFull c => .stateDropped state (.channelFull c)
  | e => .stateUndelivered state e

/-- Turns one sample into a state and offers it to the channel. -/
def handle (t : Transform) (tx : Channel ActuatorState) (s : Sample) :
    Step (Transform × Channel ActuatorState) (Except PipelineError ActuatorState) :=
  let t := { t with processed := t.processed + 1 }
  match t.apply s with
  | .error e => ⟨.error e, (t, tx), [.lawFailed s e]⟩
  | .ok state =>
    match tx.send state with
    | (.ok (), tx) => ⟨.ok state, (t, tx), []⟩
    | (.error e, tx) => ⟨.error e, (t, tx), [loss state e]⟩

/-- At most `rounds` rounds of receiving and handling. -/
def drain : Nat → Transform × Channel Sample × Channel ActuatorState →
    Step (Transform × Channel Sample × Channel ActuatorState) Unit
  | 0, state => ⟨(), state, []⟩
  | rounds + 1, (t, rx, tx) =>
    match rx.receive with
    | (.waiting, rx) => ⟨(), (t, rx, tx), []⟩
    | (.closed e, rx) => ⟨(), (t, rx, tx), [.transformStopped e]⟩
    | (.item s, rx) =>
      let handled := t.handle tx s
      let rest := drain rounds (handled.state.1, rx, handled.state.2)
      ⟨(), rest.state, handled.notices ++ rest.notices⟩

/-- Handles every sample of the channel, and stops if the channel is closed. -/
def run (t : Transform) (rx : Channel Sample) (tx : Channel ActuatorState) :
    Step (Transform × Channel Sample × Channel ActuatorState) Unit :=
  let drained := drain (rx.queue.length + 1) (t, rx, tx)
  ⟨(), drained.state, .transformStarted t.description :: drained.notices⟩

end Transform

end Telemetry
