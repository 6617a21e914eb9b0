/-
The stage that numbers states and sends them.

* `Transmitter.waitForNetwork` — polls a network until it is up, or so many times in vain;
* `Transmitter.openSocket` — opens the socket that is used from then on;
* `Transmitter.transmit` — numbers, encodes and sends one state;
* `Transmitter.run` — all of it, then sends what the channel holds until it closes.

Design notes: a sequence number is used up by the attempt, sent or not, so a
receiver sees a failed send as a gap. Numbers are words of thirty-two bits and wrap.
A network may never come up, so a wait is followed for a number of polls only, and as
long as the network is down there is no answer yet.
-/
import Telemetry.Channel
import Telemetry.Net.Stack

namespace Telemetry

/-- A transmitter; `seqnum` is the last number issued. -/
structure Transmitter where
  destination : SocketAddr
  readyPoll : Duration
  socket : Option SocketAddr := none
  seqnum : UInt32 := 0
  sent : Nat := 0
  failed : Nat := 0

namespace Transmitter

/-- A transmitter without a socket that goes on from `seqnum`. -/
def create (destination : SocketAddr) (readyPoll : Duration) (seqnum : UInt32) : Transmitter :=
  ⟨destination, readyPoll, none, seqnum, 0, 0⟩

variable {ν : Type} [NetworkStack ν]

/-- Polls a network until it is up: how many polls that took, or that it is still down
after `rounds` of them. -/
def pollUntilUp : Nat → ν → Step ν (Option Nat)
  | 0, net => ⟨none, net, []⟩
  | rounds + 1, net =>
    let polled := NetworkStack.isUp net
    if polled.answer then ⟨some 1, polled.state, polled.notices⟩
    else
      let rest := pollUntilUp rounds polled.state
      ⟨rest.answer.map (· + 1), rest.state, polled.notices ++ rest.notices⟩

/-- Waits for a network, for `rounds` polls at most; the answer is the number of polls. -/
def waitForNetwork (rounds : Nat) (net : ν) : Step ν (Option Nat) :=
  let polled := pollUntilUp rounds net
  ⟨polled.answer, polled.state, polled.notices ++ (polled.answer.map .networkUp).toList⟩

/-- Opens the socket of the stage. -/
def openSocket (t : Transmitter) (net : ν) : Step (Transmitter × ν) (Except Error Unit) :=
  match NetworkStack.openSocket net t.destination with
  | (.ok (), net) =>
    ⟨.ok (), ({ t with socket := some t.destination }, net), [.socketOpen t.destination]⟩
  | (.error e, net) =>
    ⟨.error (.context ("open telemetry socket to " ++ t.destination.text) e), (t, net), []⟩

/-- The failure to send the message of a number. -/
def sendFailure (seqnum : UInt32) (e : ExchangeError) : PipelineError :=
  .transmitFailed ("seq " ++ toString seqnum.toNat ++ ": " ++ e.message)

/-- Numbers, encodes and sends one state. -/
def transmit (t : Transmitter) (net : ν) (state : ActuatorState) :
    Step (Transmitter × ν) (Except PipelineError Message) :=
  match t.socket with
  | none => ⟨.error (.transmitFailed "socket not open"), (t, net), []⟩
  | some destination =>
    let seqnum := t.seqnum + 1
    let message := Message.actuatorState seqnum state
    let t := { t with seqnum := seqnum }
    match NetworkStack.send net destination message.encode with
    | (.ok _, net) => ⟨.ok message, ({ t with sent := t.sent + 1 }, net), [.sent message]⟩
    | (.error e, net) =>
      ⟨.error (sendFailure seqnum e), ({ t with failed := t.failed + 1 }, net), []⟩

/-- The notice of a failed transmission. -/
def failureNotice {α : Type} : Except PipelineError α → List Notice
  | .ok _ => []
  | .error e => [.sendFailed e]

/-- At most `rounds` rounds of receiving and sending. -/
def drain : Nat → Transmitter × ν × Channel ActuatorState →
    Step (Transmitter × ν × Channel ActuatorState) Unit
  | 0, state => ⟨(), state, []⟩
  | rounds + 1, (t, net, rx) =>
    match rx.receive with
    | (.waiting, rx) => ⟨(), (t, net, rx), []⟩
    | (.closed e, rx) => ⟨(), (t, net, rx), [.transmitStopped t.seqnum e]⟩
    | (.item state, rx) =>
      let done := t.transmit net state
      let rest := drain rounds (done.state.1, done.state.2, rx)
      ⟨(), rest.state, done.notices ++ failureNotice done.answer ++ rest.notices⟩

/-- Waits for the network, opens the socket and sends what the channel holds; only a
socket that cannot be opened is an error. There is no answer if the network is still down
after `rounds` polls. -/
def run (t : Transmitter) (rounds : Nat) (net : ν) (rx : Channel ActuatorState) :
    Step (Transmitter × ν × Channel ActuatorState) (Option (Except Error Unit)) :=
  let up := waitForNetwork rounds net
  match up.answer with
  | none => ⟨none, (t, up.state, rx), up.notices⟩
  | some _ =>
    let opened := t.openSocket up.state
    match opened.answer with
    | .error e =>
      ⟨some (.error e), (opened.state.1, opened.state.2, rx), up.notices ++ opened.notices⟩
    | .ok () =>
      let drained := drain (rx.queue.length + 1) (opened.state.1, opened.state.2, rx)
      ⟨some (.ok ()), drained.state, up.notices ++ opened.notices ++ drained.notices⟩

end Transmitter

end Telemetry
