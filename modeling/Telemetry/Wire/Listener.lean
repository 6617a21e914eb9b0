/-
The receiving side of telemetry.

* `Listener.receive` — one datagram: a message with the gap before it, or why the
  datagram is none; only messages touch the tracker;
* `Listener.accept` — the messages among datagrams, with the gaps;
* `Listener.listen` — arrivals and timeouts in order, up to a count of messages;
* `Listener.Event.line`, `Listener.Event.json` — the two printed forms of an event.

Design notes: a buffer of one byte more than a message is enough to tell a datagram
that is too long, and anything behind it is not looked at.
-/
import Telemetry.Net.Stack
import Telemetry.Wire.Sequence

namespace Telemetry.Listener

/-- What a datagram was. -/
inductive Event where
  | message (sender : SocketAddr) (m : Message) (gap : UInt32)
  | malformed (sender : SocketAddr) (reason : Malformed)
deriving DecidableEq

/-- The bytes of a datagram that are looked at. -/
def window (datagram : List UInt8) : List UInt8 := datagram.take (Message.size + 1)

/-- Binds a listener to an address with a read timeout. -/
def bind (host : Host) (address : SocketAddr) (timeout : Duration) :
    Step Tracker (Except Error Unit) :=
  match host.bind address.ip with
  | .error e => ⟨.error (.context ("bind " ++ address.text) (.exchange (.os e))), {}, []⟩
  | .ok () =>
    if timeout = 0 then
      ⟨.error (.context "set listener read timeout" (.exchange .zeroTimeout)), {}, []⟩
    else ⟨.ok (), {}, [.listening address]⟩

/-- Looks at one datagram. -/
def receive (t : Tracker) (sender : SocketAddr) (datagram : List UInt8) : Step Tracker Event :=
  match Message.decode (window datagram) with
  | .ok m =>
    let (gap, t) := t.observe m.seqnum
    ⟨.message sender m gap, t, if gap = 0 then [] else [.sequenceGap gap m.seqnum]⟩
  | .error e => ⟨.malformed sender e, t, [.malformedDatagram sender e]⟩

/-- The messages among some datagrams, each with the gap before it. -/
def accept : Tracker → List (List UInt8) → List (Message × UInt32) × Tracker
  | t, [] => ([], t)
  | t, datagram :: rest =>
    match Message.decode (window datagram) with
    | .error _ => accept t rest
    | .ok m =>
      let (gap, t) := t.observe m.seqnum
      let (messages, t) := accept t rest
      ((m, gap) :: messages, t)

/-- Whether an event counts as a message. -/
def Event.isMessage : Event → Bool
  | .message .. => true
  | .malformed .. => false

/-- The events of arrivals and timeouts (`none`), in order, up to `count` messages; the
answer also holds the arrivals that were not waited for. -/
def listen (count : Option Nat) : List (Option (SocketAddr × List UInt8)) → Tracker →
    Step Tracker (List Event × List (Option (SocketAddr × List UInt8)))
  | [], t => ⟨([], []), t, []⟩
  | arrival :: rest, t =>
    if count = some 0 then ⟨([], arrival :: rest), t, []⟩
    else
      match arrival with
      | none => listen count rest t
      | some (sender, datagram) =>
        let received := receive t sender datagram
        let left := if received.answer.isMessage then count.map (· - 1) else count
        let later := listen left rest received.state
        ⟨(received.answer :: later.answer.1, later.answer.2), later.state,
          received.notices ++ later.notices⟩

/-- A gap in parentheses, if there is one. -/
def gapText (gap : UInt32) : String :=
  if gap = 0 then "" else " (gap " ++ toString gap.toNat ++ ")"

/-- An event as a line of text received at a time of day; malformed datagrams have no
line. -/
def Event.line (time : String) : Event → Option String
  | .message sender m gap =>
    some (time ++ " " ++ sender.text ++ " seq=" ++ toString m.seqnum.toNat ++ " sample=" ++
      toString m.sample.toInt ++ " command=" ++ toString m.command.toInt ++ gapText gap)
  | .malformed .. => none

/-- A member of an object. -/
def member (key value : String) : String := "\"" ++ key ++ "\":" ++ value

/-- A text that needs no escapes, in quotes. -/
def quoted (s : String) : String := "\"" ++ s ++ "\""

/-- Members in braces. -/
def object (members : List String) : String := "\x7b" ++ ",".intercalate members ++ "\x7d"

/-- An event as an object received at a point in time. -/
def Event.json (time : String) : Event → String
  | .message sender m gap =>
    object [member "received_at" (quoted time), member "from" (quoted sender.text),
      member "magic0" (toString m.magic0.toNat), member "magic1" (toString m.magic1.toNat),
      member "msg_type" (toString m.tag.toNat), member "seqnum" (toString m.seqnum.toNat),
      member "sample" (toString m.sample.toInt), member "command" (toString m.command.toInt),
      member "gap" (toString gap.toNat)]
  | .malformed sender reason =>
    object [member "from" (quoted sender.text), member "malformed" (quoted reason.message)]

end Telemetry.Listener
