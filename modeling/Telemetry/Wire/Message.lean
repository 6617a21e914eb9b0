/-
The telemetry message and its eleven bytes.

A message is two magic bytes, a type tag, a sequence number of thirty-two bits,
and a sample and a command of sixteen bits each; words travel with their least
significant byte first and nothing stands between the fields.

* `Message.encode` — the eleven bytes of a message, whatever its header;
* `Message.decode` — the message of a buffer, or why the buffer is none: its
  length is judged first, then the magic bytes, then the tag.

Design notes: the decoder names its eleven bytes by position and the encoder
writes them field by field, so that the two are independent accounts of one layout.
-/
import Telemetry.Signal
import Telemetry.Text.Hex
import Telemetry.Wire.Word

namespace Telemetry

/-- One telemetry datagram, field by field. -/
structure Message where
  magic0 : UInt8
  magic1 : UInt8
  tag : UInt8
  seqnum : UInt32
  sample : Sample
  command : Command
deriving DecidableEq, Inhabited

/-- Why a buffer is no telemetry message. -/
inductive Malformed where
  | length (n : Nat)
  | magic (first second : UInt8)
  | tag (t : UInt8)
deriving DecidableEq

namespace Message

/-- The port telemetry is sent to. -/
def port : UInt16 := 9889

/-- The first magic byte. -/
def firstMagic : UInt8 := 0xAA

/-- The second magic byte. -/
def secondMagic : UInt8 := 0xBB

/-- The tag of a message that carries an actuator state. -/
def actuatorTag : UInt8 := 0xF0

/-- The size of a message in bytes. -/
def size : Nat := 11

/-- The message with the constant header that carries a state under a number. -/
def actuatorState (seqnum : UInt32) (state : ActuatorState) : Message :=
  ⟨firstMagic, secondMagic, actuatorTag, seqnum, state.sample, state.command⟩

/-- The state a message carries. -/
def state (m : Message) : ActuatorState := ⟨m.sample, m.command⟩

/-- The bytes of a message. -/
def encode (m : Message) : List UInt8 :=
  [m.magic0, m.magic1, m.tag] ++ Word.toBytes 4 m.seqnum.toNat ++
    Word.toBytes 2 m.sample.toUInt16.toNat ++ Word.toBytes 2 m.command.toUInt16.toNat

/-- The message of a buffer. -/
def decode (bytes : List UInt8) : Except Malformed Message :=
  match bytes with
  | [m0, m1, t, s0, s1, s2, s3, a0, a1, c0, c1] =>
    if m0 ≠ firstMagic ∨ m1 ≠ secondMagic then .error (.magic m0 m1)
    else if t ≠ actuatorTag then .error (.tag t)
    else .ok ⟨m0, m1, t, UInt32.ofNat (Word.ofBytes [s0, s1, s2, s3]),
      (UInt16.ofNat (Word.ofBytes [a0, a1])).toInt16,
      (UInt16.ofNat (Word.ofBytes [c0, c1])).toInt16⟩
  | _ => .error (.length bytes.length)

end Message

/-- The text of a rejection. -/
def Malformed.message : Malformed → String
  | .length n => "expected 11 bytes, got " ++ toString n
  | .magic a b => "bad magic 0x" ++ Hex.upper a ++ " 0x" ++ Hex.upper b
  | .tag t => "unknown message type 0x" ++ Hex.upper t

end Telemetry
