/-
Words and messages survive the wire.

* `Word.ofBytes_toBytes` — a number that fits into `width` bytes reads back as itself;
* `Message.decode_encode` — a message with the constant header is decoded to itself.
-/
import Mathlib.Tactic.Ring
import Telemetry.Wire.Message

namespace Telemetry

theorem Word.ofBytes_toBytes {width : ℕ} : ∀ {n : ℕ}, n < 256 ^ width →
    Word.ofBytes (Word.toBytes width n) = n := by
  induction width with
  | zero =>
    intro n h
    rw [pow_zero, Nat.lt_one_iff] at h
    rw [h]
    rfl
  | succ width ih =>
    intro n h
    have hrest : n / 256 < 256 ^ width := Nat.div_lt_of_lt_mul (by rwa [pow_succ'] at h)
    have hbyte : (UInt8.ofNat (n % 256)).toNat = n % 256 := by
      simp
    rw [Word.toBytes, Word.ofBytes, ih hrest, hbyte]
    exact Nat.mod_add_div n 256

namespace Message

/-- A message as its eleven bytes. -/
theorem encode_eq (m : Message) : ∃ s0 s1 s2 s3 a0 a1 c0 c1,
    Word.toBytes 4 m.seqnum.toNat = [s0, s1, s2, s3] ∧
    Word.toBytes 2 m.sample.toUInt16.toNat = [a0, a1] ∧
    Word.toBytes 2 m.command.toUInt16.toNat = [c0, c1] ∧
    m.encode = [m.magic0, m.magic1, m.tag, s0, s1, s2, s3, a0, a1, c0, c1] :=
  ⟨_, _, _, _, _, _, _, _, rfl, rfl, rfl, rfl⟩

theorem decode_encode {m : Message} (h0 : m.magic0 = firstMagic) (h1 : m.magic1 = secondMagic)
    (ht : m.tag = actuatorTag) : decode m.encode = .ok m := by
  obtain ⟨s0, s1, s2, s3, a0, a1, c0, c1, hs, ha, hc, he⟩ := m.encode_eq
  have hseqnum : UInt32.ofNat (Word.ofBytes [s0, s1, s2, s3]) = m.seqnum := by
    rw [← hs, Word.ofBytes_toBytes m.seqnum.toNat_lt, UInt32.ofNat_toNat]
  have hsample : (UInt16.ofNat (Word.ofBytes [a0, a1])).toInt16 = m.sample := by
    rw [← ha, Word.ofBytes_toBytes m.sample.toUInt16.toNat_lt, UInt16.ofNat_toNat,
      Int16.toInt16_toUInt16]
  have hcommand : (UInt16.ofNat (Word.ofBytes [c0, c1])).toInt16 = m.command := by
    rw [← hc, Word.ofBytes_toBytes m.command.toUInt16.toNat_lt, UInt16.ofNat_toNat,
      Int16.toInt16_toUInt16]
  rw [he]
  simp only [decode]
  rw [if_neg (by simp [h0, h1]), if_neg (by simp [ht]), hseqnum, hsample, hcommand]

/-- A message that carries a state is decoded to itself. -/
theorem decode_encode_actuatorState (n : UInt32) (state : ActuatorState) :
    decode (actuatorState n state).encode = .ok (actuatorState n state) :=
  decode_encode rfl rfl rfl

end Message

end Telemetry
