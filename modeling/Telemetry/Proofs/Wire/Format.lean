/-
The format of a message is exact.

The buffers of eleven bytes and the messages correspond to each other one by one, whatever
the header says, so what a buffer is rejected for can be read off the message it encodes:

* `Word.toBytes_ofBytes` — a row of bytes is the word it stands for;
* `Message.exists_encode`, `Message.encode_injective` — every buffer of the right length is
  the encoding of one message;
* `Message.decode_encode_of_magic`, `Message.decode_encode_of_tag` — why the encoding of a
  message with another header is rejected;
* `Message.decode_exact` — what is accepted, and what is rejected for which reason.
-/
import Mathlib.Logic.Function.Basic
import Telemetry.Proofs.Wire.Message

namespace Telemetry

namespace Word

theorem length_toBytes (width n : ℕ) : (toBytes width n).length = width := by
  induction width generalizing n with
  | zero => rfl
  | succ width ih => rw [toBytes, List.length_cons, ih]

theorem ofBytes_lt (bytes : List UInt8) : ofBytes bytes < 256 ^ bytes.length := by
  induction bytes with
  | nil => exact Nat.one_pos
  | cons b rest ih =>
    have hb : b.toNat < 256 := b.toNat_lt
    rw [ofBytes, List.length_cons, pow_succ]
    omega

/-- A row of bytes is the word it stands for, on as many bytes. -/
theorem toBytes_ofBytes (bytes : List UInt8) : toBytes bytes.length (ofBytes bytes) = bytes := by
  induction bytes with
  | nil => rfl
  | cons b rest ih =>
    have hb : b.toNat < 256 := b.toNat_lt
    have hlow : (b.toNat + 256 * ofBytes rest) % 256 = b.toNat := by omega
    have hhigh : (b.toNat + 256 * ofBytes rest) / 256 = ofBytes rest := by omega
    rw [List.length_cons, ofBytes, toBytes, hlow, hhigh, ih, UInt8.ofNat_toNat]

/-- Words that fit into their bytes are told apart by them. -/
theorem eq_of_toBytes_eq {width m n : ℕ} (hm : m < 256 ^ width) (hn : n < 256 ^ width)
    (h : toBytes width m = toBytes width n) : m = n := by
  rw [← ofBytes_toBytes hm, ← ofBytes_toBytes hn, h]

/-- A word of thirty-two bits on its four bytes. -/
theorem toBytes_uint32 (s0 s1 s2 s3 : UInt8) :
    toBytes 4 (UInt32.ofNat (ofBytes [s0, s1, s2, s3])).toNat = [s0, s1, s2, s3] := by
  have hlt : ofBytes [s0, s1, s2, s3] < UInt32.size :=
    lt_of_lt_of_eq (ofBytes_lt _) (by simp [UInt32.size])
  rw [UInt32.toNat_ofNat_of_lt' hlt]
  exact toBytes_ofBytes [s0, s1, s2, s3]

/-- The two bytes of a signed word of sixteen bits tell its value. -/
theorem eq_of_toBytes_int16 {a b : Int16}
    (h : toBytes 2 a.toUInt16.toNat = toBytes 2 b.toUInt16.toNat) : a = b := by
  have hwords : a.toUInt16 = b.toUInt16 :=
    UInt16.toNat_inj.mp (eq_of_toBytes_eq a.toUInt16.toNat_lt b.toUInt16.toNat_lt h)
  rw [← Int16.toInt16_toUInt16 a, hwords, Int16.toInt16_toUInt16]

/-- A signed word of sixteen bits on its two bytes. -/
theorem toBytes_int16 (a0 a1 : UInt8) :
    toBytes 2 (UInt16.ofNat (ofBytes [a0, a1])).toInt16.toUInt16.toNat = [a0, a1] := by
  have hlt : ofBytes [a0, a1] < UInt16.size :=
    lt_of_lt_of_eq (ofBytes_lt _) (by simp [UInt16.size])
  rw [UInt16.toUInt16_toInt16, UInt16.toNat_ofNat_of_lt' hlt]
  exact toBytes_ofBytes [a0, a1]

end Word

namespace Message

/-- Whether a message has the constant header. -/
def HasHeader (m : Message) : Prop :=
  m.magic0 = firstMagic ∧ m.magic1 = secondMagic ∧ m.tag = actuatorTag

theorem length_encode (m : Message) : m.encode.length = size := rfl

/-- Every buffer of eleven bytes is the encoding of a message. -/
theorem exists_encode {bytes : List UInt8} (h : bytes.length = size) :
    ∃ m : Message, m.encode = bytes := by
  match bytes, h with
  | [m0, m1, t, s0, s1, s2, s3, a0, a1, c0, c1], _ =>
    refine ⟨⟨m0, m1, t, UInt32.ofNat (Word.ofBytes [s0, s1, s2, s3]),
      (UInt16.ofNat (Word.ofBytes [a0, a1])).toInt16,
      (UInt16.ofNat (Word.ofBytes [c0, c1])).toInt16⟩, ?_⟩
    rw [encode, Word.toBytes_uint32, Word.toBytes_int16, Word.toBytes_int16]
    rfl

theorem encode_injective : Function.Injective encode := by
  intro m m' h
  obtain ⟨magic0, magic1, tag, seqnum, sample, command⟩ := m
  obtain ⟨magic0', magic1', tag', seqnum', sample', command'⟩ := m'
  -- the fields have fixed widths, so equal buffers are equal field by field
  obtain ⟨h, hcommand⟩ := List.append_inj' h (by rw [Word.length_toBytes, Word.length_toBytes])
  obtain ⟨h, hsample⟩ := List.append_inj' h (by rw [Word.length_toBytes, Word.length_toBytes])
  obtain ⟨hheader, hseqnum⟩ :=
    List.append_inj' h (by rw [Word.length_toBytes, Word.length_toBytes])
  obtain ⟨rfl, rfl, rfl⟩ : magic0 = magic0' ∧ magic1 = magic1' ∧ tag = tag' := by
    simpa using hheader
  obtain rfl : seqnum = seqnum' :=
    UInt32.toNat_inj.mp (Word.eq_of_toBytes_eq seqnum.toNat_lt seqnum'.toNat_lt hseqnum)
  obtain rfl : sample = sample' := Word.eq_of_toBytes_int16 hsample
  obtain rfl : command = command' := Word.eq_of_toBytes_int16 hcommand
  rfl

/-! ### Rejections -/

theorem decode_of_length_ne {bytes : List UInt8} (h : bytes.length ≠ size) :
    decode bytes = .error (.length bytes.length) := by
  unfold decode
  split
  · exact absurd rfl h
  · rfl

/-- A wrong magic byte is judged before the tag. -/
theorem decode_encode_of_magic {m : Message}
    (h : m.magic0 ≠ firstMagic ∨ m.magic1 ≠ secondMagic) :
    decode m.encode = .error (.magic m.magic0 m.magic1) := by
  obtain ⟨s0, s1, s2, s3, a0, a1, c0, c1, -, -, -, he⟩ := m.encode_eq
  rw [he]
  simp only [decode]
  rw [if_pos h]

theorem decode_encode_of_tag {m : Message} (h0 : m.magic0 = firstMagic)
    (h1 : m.magic1 = secondMagic) (ht : m.tag ≠ actuatorTag) :
    decode m.encode = .error (.tag m.tag) := by
  obtain ⟨s0, s1, s2, s3, a0, a1, c0, c1, -, -, -, he⟩ := m.encode_eq
  rw [he]
  simp only [decode]
  rw [if_neg (by simp [h0, h1]), if_pos ht]

/-- Everything a buffer can be: of another length, or the encoding of a message with a wrong
magic byte, with another tag, or with the constant header. -/
inductive Decoded : List UInt8 → Except Malformed Message → Prop
  | length {bytes : List UInt8} (h : bytes.length ≠ size) :
      Decoded bytes (.error (.length bytes.length))
  | magic {m : Message} (h : m.magic0 ≠ firstMagic ∨ m.magic1 ≠ secondMagic) :
      Decoded m.encode (.error (.magic m.magic0 m.magic1))
  | tag {m : Message} (h0 : m.magic0 = firstMagic) (h1 : m.magic1 = secondMagic)
      (ht : m.tag ≠ actuatorTag) : Decoded m.encode (.error (.tag m.tag))
  | message {m : Message} (h : m.HasHeader) : Decoded m.encode (.ok m)

theorem decode_decoded (bytes : List UInt8) : Decoded bytes (decode bytes) := by
  by_cases hlength : bytes.length = size
  · obtain ⟨m, rfl⟩ := exists_encode hlength
    by_cases hmagic : m.magic0 ≠ firstMagic ∨ m.magic1 ≠ secondMagic
    · rw [decode_encode_of_magic hmagic]
      exact .magic hmagic
    · obtain ⟨h0, h1⟩ : m.magic0 = firstMagic ∧ m.magic1 = secondMagic := by
        simpa using hmagic
      by_cases ht : m.tag = actuatorTag
      · rw [decode_encode h0 h1 ht]
        exact .message ⟨h0, h1, ht⟩
      · rw [decode_encode_of_tag h0 h1 ht]
        exact .tag h0 h1 ht
  · rw [decode_of_length_ne hlength]
    exact .length hlength

/-- A buffer is accepted as a message exactly if it is the encoding of this message, and the
message has the constant header. -/
theorem decode_eq_ok_iff {bytes : List UInt8} {m : Message} :
    decode bytes = .ok m ↔ m.HasHeader ∧ bytes = m.encode := by
  constructor
  · intro h
    have hdecoded := decode_decoded bytes
    rw [h] at hdecoded
    cases hdecoded with
    | message hheader => exact ⟨hheader, rfl⟩
  · rintro ⟨⟨h0, h1, ht⟩, rfl⟩
    exact decode_encode h0 h1 ht

/-- A buffer is rejected for its length exactly if it has another length. -/
theorem decode_eq_length_iff {bytes : List UInt8} {n : ℕ} :
    decode bytes = .error (.length n) ↔ bytes.length ≠ size ∧ n = bytes.length := by
  constructor
  · intro h
    have hdecoded := decode_decoded bytes
    rw [h] at hdecoded
    cases hdecoded with
    | length hlength => exact ⟨hlength, rfl⟩
  · rintro ⟨hlength, rfl⟩
    exact decode_of_length_ne hlength

/-- A buffer is rejected for its magic bytes exactly if it has the right length and one of
them is wrong, whatever its tag. -/
theorem decode_eq_magic_iff {bytes : List UInt8} {x y : UInt8} :
    decode bytes = .error (.magic x y) ↔
      bytes.length = size ∧ bytes[0]? = some x ∧ bytes[1]? = some y ∧
        (x ≠ firstMagic ∨ y ≠ secondMagic) := by
  constructor
  · intro h
    have hdecoded := decode_decoded bytes
    rw [h] at hdecoded
    cases hdecoded with
    | magic hmagic => exact ⟨length_encode _, rfl, rfl, hmagic⟩
  · rintro ⟨hlength, hx, hy, hmagic⟩
    obtain ⟨m, rfl⟩ := exists_encode hlength
    obtain rfl : m.magic0 = x := Option.some_inj.mp hx
    obtain rfl : m.magic1 = y := Option.some_inj.mp hy
    exact decode_encode_of_magic hmagic

/-- A buffer is rejected for its tag exactly if it has the right length and magic bytes, and
another tag. -/
theorem decode_eq_tag_iff {bytes : List UInt8} {t : UInt8} :
    decode bytes = .error (.tag t) ↔
      bytes.length = size ∧ bytes[0]? = some firstMagic ∧ bytes[1]? = some secondMagic ∧
        bytes[2]? = some t ∧ t ≠ actuatorTag := by
  constructor
  · intro h
    have hdecoded := decode_decoded bytes
    rw [h] at hdecoded
    cases hdecoded with
    | @tag m h0 h1 ht =>
      exact ⟨m.length_encode, congrArg some h0, congrArg some h1, rfl, ht⟩
  · rintro ⟨hlength, h0, h1, ht, htag⟩
    obtain ⟨m, rfl⟩ := exists_encode hlength
    obtain rfl : m.tag = t := Option.some_inj.mp ht
    exact decode_encode_of_tag (Option.some_inj.mp h0) (Option.some_inj.mp h1) htag

/-- **The format is exact.** Decoding accepts the encodings of the messages with the constant
header and nothing else; encoding and decoding undo each other there, and encoding tells all
messages apart. Everything else is rejected for the first of its faults: its length, a magic
byte, its tag. -/
theorem decode_exact :
    (∀ bytes m, decode bytes = .ok m ↔ m.HasHeader ∧ bytes = m.encode) ∧
    (∀ m : Message, m.HasHeader → decode m.encode = .ok m) ∧
    (∀ bytes m, decode bytes = .ok m → m.encode = bytes) ∧
    Function.Injective encode ∧
    (∀ bytes n, decode bytes = .error (.length n) ↔ bytes.length ≠ size ∧ n = bytes.length) ∧
    (∀ bytes x y, decode bytes = .error (.magic x y) ↔
      bytes.length = size ∧ bytes[0]? = some x ∧ bytes[1]? = some y ∧
        (x ≠ firstMagic ∨ y ≠ secondMagic)) ∧
    (∀ bytes t, decode bytes = .error (.tag t) ↔
      bytes.length = size ∧ bytes[0]? = some firstMagic ∧ bytes[1]? = some secondMagic ∧
        bytes[2]? = some t ∧ t ≠ actuatorTag) := by
  refine ⟨fun _ _ => decode_eq_ok_iff, fun m h => ?_, fun bytes m h => ?_, encode_injective,
    fun _ _ => decode_eq_length_iff, fun _ _ _ => decode_eq_magic_iff,
    fun _ _ => decode_eq_tag_iff⟩
  · exact decode_eq_ok_iff.mpr ⟨h, rfl⟩
  · exact (decode_eq_ok_iff.mp h).2.symm

/-- The message with the largest number and the two extreme words. -/
def extreme : Message := actuatorState 0xFFFFFFFF ⟨-32768, 32767⟩

theorem decode_exact_extreme :
    extreme.HasHeader ∧ decode extreme.encode = .ok extreme ∧
    decode (extreme.encode ++ [0]) = .error (.length 12) := by
  obtain ⟨-, hdecode, -, -, hlength, -, -⟩ := decode_exact
  have hheader : extreme.HasHeader := ⟨rfl, rfl, rfl⟩
  exact ⟨hheader, hdecode extreme hheader, (hlength _ 12).mpr ⟨by decide, rfl⟩⟩

/-- The words of a message stand with their least significant byte first. -/
example : (actuatorState 258 ⟨125, -125⟩).encode =
    [0xAA, 0xBB, 0xF0, 2, 1, 0, 0, 125, 0, 0x83, 0xFF] := by decide

end Message

end Telemetry
