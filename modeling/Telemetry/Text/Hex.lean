/-
Bytes as hexadecimal text.

* `Hex.ofBytes` — two lower-case digits for each byte, nothing between them;
* `Hex.toBytes?` — reads such a text back, digits of either case;
* `Hex.upper` — one byte as two upper-case digits, for messages.
-/
import Telemetry.Text.Digit

namespace Telemetry.Hex

/-- The two digits of one byte, high half first. -/
def pair (b : UInt8) : List Char :=
  [Digit.lower (b.toNat / 16), Digit.lower (b.toNat % 16)]

/-- Bytes as lower-case digits. -/
def ofBytes (bytes : List UInt8) : String :=
  String.ofList (bytes.flatMap pair)

/-- Bytes from pairs of digits. -/
def pairs? : List Char → Option (List UInt8)
  | [] => some []
  | [_] => none
  | h :: l :: rest => do
    let high ← Digit.value? h
    let low ← Digit.value? l
    let bytes ← pairs? rest
    return UInt8.ofNat (16 * high + low) :: bytes

/-- The bytes a hexadecimal text stands for. -/
def toBytes? (text : String) : Option (List UInt8) :=
  pairs? text.toList

/-- One byte as two upper-case digits. -/
def upper (b : UInt8) : String :=
  String.ofList [Digit.upper (b.toNat / 16), Digit.upper (b.toNat % 16)]

/-- A number in lower-case digits, without leading zeros. -/
def ofNat (n : Nat) : String :=
  String.ofList (Nat.toDigits 16 n)

end Telemetry.Hex
