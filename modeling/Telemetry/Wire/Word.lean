/-
Words as bytes, the least significant byte first.

* `Word.toBytes` — a number on a given count of bytes, higher bits dropped;
* `Word.ofBytes` — the number that a row of bytes stands for.
-/

namespace Telemetry.Word

/-- The `width` lowest bytes of `n`, the least significant first. -/
def toBytes : Nat → Nat → List UInt8
  | 0, _ => []
  | width + 1, n => UInt8.ofNat (n % 256) :: toBytes width (n / 256)

/-- The number with the given bytes, the least significant first. -/
def ofBytes : List UInt8 → Nat
  | [] => 0
  | b :: rest => b.toNat + 256 * ofBytes rest

end Telemetry.Word
