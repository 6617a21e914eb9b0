/-
Digits of numbers written in a radix up to sixteen.

* `Digit.value?` — the value of a digit of either case;
* `Digit.isOf` — whether a character is a digit of a radix;
* `Digit.number` — the number that digits stand for.
-/

namespace Telemetry.Digit

/-- The lower-case digit of a value below sixteen. -/
def lower (n : Nat) : Char :=
  if n < 10 then Char.ofNat (48 + n) else Char.ofNat (87 + n)

/-- The upper-case digit of a value below sixteen. -/
def upper (n : Nat) : Char :=
  if n < 10 then Char.ofNat (48 + n) else Char.ofNat (55 + n)

/-- The value of a digit of either case. -/
def value? (c : Char) : Option Nat :=
  if '0' ≤ c ∧ c ≤ '9' then some (c.toNat - 48)
  else if 'a' ≤ c ∧ c ≤ 'f' then some (c.toNat - 87)
  else if 'A' ≤ c ∧ c ≤ 'F' then some (c.toNat - 55)
  else none

/-- Whether a character is a digit of a radix. -/
def isOf (radix : Nat) (c : Char) : Bool := (value? c).any (· < radix)

/-- The number that digits stand for. -/
def number (radix : Nat) (ds : List Char) : Nat :=
  ds.foldl (fun n c => n * radix + (value? c).getD 0) 0

end Telemetry.Digit
