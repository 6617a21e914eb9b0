/-
Floating point numbers of sixty-four bits as exact quotients.

* `Binary64.parts` — the integer and the power of two whose product a finite number is;
* `Binary64.remainder` — the remainder of a division whose quotient is truncated,
  which is always exact;
* `Binary64.ofDecimal` — the number nearest to a decimal.
-/

namespace Telemetry.Binary64

/-- How many values the fraction field has. -/
def fractionUnit : Nat := 4503599627370496

/-- The fraction field of a number. -/
def fraction (x : Float) : Nat := x.toBits.toNat % fractionUnit

/-- The exponent field of a number. -/
def exponent (x : Float) : Nat := x.toBits.toNat / fractionUnit % 2048

/-- The integer `m` and exponent `q` of the size `m * 2 ^ q` of a finite number. -/
def parts (x : Float) : Nat × Int :=
  if exponent x = 0 then (fraction x, -1074)
  else (fractionUnit + fraction x, Int.ofNat (exponent x) - 1075)

/-- Whether the sign bit of a number is set. -/
def isNegative (x : Float) : Bool := x.toBits.toNat / 9223372036854775808 % 2 == 1

/-- Not a number. -/
def nan : Float := 0.0 / 0.0

/-- The remainder of `x` by `y` with the sign of `x`, for finite `x` and finite `y` other
than zero. -/
def finiteRemainder (x y : Float) : Float :=
  let (mx, qx) := parts x
  let (my, qy) := parts y
  let q := min qx qy
  let r := mx * Nat.pow 2 (qx - q).toNat % (my * Nat.pow 2 (qy - q).toNat)
  let size := (Float.ofNat r).scaleB q
  if isNegative x then -size else size

/-- The remainder of `x` by `y` with the sign of `x`. -/
def remainder (x y : Float) : Float :=
  if x.isNaN || y.isNaN || x.isInf || y == 0.0 then nan
  else if y.isInf || x == 0.0 then x
  else finiteRemainder x y

/-- The number nearest to `digits * 10 ^ exponent`; decimals beyond the range are infinite
or zero and are not computed. -/
def ofDecimal (digits : Nat) (exponent : Int) : Float :=
  let places := Int.ofNat (Nat.toDigits 10 digits).length
  if digits = 0 then 0.0
  else if 400 < places + exponent then 1.0 / 0.0
  else if places + exponent < -400 then 0.0
  else if exponent < 0 then Float.ofScientific digits true exponent.natAbs
  else Float.ofScientific digits false exponent.natAbs

end Telemetry.Binary64
