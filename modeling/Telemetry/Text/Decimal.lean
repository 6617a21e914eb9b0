/-
Floating point numbers as decimal text.

* `Decimal.shortest` — the fewest digits that read back as the number, and of those
  the nearest to it;
* `Decimal.positional` — digits with a point and no exponent;
* `Decimal.scientific` — one digit before the point and an exponent.

Design notes: a number stands for the interval of reals that round to it, ends
included if its integer is even. For each count of digits the two neighbours of the
number on that decimal grid are tested in exact arithmetic; the first count with a
hit wins, and if a grid has a point in the interval, one of the two is one.
-/
import Telemetry.Binary64

namespace Telemetry.Decimal

/-- A quotient of naturals. -/
structure Quotient where
  num : Nat
  den : Nat

/-- Whether one quotient is below another. -/
def Quotient.below (a b : Quotient) : Bool := a.num * b.den < b.num * a.den

/-- A quarter of `x * 2 ^ q`. -/
def quarter (x : Nat) (q : Int) : Quotient := ⟨x * Nat.pow 2 q.toNat, 4 * Nat.pow 2 (-q).toNat⟩

/-- `d * 10 ^ e`. -/
def scaled (d : Nat) (e : Int) : Quotient := ⟨d * Nat.pow 10 e.toNat, Nat.pow 10 (-e).toNat⟩

/-- How many zeros follow the point before the first digit of a quotient below one. -/
def leadingZeros : Nat → Quotient → Nat
  | 0, _ => 0
  | fuel + 1, v => if v.den ≤ v.num * 10 then 0 else 1 + leadingZeros fuel ⟨v.num * 10, v.den⟩

/-- The power of ten just above a quotient. -/
def magnitude (v : Quotient) : Int :=
  if v.den ≤ v.num then Int.ofNat (Nat.toDigits 10 (v.num / v.den)).length
  else -(Int.ofNat (leadingZeros 400 v))

/-- Whether a decimal lies between two quotients, ends included if `closed`. -/
def within (closed : Bool) (low high c : Quotient) : Bool :=
  if closed then !c.below low && !high.below c else low.below c && c.below high

/-- The whole part of a quotient times a power of ten. -/
def wholeAt (v : Quotient) (s : Int) : Nat :=
  v.num * Nat.pow 10 s.toNat / (v.den * Nat.pow 10 (-s).toNat)

/-- The distance between two quotients over their common denominator. -/
def distance (a b : Quotient) : Nat :=
  ((Int.ofNat (a.num * b.den)) - (Int.ofNat (b.num * a.den))).natAbs

/-- The nearer of two decimals that lie in the interval, if one does. -/
def pick (closed : Bool) (low high v : Quotient) (d : Nat) (e : Int) : Option Nat :=
  let a := scaled d e
  let b := scaled (d + 1) e
  match within closed low high a, within closed low high b with
  | true, true =>
    some (if distance a v * b.den ≤ distance b v * a.den then d else d + 1)
  | true, false => some d
  | false, true => some (d + 1)
  | false, false => none

/-- Tries grids of more and more digits, at most `fuel` of them. -/
def search (closed : Bool) (low high v : Quotient) : Nat → Int → Nat × Int
  | 0, s => (wholeAt v s, -s)
  | fuel + 1, s =>
    match pick closed low high v (wholeAt v s) (-s) with
    | some d => (d, -s)
    | none => search closed low high v fuel (s + 1)

/-- Digits without zeros at their end. -/
def stripZeros : Nat → Nat × Int → Nat × Int
  | 0, p => p
  | fuel + 1, (d, e) => if d % 10 = 0 then stripZeros fuel (d / 10, e + 1) else (d, e)

/-- The fewest digits, with their power of ten, that read back as the size of a finite
number other than zero. -/
def shortest (x : Float) : Nat × Int :=
  let (m, q) := Binary64.parts x
  let narrow := Binary64.fraction x = 0 ∧ 1 < Binary64.exponent x
  let v := quarter (4 * m) q
  let low := quarter (if narrow then 4 * m - 1 else 4 * m - 2) q
  let high := quarter (4 * m + 2) q
  let found := search (m % 2 == 0) low high v 17 (1 - magnitude v)
  stripZeros 20 found

/-- Digits with a point at the place that the power of ten says; whole numbers have no
point. -/
def place (digits : List Char) (e : Int) : List Char :=
  let point := Int.ofNat digits.length + e
  if 0 ≤ e then digits ++ List.replicate e.toNat '0'
  else if 0 < point then digits.take point.toNat ++ '.' :: digits.drop point.toNat
  else '0' :: '.' :: List.replicate (-point).toNat '0' ++ digits

/-- The sign of a number as text. -/
def sign (x : Float) : String := if Binary64.isNegative x then "-" else ""

/-- The texts of the numbers without digits. -/
def special? (x : Float) : Option String :=
  if x.isNaN then some "NaN"
  else if x.isInf then some (sign x ++ "inf")
  else none

/-- A number with a point and no exponent. -/
def positional (x : Float) : String :=
  match special? x with
  | some s => s
  | none =>
    if x == 0.0 then sign x ++ "0"
    else
      let (d, e) := shortest x
      sign x ++ String.ofList (place (Nat.toDigits 10 d) e)

/-- A number with one digit before the point and an exponent. -/
def scientific (x : Float) : String :=
  match special? x with
  | some s => s
  | none =>
    if x == 0.0 then sign x ++ "0e0"
    else
      let (d, e) := shortest x
      let digits := Nat.toDigits 10 d
      let tail := if digits.length ≤ 1 then [] else '.' :: digits.drop 1
      let power := e + Int.ofNat digits.length - 1
      sign x ++ String.ofList (digits.take 1 ++ tail) ++ "e" ++ toString power

/-- A number with a point in any case, unless it has no digits. -/
def pointed (x : Float) : String :=
  let s := positional x
  if (special? x).isSome || s.toList.contains '.' then s else s ++ ".0"

end Telemetry.Decimal
