/-
The operators of control law scripts.

* `Int64` operations (`add`, `sub`, …) that fail instead of leaving sixty-four bits;
* `binary` — the value of an operator on two values: integers are checked, an integer
  beside a floating point number becomes one, a text takes in anything added to it,
  and values of unlike types are only ever different;
* `unary` — signs and negation.

Design notes: integer operations are computed without bound and then fitted, so that
what they compute and when they fail can be read off the same line.
-/
import Telemetry.Script.Value

namespace Telemetry.Script

/-- The operators with two operands. -/
inductive BinaryOp where
  | add
  | sub
  | mul
  | div
  | rem
  | pow
  | shl
  | shr
  | bitAnd
  | bitOr
  | bitXor
  | eq
  | ne
  | lt
  | le
  | gt
  | ge
  | range
  | closedRange
deriving DecidableEq

/-- The operators with one operand. -/
inductive UnaryOp where
  | plus
  | minus
  | not
deriving DecidableEq

namespace Integer

/-- The smallest integer. -/
def least : Int := -9223372036854775808

/-- The largest integer. -/
def greatest : Int := 9223372036854775807

/-- Whether an unbounded integer fits. -/
def fits (v : Int) : Bool := least ≤ v && v ≤ greatest

/-- An unbounded integer that fits, or else the given failure. -/
def narrow (e : ArithFault) (v : Int) : Except ArithFault Int64 :=
  if fits v then .ok (Int64.ofInt v) else .error e

/-- The sum of two integers. -/
def add (a b : Int64) : Except ArithFault Int64 := narrow .additionOverflow (a.toInt + b.toInt)

/-- The difference of two integers. -/
def sub (a b : Int64) : Except ArithFault Int64 := narrow .subtractionOverflow (a.toInt - b.toInt)

/-- The product of two integers. -/
def mul (a b : Int64) : Except ArithFault Int64 :=
  narrow .multiplicationOverflow (a.toInt * b.toInt)

/-- The quotient of two integers, rounded toward zero. -/
def div (a b : Int64) : Except ArithFault Int64 :=
  if b = 0 then .error .divisionByZero else narrow .divisionOverflow (a.toInt.tdiv b.toInt)

/-- The remainder of two integers, with the sign of the first. -/
def rem (a b : Int64) : Except ArithFault Int64 :=
  if b = 0 ∨ (a.toInt = least ∧ b = -1) then .error .moduloFault
  else .ok (Int64.ofInt (a.toInt.tmod b.toInt))

/-- The opposite of an integer. -/
def neg (a : Int64) : Except ArithFault Int64 := narrow .negationOverflow (-a.toInt)

/-- A power of an integer. Beyond the exponent sixty-four only 0, 1 and -1 have powers
that fit. -/
def pow (a b : Int64) : Except ArithFault Int64 :=
  if 4294967295 < b.toInt then .error .exponentialOverflow
  else if b < 0 then .error .negativePower
  else if 64 < b.toInt ∧ 1 < a.toInt.natAbs then .error .exponentialOverflow
  else if 64 < b.toInt then narrow .exponentialOverflow (Int.pow a.toInt (2 + b.toInt.toNat % 2))
  else narrow .exponentialOverflow (Int.pow a.toInt b.toInt.toNat)

/-- The bits of an integer moved up by a count of at least zero. -/
def up (a : Int64) (n : Nat) : Int64 := if 64 ≤ n then 0 else a <<< Int64.ofNat n

/-- The bits of an integer moved down by a count of at least zero, the sign kept. -/
def down (a : Int64) (n : Nat) : Int64 :=
  if 64 ≤ n then (if a < 0 then -1 else 0) else a >>> Int64.ofNat n

/-- The bits of an integer moved up; a negative count moves them down. -/
def shl (a b : Int64) : Int64 := if b < 0 then down a b.toInt.natAbs else up a b.toInt.toNat

/-- The bits of an integer moved down; a negative count moves them up. -/
def shr (a b : Int64) : Int64 := if b < 0 then up a b.toInt.natAbs else down a b.toInt.toNat

end Integer

/-- The value of a result of integer arithmetic. -/
def ofInt : Except ArithFault Int64 → Except Fault Value
  | .ok i => .ok (.int i)
  | .error e => .error (.arithmetic e)

/-- An operator on two integers. -/
def onInts (op : BinaryOp) (a b : Int64) : Except Fault Value :=
  match op with
  | .add => ofInt (Integer.add a b)
  | .sub => ofInt (Integer.sub a b)
  | .mul => ofInt (Integer.mul a b)
  | .div => ofInt (Integer.div a b)
  | .rem => ofInt (Integer.rem a b)
  | .pow => ofInt (Integer.pow a b)
  | .shl => .ok (.int (Integer.shl a b))
  | .shr => .ok (.int (Integer.shr a b))
  | .bitAnd => .ok (.int (a &&& b))
  | .bitOr => .ok (.int (a ||| b))
  | .bitXor => .ok (.int (a ^^^ b))
  | .eq => .ok (.bool (a == b))
  | .ne => .ok (.bool (a != b))
  | .lt => .ok (.bool (a < b))
  | .le => .ok (.bool (a ≤ b))
  | .gt => .ok (.bool (b < a))
  | .ge => .ok (.bool (b ≤ a))
  | .range => .ok (.range a b false)
  | .closedRange => .ok (.range a b true)

/-- An operator on two floating point numbers. -/
def onFloats (op : BinaryOp) (a b : Float) : Except Fault Value :=
  match op with
  | .add => .ok (.float (a + b))
  | .sub => .ok (.float (a - b))
  | .mul => .ok (.float (a * b))
  | .div => .ok (.float (a / b))
  | .rem => .ok (.float (Binary64.remainder a b))
  | .pow => .ok (.float (a.pow b))
  | .eq => .ok (.bool (a == b))
  | .ne => .ok (.bool (a != b))
  | .lt => .ok (.bool (a < b))
  | .le => .ok (.bool (a ≤ b))
  | .gt => .ok (.bool (b < a))
  | .ge => .ok (.bool (b ≤ a))
  | _ => .error .functionNotFound

/-- A comparison, from the order of its operands. -/
def onOrdering (op : BinaryOp) (o : Ordering) : Except Fault Value :=
  match op with
  | .eq => .ok (.bool o.isEq)
  | .ne => .ok (.bool o.isNe)
  | .lt => .ok (.bool o.isLT)
  | .le => .ok (.bool o.isLE)
  | .gt => .ok (.bool o.isGT)
  | .ge => .ok (.bool o.isGE)
  | _ => .error .functionNotFound

/-- An operator on two truth values. -/
def onBools (op : BinaryOp) (a b : Bool) : Except Fault Value :=
  match op with
  | .bitAnd => .ok (.bool (a && b))
  | .bitOr => .ok (.bool (a || b))
  | .bitXor => .ok (.bool (a != b))
  | _ => onOrdering op (compare a b)

/-- A text without the places at which another stands in it. -/
def without (part : List Char) : Nat → List Char → List Char
  | 0, cs => cs
  | _, [] => []
  | fuel + 1, c :: rest =>
    if part.isEmpty then c :: rest
    else if part.isPrefixOf (c :: rest) then without part fuel ((c :: rest).drop part.length)
    else c :: without part fuel rest

/-- An operator on two texts. -/
def onTexts (op : BinaryOp) (a b : String) : Except Fault Value :=
  match op with
  | .add => Value.sized (.text (a ++ b))
  | .sub => .ok (.text (String.ofList (without b.toList a.length a.toList)))
  | _ => onOrdering op (compare a b)

/-- An operator on values of types that have nothing in common: they are different. -/
def onUnlike (op : BinaryOp) : Except Fault Value :=
  match op with
  | .ne => .ok (.bool true)
  | .eq => .ok (.bool false)
  | .lt => .ok (.bool false)
  | .le => .ok (.bool false)
  | .gt => .ok (.bool false)
  | .ge => .ok (.bool false)
  | _ => .error .functionNotFound

mutual

/-- Whether two values are equal; arrays are compared item by item. -/
def same : Value → Value → Bool
  | .unit, .unit => true
  | .bool a, .bool b => a == b
  | .int a, .int b => a == b
  | .float a, .float b => a == b
  | .int a, .float b => a.toFloat == b
  | .float a, .int b => a == b.toFloat
  | .char a, .char b => a == b
  | .text a, .text b => a == b
  | .range a b c, .range a' b' c' => a == a' && b == b' && c == c'
  | .array as, .array bs => sameItems as bs
  | _, _ => false

/-- Whether two lists of values are equal item by item. -/
def sameItems : List Value → List Value → Bool
  | [], [] => true
  | a :: as, b :: bs => same a b && sameItems as bs
  | _, _ => false

end

/-- Whether a value lies in a range of integers. -/
def inRange (a b : Int64) (closed : Bool) (i : Int64) : Bool :=
  a ≤ i && (i < b || (closed && i == b))

/-- Whether one text stands in another. -/
def holdsText (part : List Char) : List Char → Bool
  | [] => part.isEmpty
  | c :: rest => part.isPrefixOf (c :: rest) || holdsText part rest

/-- Whether a value is in another: in a range, among the items of an array, or part of a
text. -/
def contains (v : Value) : Value → Except Fault Value
  | .range a b closed =>
    match v with
    | .int i => .ok (.bool (inRange a b closed i))
    | _ => .error .functionNotFound
  | .array items => .ok (.bool (items.any (same v)))
  | .text s =>
    match v with
    | .char c => .ok (.bool (s.toList.contains c))
    | .text t => .ok (.bool (holdsText t.toList s.toList))
    | _ => .error .functionNotFound
  | _ => .error .functionNotFound

/-- An operator on two arrays. -/
def onArrays (op : BinaryOp) (a b : List Value) : Except Fault Value :=
  match op with
  | .add => Value.sized (.array (a ++ b))
  | .eq => .ok (.bool (sameItems a b))
  | .ne => .ok (.bool (!sameItems a b))
  | _ => .error .functionNotFound

/-- The value of an operator on two values. -/
def binary (op : BinaryOp) : Value → Value → Except Fault Value
  | .int x, .int y => onInts op x y
  | .float x, .float y => onFloats op x y
  | .int x, .float y => onFloats op x.toFloat y
  | .float x, .int y => onFloats op x y.toFloat
  | .bool x, .bool y => onBools op x y
  | .text x, .text y => onTexts op x y
  | .text x, .char y => onTexts op x y.toString
  | .char x, .text y => onTexts op x.toString y
  | .char x, .char y =>
    if op = .add then .ok (.text (x.toString ++ y.toString)) else onOrdering op (compare x y)
  | .text x, y => if op = .add then Value.sized (.text (x ++ y.toText)) else onUnlike op
  | x, .text y => if op = .add then Value.sized (.text (x.toText ++ y)) else onUnlike op
  | .array xs, .array ys => onArrays op xs ys
  | .unit, .unit => onOrdering op .eq
  | .range a b c, .range a' b' c' =>
    match op with
    | .eq => .ok (.bool (same (.range a b c) (.range a' b' c')))
    | .ne => .ok (.bool (!same (.range a b c) (.range a' b' c')))
    | _ => .error .functionNotFound
  | .report, .report => .error .functionNotFound
  | _, _ => onUnlike op

/-- The value of an operator on one value. -/
def unary (op : UnaryOp) (v : Value) : Except Fault Value :=
  match op, v with
  | .plus, .int i => .ok (.int i)
  | .plus, .float f => .ok (.float f)
  | .minus, .int i => ofInt (Integer.neg i)
  | .minus, .float f => .ok (.float (-f))
  | .not, .bool b => .ok (.bool (!b))
  | _, _ => .error .functionNotFound

/-- The value that a variable gets from an operator and an operand: an array takes in
a single item, and otherwise it is the value of the operator. -/
def update (op : BinaryOp) (old new : Value) : Except Fault Value :=
  match op, old, new with
  | .add, .array as, .array bs => Value.sized (.array (as ++ bs))
  | .add, .array as, v => Value.sized (.array (as ++ [v]))
  | _, _, _ => binary op old new

end Telemetry.Script
