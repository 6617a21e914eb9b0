/-
The functions that every control law script can call.

* `Library.apply` — the value of a function on its arguments, and what has become of the
  first of them;
* `Library.property` — the value of a property;
* `Value.item`, `Value.withItem` — the item of a value at a place, and the value with
  another item there.

Design notes: a function fits its arguments exactly, as no number is turned into another
kind on the way; `invert`, `saturate` and `deadband` are for integers and never leave
sixty-four bits. A dead band takes the size of its integer without a check: the smallest
integer has no opposite and is its own size, which is below every other width.
-/
import Telemetry.Script.Arith
import Telemetry.Signal

namespace Telemetry.Script

namespace Integer

/-- The size of an integer. -/
def abs (a : Int64) : Except ArithFault Int64 := narrow .negationOverflow a.toInt.natAbs

/-- The sign of an integer as a number. -/
def sign (a : Int64) : Int64 := Int64.ofInt a.toInt.sign

/-- The command nearest to an integer. -/
def saturate (a : Int64) : Int64 := (Command.clamp a.toInt).toInt64

/-- The command nearest to the opposite of an integer. -/
def invert (a : Int64) : Int64 := (Command.clamp (-a.toInt)).toInt64

/-- Zero for an integer whose size, in sixty-four bits, is below the width, and otherwise
the integer. -/
def deadband (a width : Int64) : Int64 := if a.abs < width then 0 else a

/-- The integer that a floating point number becomes without what follows the point. -/
def ofFloat (x : Float) : Except ArithFault Int64 :=
  if 9223372036854775808.0 < x || x < -9223372036854775808.0 then .error .integerOverflow
  else .ok x.toInt64

end Integer

/-- A place in a range of `x` brought to the place of the same share in another range. -/
def mapRange (x inMin inMax outMin outMax : Float) : Float :=
  (x - inMin) * (outMax - outMin) / (inMax - inMin) + outMin

/-- The sign of a floating point number as a number. -/
def signOf (x : Float) : Except Fault Value :=
  if x.isNaN then .error .undefinedSign
  else if x == 0.0 then .ok (.int 0)
  else .ok (.int (if x < 0.0 then -1 else 1))

/-- The smaller of two floating point numbers, or the one that is a number. -/
def lesser (x y : Float) : Float :=
  if x.isNaN then y else if y.isNaN then x else if y < x then y else x

/-- The larger of two floating point numbers, or the one that is a number. -/
def larger (x y : Float) : Float :=
  if x.isNaN then y else if y.isNaN then x else if x < y then y else x

/-- The part of a floating point number that follows the point. -/
def fractionOf (x : Float) : Float := x - (if x < 0.0 then x.ceil else x.floor)

namespace Value

/-- The place in a sequence that an index means; a negative one counts from the end. -/
def place (length : Nat) (i : Int64) : Option Nat :=
  let n : Int := if i < 0 then length + i.toInt else i.toInt
  if 0 ≤ n ∧ n < length then some n.toNat else none

/-- The item of a value at a place. -/
def item (v i : Value) : Except Fault Value :=
  match v, i with
  | .array items, .int i =>
    match (place items.length i).bind (items[·]?) with
    | some v => .ok v
    | none => .error (.arrayBounds i)
  | .text s, .int i =>
    match (place s.length i).bind (s.toList[·]?) with
    | some c => .ok (.char c)
    | none => .error (.textBounds i)
  | .int n, .int i =>
    match place 64 i with
    | some k => .ok (.bool (n.toInt / Nat.pow 2 k % 2 == 1))
    | none => .error (.bitBounds i)
  | _, _ => .error .notIndexable

/-- A value with another item at a place. -/
def withItem (v i new : Value) : Except Fault Value :=
  match v, i, new with
  | .array items, .int i, new =>
    match place items.length i with
    | some k => sized (.array (items.set k new))
    | none => .error (.arrayBounds i)
  | .text s, .int i, .char c =>
    match place s.length i with
    | some k => .ok (.text (String.ofList (s.toList.set k c)))
    | none => .error (.textBounds i)
  | .int n, .int i, .bool b =>
    match place 64 i with
    | some k =>
      let bit := (1 : Int64) <<< Int64.ofNat k
      .ok (.int (if b then n ||| bit else n &&& ~~~bit))
    | none => .error (.bitBounds i)
  | _, _, _ => .error .notIndexable

end Value

namespace Library

/-- The value of a property. -/
def property (name : String) (v : Value) : Except Fault Value :=
  match name, v with
  | "len", .array items => .ok (.int (Int64.ofNat items.length))
  | "len", .text s => .ok (.int (Int64.ofNat s.length))
  | "is_empty", .array items => .ok (.bool items.isEmpty)
  | "is_empty", .text s => .ok (.bool s.isEmpty)
  | "is_odd", .int i => .ok (.bool (i % 2 != 0))
  | "is_even", .int i => .ok (.bool (i % 2 == 0))
  | "is_zero", .int i => .ok (.bool (i == 0))
  | "is_zero", .float x => .ok (.bool (x == 0.0))
  | "is_nan", .float x => .ok (.bool x.isNaN)
  | "is_finite", .float x => .ok (.bool x.isFinite)
  | "is_infinite", .float x => .ok (.bool x.isInf)
  | "floor", .float x => .ok (.float x.floor)
  | "ceiling", .float x => .ok (.float x.ceil)
  | "round", .float x => .ok (.float x.round)
  | "int", .float x => .ok (.float (x - fractionOf x))
  | "fraction", .float x => .ok (.float (fractionOf x))
  | "start", .range a _ _ => .ok (.int a)
  | "end", .range _ b _ => .ok (.int b)
  | "is_inclusive", .range _ _ c => .ok (.bool c)
  | "is_exclusive", .range _ _ c => .ok (.bool (!c))
  | _, _ => .error .unknownProperty

/-- The value of a function of numbers. -/
def ofNumbers (name : String) (args : List Value) : Except Fault Value :=
  match name, args with
  | "invert", [.int a] => .ok (.int (Integer.invert a))
  | "saturate", [.int a] => .ok (.int (Integer.saturate a))
  | "deadband", [.int a, .int w] => .ok (.int (Integer.deadband a w))
  | "map_range", [.float x, .float a, .float b, .float c, .float d] =>
    .ok (.float (mapRange x a b c d))
  | "abs", [.int a] => ofInt (Integer.abs a)
  | "abs", [.float x] => .ok (.float x.abs)
  | "sign", [.int a] => .ok (.int (Integer.sign a))
  | "sign", [.float x] => signOf x
  | "min", [.int a, .int b] => .ok (.int (min a b))
  | "max", [.int a, .int b] => .ok (.int (max a b))
  | "min", [.float x, .float y] => .ok (.float (lesser x y))
  | "max", [.float x, .float y] => .ok (.float (larger x y))
  | "min", [.int a, .float y] => .ok (.float (lesser a.toFloat y))
  | "max", [.int a, .float y] => .ok (.float (larger a.toFloat y))
  | "min", [.float x, .int b] => .ok (.float (lesser x b.toFloat))
  | "max", [.float x, .int b] => .ok (.float (larger x b.toFloat))
  | "min", [.text a, .text b] => .ok (.text (if b < a then b else a))
  | "max", [.text a, .text b] => .ok (.text (if a < b then b else a))
  | "min", [.char a, .char b] => .ok (.char (if b < a then b else a))
  | "max", [.char a, .char b] => .ok (.char (if a < b then b else a))
  | "floor", [.float x] => .ok (.float x.floor)
  | "ceiling", [.float x] => .ok (.float x.ceil)
  | "round", [.float x] => .ok (.float x.round)
  | "int", [.float x] => .ok (.float (x - fractionOf x))
  | "fraction", [.float x] => .ok (.float (fractionOf x))
  | "sqrt", [.float x] => .ok (.float x.sqrt)
  | "exp", [.float x] => .ok (.float x.exp)
  | "ln", [.float x] => .ok (.float x.log)
  | "sin", [.float x] => .ok (.float x.sin)
  | "cos", [.float x] => .ok (.float x.cos)
  | "tan", [.float x] => .ok (.float x.tan)
  | "to_float", [.int a] => .ok (.float a.toFloat)
  | "to_int", [.int a] => .ok (.int a)
  | "to_int", [.float x] => ofInt (Integer.ofFloat x)
  | "is_odd", [.int a] => .ok (.bool (a % 2 != 0))
  | "is_even", [.int a] => .ok (.bool (a % 2 == 0))
  | "is_zero", [.int a] => .ok (.bool (a == 0))
  | "is_zero", [.float x] => .ok (.bool (x == 0.0))
  | "is_nan", [.float x] => .ok (.bool x.isNaN)
  | "is_finite", [.float x] => .ok (.bool x.isFinite)
  | "is_infinite", [.float x] => .ok (.bool x.isInf)
  | _, _ => .error .functionNotFound

/-- The value of a function that leaves its arguments as they are. -/
def pureValue (name : String) (args : List Value) : Except Fault Value :=
  match name, args with
  | "to_string", [v] => Value.sized (.text v.toText)
  | "type_of", [v] => .ok (.text v.typeName)
  | "is_shared", [_] => .ok (.bool false)
  | "contains", [c, v] => contains v c
  | "len", [.array items] => .ok (.int (Int64.ofNat items.length))
  | "len", [.text s] => .ok (.int (Int64.ofNat s.length))
  | "is_empty", [.array items] => .ok (.bool items.isEmpty)
  | "is_empty", [.text s] => .ok (.bool s.isEmpty)
  | "get", [.array items, i] =>
    match i with
    | .int i => .ok (((Value.place items.length i).bind (items[·]?)).getD .unit)
    | _ => .error .functionNotFound
  | _, _ => ofNumbers name args

/-- What a function makes of an array: its value, and what the array becomes; `none` if it
makes nothing of arrays. -/
def ofArray? (name : String) (items : List Value) (args : List Value) :
    Option (Value × List Value) :=
  match name, args with
  | "push", [v] => some (.unit, items ++ [v])
  | "append", [.array more] => some (.unit, items ++ more)
  | "pop", [] => some (items.getLast?.getD .unit, items.dropLast)
  | "shift", [] => some (items.head?.getD .unit, items.drop 1)
  | "reverse", [] => some (.unit, items.reverse)
  | "clear", [] => some (.unit, [])
  | "insert", [.int i, v] =>
    let n : Int := if i < 0 then max 0 (items.length + i.toInt) else i.toInt
    some (.unit, items.take n.toNat ++ v :: items.drop n.toNat)
  | "remove", [.int i] =>
    match Value.place items.length i with
    | some k => some ((items[k]?).getD .unit, items.eraseIdx k)
    | none => some (.unit, items)
  | "truncate", [.int n] => some (.unit, items.take n.toInt.toNat)
  | _, _ => none

/-- The value of a function on its arguments, and what has become of the first of them if
the function changes it. -/
def apply (name : String) (args : List Value) : Except Fault (Value × Option Value) :=
  match args with
  | .array items :: rest =>
    match ofArray? name items rest with
    | some (v, items) => do
      let changed ← Value.sized (.array items)
      .ok (v, some changed)
    | none => (pureValue name args).map (·, none)
  | _ => (pureValue name args).map (·, none)

end Library

end Telemetry.Script
