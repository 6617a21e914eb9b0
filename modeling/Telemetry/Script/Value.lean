/-
The values of control law scripts, and what can go wrong with them.

* `Value` — unit, truth values, integers of sixty-four bits, floating point numbers,
  characters, texts, ranges and arrays;
* `Fault` — the causes for which a script fails, `Fault.message` their texts, and
  `Fault.isCatchable` whether a script may handle them itself.
-/
import Telemetry.Text.Decimal

namespace Telemetry.Script

/-- A value of a script; `report` stands for the description of a fault that a handler
is given. -/
inductive Value where
  | unit
  | bool (b : Bool)
  | int (i : Int64)
  | float (f : Float)
  | char (c : Char)
  | text (s : String)
  | range (first last : Int64) (closed : Bool)
  | array (items : List Value)
  | report
deriving Inhabited

/-- How integer arithmetic can fail. -/
inductive ArithFault where
  | additionOverflow
  | subtractionOverflow
  | multiplicationOverflow
  | divisionByZero
  | divisionOverflow
  | moduloFault
  | exponentialOverflow
  | negativePower
  | negationOverflow
  | integerOverflow
deriving DecidableEq

/-- The text of a failure of arithmetic. -/
def ArithFault.message : ArithFault → String
  | .additionOverflow => "Addition overflow"
  | .subtractionOverflow => "Subtraction overflow"
  | .multiplicationOverflow => "Multiplication overflow"
  | .divisionByZero => "Division by zero"
  | .divisionOverflow => "Division overflow"
  | .moduloFault => "Modulo division by zero or overflow"
  | .exponentialOverflow => "Exponential overflow"
  | .negativePower => "Integer raised to a negative power"
  | .negationOverflow => "Negation overflow"
  | .integerOverflow => "Integer overflow"

/-- Why a script fails. -/
inductive Fault where
  | arithmetic (e : ArithFault)
  | variableNotFound
  | functionNotFound
  | unknownProperty
  | constantAssigned (name : String)
  | dataType
  | notIterable
  | notIndexable
  | undefinedSign
  | arrayBounds (index : Int64)
  | textBounds (index : Int64)
  | bitBounds (index : Int64)
  | thrown (v : Value)
  | tooManyOperations
  | stackOverflow
  | textTooLong
  | arrayTooLarge
deriving Inhabited

/-- The text of a fault. -/
def Fault.message : Fault → String
  | .arithmetic e => e.message
  | .variableNotFound => "Variable not found"
  | .functionNotFound => "Function not found"
  | .unknownProperty => "Unknown property"
  | .constantAssigned name => "Cannot modify constant " ++ name
  | .dataType => "Data type incorrect"
  | .notIterable => "For loop expects iterable type"
  | .notIndexable => "Indexer unknown"
  | .undefinedSign => "Sign of NaN is undefined"
  | .arrayBounds i => "Array index " ++ toString i.toInt ++ " out of bounds"
  | .textBounds i => "String index " ++ toString i.toInt ++ " out of bounds"
  | .bitBounds i => "Bit-field index " ++ toString i.toInt ++ " out of bounds"
  | .thrown _ => "Runtime error"
  | .tooManyOperations => "Too many operations"
  | .stackOverflow => "Stack overflow"
  | .textTooLong => "Length of string too large"
  | .arrayTooLarge => "Size of array/BLOB too large"

/-- Whether a script may handle a fault; those of its limits it may not. -/
def Fault.isCatchable : Fault → Bool
  | .tooManyOperations => false
  | .stackOverflow => false
  | .textTooLong => false
  | .arrayTooLarge => false
  | _ => true

/-- What the handler of a fault is given. -/
def Fault.caught : Fault → Value
  | .thrown v => v
  | _ => .report

namespace Value

/-- The name of a value's type. -/
def typeName : Value → String
  | .unit => "()"
  | .bool _ => "bool"
  | .int _ => "i64"
  | .float _ => "f64"
  | .char _ => "char"
  | .text _ => "string"
  | .range .. => "range"
  | .array _ => "array"
  | .report => "map"

/-- The text of a floating point number: with a point, or with an exponent if it is
large or small. -/
def floatText (x : Float) : String :=
  if x == 0.0 then "0.0"
  else if 1e13 < x.abs || x.abs < 1e-7 then Decimal.scientific x
  else Decimal.pointed x

mutual

/-- The text of a value inside an array. -/
def inner : Value → String
  | .text s => "\"" ++ s ++ "\""
  | .char c => "'" ++ c.toString ++ "'"
  | .unit => "()"
  | .array items => "[" ++ ", ".intercalate (inners items) ++ "]"
  | .bool b => toString b
  | .int i => toString i.toInt
  | .float f => floatText f
  | .range a b closed =>
    toString a.toInt ++ (if closed then "..=" else "..") ++ toString b.toInt
  | .report => "map"

/-- The texts of the values inside an array. -/
def inners : List Value → List String
  | [] => []
  | v :: rest => inner v :: inners rest

end

/-- The text of a value. -/
def toText : Value → String
  | .unit => ""
  | .text s => s
  | .char c => c.toString
  | v => inner v

mutual

/-- The number of items of a value, with those of the arrays in it. -/
def weight : Value → Nat
  | .array items => weights items
  | _ => 0

/-- The number of items of a list of values, with those of the arrays in it. -/
def weights : List Value → Nat
  | [] => 0
  | v :: rest => 1 + weight v + weights rest

end

/-- The greatest length of a text in bytes. -/
def textLimit : Nat := 1000

/-- The greatest number of items of an array. -/
def arrayLimit : Nat := 256

/-- A value within the limits on its size. -/
def sized (v : Value) : Except Fault Value :=
  match v with
  | .text s => if textLimit < s.utf8ByteSize then .error .textTooLong else .ok v
  | .array _ => if arrayLimit < v.weight then .error .arrayTooLarge else .ok v
  | _ => .ok v

end Value

end Telemetry.Script
