/-
Trees of values, as documents hold them.

* `Tree` — a value of a document: a single value, a list, or a table of named values in the
  order of the document;
* `Tree.found` — a value in words, for a message that says what was found.
-/
import Telemetry.Text.Decimal
import Telemetry.Text.Quoted

namespace Telemetry

/-- A value of a document. Only some notations have `null`, and only some have points in time;
a point in time is kept as its text. -/
inductive Tree where
  | null
  | bool (b : Bool)
  | int (i : Int)
  | float (x : Float)
  | text (s : String)
  | moment (s : String)
  | list (items : List Tree)
  | table (entries : List (String × Tree))
deriving Inhabited

namespace Tree

/-- A word in the marks that messages put around a literal. -/
def literal (s : String) : String :=
  let mark := String.singleton (Char.ofNat 96)
  mark ++ s ++ mark

/-- A value in words. -/
def found : Tree → String
  | .null => "null"
  | .bool b => "boolean " ++ literal (if b then "true" else "false")
  | .int i => "integer " ++ literal (toString i)
  | .float x => "floating point " ++ literal (Decimal.pointed x)
  | .text s => "string " ++ Text.quoted s
  | .moment _ => "map"
  | .list _ => "sequence"
  | .table _ => "map"

end Tree

end Telemetry
