/-
The programs of control law scripts.

* `Expr`, `Link`, `Stmt`, `Case` — expressions, the links of a chain of look-ups and
  method calls, statements, and the cases of a choice;
* `Function` — a function of a script;
* `Program` — the functions of a script and its statements.

Design notes: whatever has a value can stand where an expression stands, so an
expression may be a statement; a statement without a value of its own has the value
unit. Sequences that open a scope are lists of statements, and an absent alternative
is the empty list.
-/
import Telemetry.Script.Arith

namespace Telemetry.Script

/-- What a case of a choice stands for. -/
inductive Pattern where
  | literal (v : Value)
  | span (first last : Int64) (closed : Bool)
  | anything
deriving Inhabited

mutual

/-- An expression. -/
inductive Expr where
  | const (v : Value)
  | var (name : String)
  | array (items : List Expr)
  | call (name : String) (args : List Expr)
  | chain (root : Expr) (links : List Link)
  | unary (op : UnaryOp) (operand : Expr)
  | binary (op : BinaryOp) (left right : Expr)
  | both (left right : Expr)
  | either (left right : Expr)
  | stmt (s : Stmt)

/-- A step of a chain: an item, a property or a method of what stands before it. -/
inductive Link where
  | index (e : Expr)
  | property (name : String)
  | method (name : String) (args : List Expr)

/-- A statement. -/
inductive Stmt where
  | noop
  | expr (e : Expr)
  | declare (name : String) (constant : Bool) (value : Expr)
  | assign (target : Expr) (op : Option BinaryOp) (value : Expr)
  | block (body : List Stmt)
  | ifThen (condition : Expr) (yes no : List Stmt)
  | switchOn (subject : Expr) (cases : List Case)
  | loop (body : List Stmt)
  | whileLoop (condition : Expr) (body : List Stmt)
  | doLoop (body : List Stmt) (goesOn : Bool) (condition : Expr)
  | forIn (name : String) (counter : Option String) (items : Expr) (body : List Stmt)
  | leave (value : Expr)
  | again
  | giveBack (value : Expr)
  | raise (value : Expr)
  | attempt (body : List Stmt) (name : Option String) (handler : List Stmt)

/-- A case of a choice. -/
inductive Case where
  | on (patterns : List Pattern) (guard : Expr) (body : Stmt)

end

instance : Inhabited Expr := ⟨.const .unit⟩

instance : Inhabited Stmt := ⟨.noop⟩

/-- A function of a script. -/
structure Function where
  name : String
  params : List String
  body : List Stmt

/-- A script. -/
structure Program where
  functions : List Function := []
  body : List Stmt := []

/-- The function of a name that takes a number of arguments. -/
def Program.find? (p : Program) (name : String) (arity : Nat) : Option Function :=
  p.functions.find? fun f => f.name == name && f.params.length == arity

/-- The value of an expression that is a literal. -/
def Expr.literal? : Expr → Option Value
  | .const v => some v
  | _ => none

end Telemetry.Script
