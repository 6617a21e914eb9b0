/-
The running of control law scripts.

* `Machine` — the operations counted so far, and the variables in scope;
* `Interrupt` — why a part of a script ends before its end: a fault, or a jump;
* `Eval.expr`, `Eval.stmt` — what an expression or a statement comes to;
* `Program.value` — the value of a script with the variables that it starts from.

Design notes: evaluation follows the structure of the script, and takes as a parameter
how the script's functions run; these run by the number of calls that are still allowed,
so a call too many is a fault and not a bound from outside. Every turn of a loop counts
at least one operation, so a loop that takes more turns than there are operations has
failed before. Each expression counts one operation and so does each statement.
-/
import Telemetry.Script.Program
import Telemetry.Script.Library

namespace Telemetry.Script

/-- The greatest number of operations of a run. -/
def operationLimit : Nat := 10000

/-- The greatest number of calls inside one another. -/
def callLimit : Nat := 32

/-- A variable. -/
structure Variable where
  name : String
  value : Value
  constant : Bool := false

/-- What a run has counted, and the variables in scope, the last one first. -/
structure Machine where
  operations : Nat := 0
  scope : List Variable := []

/-- Why a part of a script ends before its end. -/
inductive Interrupt where
  | fault (f : Fault)
  | leave (v : Value)
  | again
  | giveBack (v : Value)

/-- A part of a run. -/
abbrev Run (α : Type) := ExceptT Interrupt (StateM Machine) α

namespace Run

/-- A run that fails. -/
def fail {α : Type} (f : Fault) : Run α := throw (.fault f)

/-- A result or fault as a run. -/
def of {α : Type} : Except Fault α → Run α
  | .ok a => pure a
  | .error f => fail f

/-- Counts an operation. -/
def tick : Run Unit := do
  let m ← get
  if operationLimit ≤ m.operations then fail .tooManyOperations
  else set { m with operations := m.operations + 1 }

/-- The value of a variable. -/
def lookup (name : String) : Run Value := do
  match (← get).scope.find? (·.name == name) with
  | some x => pure x.value
  | none => fail .variableNotFound

/-- Variables with another value for the last one of a name, which comes from the one that
it has. -/
def replaced (name : String) (new : Value → Except Fault Value) :
    List Variable → Except Fault (List Variable)
  | [] => .error .variableNotFound
  | x :: rest =>
    if x.name == name then
      if x.constant then .error (.constantAssigned name)
      else (new x.value).map fun v => { x with value := v } :: rest
    else (replaced name new rest).map (x :: ·)

/-- Gives a variable another value, which comes from the one that it has. -/
def update (name : String) (new : Value → Except Fault Value) : Run Unit := do
  let m ← get
  set { m with scope := ← of (replaced name new m.scope) }

/-- Gives a variable another value, unless it is a constant. -/
def refresh (name : String) (new : Value) : Run Unit := do
  let m ← get
  match replaced name (fun _ => .ok new) m.scope with
  | .ok scope => set { m with scope := scope }
  | .error _ => pure ()

/-- Adds a variable. -/
def declare (x : Variable) : Run Unit :=
  modify fun m => { m with scope := x :: m.scope }

/-- A run after which the variables are forgotten that it has added. -/
def inner {α : Type} (r : Run α) : Run α := fun m =>
  let (a, after) := r m
  (a, { after with scope := after.scope.drop (after.scope.length - m.scope.length) })

/-- The run of a function's body with its arguments as the only variables. -/
def framed (params : List String) (args : List Value) (r : Run Value) : Run Value := fun m =>
  let scope := ((params.zip args).map fun (n, v) => { name := n, value := v : Variable }).reverse
  let (a, after) := r { m with scope := scope }
  let a := match a with
    | .error (.giveBack v) => .ok v
    | a => a
  (a, { after with scope := m.scope })

/-- One turn of a loop; it gives a value if it leaves the loop. -/
def turn (body : Run Value) : Run (Option Value) := fun m =>
  match body m with
  | (.ok _, m) => (.ok none, m)
  | (.error .again, m) => (.ok none, m)
  | (.error (.leave v), m) => (.ok (some v), m)
  | (.error e, m) => (.error e, m)

/-- Turns until one gives a value, at most so many. -/
def turns (step : Run (Option Value)) : Nat → Run Value
  | 0 => fail .tooManyOperations
  | n + 1 => do
    match ← step with
    | some v => pure v
    | none => turns step n

/-- One turn for each item of a sequence from place `k` on. -/
def items (item : Nat → Option Value) (step : Value → Nat → Run (Option Value)) :
    Nat → Nat → Run Value
  | 0, _ => fail .tooManyOperations
  | n + 1, k =>
    match item k with
    | none => pure .unit
    | some v => do
      match ← step v k with
      | some v => pure v
      | none => items item step n (k + 1)

/-- A run whose fault a handler takes over, if it may; a handler that throws nothing
throws the fault again. -/
def handled (body : Run Value) (handler : Value → Run Value) : Run Value := fun m =>
  match body m with
  | (.error (.fault f), m) =>
    if f.isCatchable then
      match handler f.caught m with
      | (.ok _, m) => (.ok .unit, m)
      | (.error (.fault (.thrown .unit)), m) => (.error (.fault f), m)
      | r => r
    else (.error (.fault f), m)
  | r => r

/-- The truth value that a condition has come to. -/
def truth : Value → Run Bool
  | .bool b => pure b
  | _ => fail .dataType

end Run

/-- How the function of a name and number of arguments runs, if the script has one. -/
abbrev Callee := String → Nat → Option (List Value → Run Value)

/-- A link of a chain, with the values of what stands in it. -/
inductive Reach where
  | index (i : Value)
  | property (name : String)
  | method (name : String) (args : List Value)

/-- The items of a value that a loop can go through. -/
def Value.items? : Value → Option (Nat → Option Value)
  | .array items => some fun k => items[k]?
  | .text s => some fun k => (s.toList[k]?).map .char
  | .range a b closed => some fun k =>
    let i := a.toInt + Int.ofNat k
    if i < b.toInt || (closed && i == b.toInt) then some (.int (Int64.ofInt i)) else none
  | _ => none

/-- Whether two literals are the same value of the same type. -/
def Value.isLiteral : Value → Value → Bool
  | .int a, .int b => a == b
  | .float a, .float b => a == b
  | .bool a, .bool b => a == b
  | .char a, .char b => a == b
  | .text a, .text b => a == b
  | .unit, .unit => true
  | _, _ => false

/-- Whether a value is in a range of integers. -/
def Value.isIn (first last : Int64) (closed : Bool) : Value → Bool
  | .int i => inRange first last closed i
  | .float x => first.toFloat ≤ x && (x < last.toFloat || (closed && x == last.toFloat))
  | _ => false

/-- Whether a pattern is a literal that a value is the same as. -/
def Pattern.isExactly (v : Value) : Pattern → Bool
  | .literal w => v.isLiteral w
  | _ => false

/-- Whether a pattern is a range that a value is in. -/
def Pattern.spans (v : Value) : Pattern → Bool
  | .span a b closed => v.isIn a b closed
  | _ => false

/-- Whether a pattern stands for anything. -/
def Pattern.isAnything : Pattern → Bool
  | .anything => true
  | _ => false

/-- How the cases of a choice are told for a value: by literals if one of them is the value,
and else by ranges. -/
def Case.telling (v : Value) (cases : List Case) : Pattern → Bool :=
  if cases.any (fun (.on ps _ _) => ps.any (·.isExactly v)) then (·.isExactly v) else (·.spans v)

namespace Eval

/-- The variable that stands first among some arguments. -/
def owner? : List Expr → Option String
  | .var n :: _ => some n
  | _ => none

/-- The value of a function on its arguments: one of the script, or else of the library, which
may change the variable that stands first. -/
def called (callee : Callee) (name : String) (owner : Option String) (args : List Value) :
    Run Value := do
  Run.tick
  match callee name args.length with
  | some run => run args
  | none => do
    let (v, changed) ← Run.of (Library.apply name args)
    match owner, changed with
    | some x, some new => do
      Run.refresh x new
      pure v
    | _, _ => pure v

/-- The value of a method, and what it makes of the value that it belongs to. -/
def method (callee : Callee) (name : String) (base : Value) (args : List Value) :
    Run (Value × Option Value) := do
  Run.tick
  match callee name args.length with
  | some run => do pure (← run args, none)
  | none => Run.of (Library.apply name (base :: args))

/-- The value at the end of a chain, and what the chain makes of the value it begins with. -/
def followed (callee : Callee) : Value → List Reach → Run (Value × Option Value)
  | base, [] => pure (base, none)
  | base, .index i :: rest => do
    let (v, changed) ← followed callee (← Run.of (base.item i)) rest
    match changed with
    | some new => do pure (v, some (← Run.of (base.withItem i new)))
    | none => pure (v, none)
  | base, .property n :: rest => do
    let (v, _) ← followed callee (← Run.of (Library.property n base)) rest
    pure (v, none)
  | base, .method n args :: rest => do
    let (v, changed) ← method callee n base args
    let (v, _) ← followed callee v rest
    pure (v, changed)

/-- A value with another one at the end of a chain, which comes from the one there. -/
def placed (new : Value → Except Fault Value) : Value → List Reach → Except Fault Value
  | base, [] => new base
  | base, .index i :: rest => do base.withItem i (← placed new (← base.item i) rest)
  | _, _ :: _ => .error .unknownProperty

/-- The value that an assignment puts in the place of another. -/
def replacement (op : Option BinaryOp) (v old : Value) : Except Fault Value :=
  match op with
  | none => .ok v
  | some op => update op old v

mutual

/-- The value of an expression. -/
def expr (callee : Callee) : Expr → Run Value
  | .const v => do
    Run.tick
    pure v
  | .var n => do
    Run.tick
    Run.lookup n
  | .array items => do
    Run.tick
    Run.of (Value.sized (.array (← exprs callee items)))
  | .call n args => do
    Run.tick
    called callee n (owner? args) (← arguments callee args)
  | .chain (.var n) steps => do
    Run.tick
    let steps ← links callee steps
    Run.tick
    let (v, changed) ← followed callee (← Run.lookup n) steps
    match changed with
    | some new => do
      Run.update n fun _ => .ok new
      pure v
    | none => pure v
  | .chain root steps => do
    Run.tick
    let steps ← links callee steps
    let (v, _) ← followed callee (← expr callee root) steps
    pure v
  | .unary op e => do
    Run.tick
    Run.of (unary op (← expr callee e))
  | .binary op a b => do
    Run.tick
    let x ← expr callee a
    let y ← expr callee b
    Run.of (binary op x y)
  | .both a b => do
    Run.tick
    if ← Run.truth (← expr callee a) then
      let y ← Run.truth (← expr callee b)
      pure (.bool y)
    else pure (.bool false)
  | .either a b => do
    Run.tick
    if ← Run.truth (← expr callee a) then pure (.bool true)
    else
      let y ← Run.truth (← expr callee b)
      pure (.bool y)
  | .stmt s => do
    Run.tick
    Run.inner (stmt callee s)

/-- The values of expressions, from left to right. -/
def exprs (callee : Callee) : List Expr → Run (List Value)
  | [] => pure []
  | e :: rest => do
    let v ← expr callee e
    let vs ← exprs callee rest
    pure (v :: vs)

/-- The values of the arguments of a call; a variable that stands first is read last. -/
def arguments (callee : Callee) : List Expr → Run (List Value)
  | [] => pure []
  | .var n :: rest => do
    Run.tick
    let vs ← exprs callee rest
    let v ← Run.lookup n
    pure (v :: vs)
  | e :: rest => do
    let v ← expr callee e
    let vs ← exprs callee rest
    pure (v :: vs)

/-- The links of a chain with the values of what stands in them. -/
def links (callee : Callee) : List Link → Run (List Reach)
  | [] => pure []
  | .index e :: rest => do
    let i ← expr callee e
    let rest ← links callee rest
    pure (.index i :: rest)
  | .property n :: rest => do
    let rest ← links callee rest
    pure (.property n :: rest)
  | .method n args :: rest => do
    let args ← exprs callee args
    let rest ← links callee rest
    pure (.method n args :: rest)

/-- The value of a statement. -/
def stmt (callee : Callee) : Stmt → Run Value
  | .noop => do
    Run.tick
    pure .unit
  | .expr (.call n args) => do
    Run.tick
    called callee n (owner? args) (← arguments callee args)
  | .expr e => do
    Run.tick
    expr callee e
  | .declare n constant e => do
    Run.tick
    let v ← expr callee e
    Run.declare { name := n, value := v, constant := constant }
    pure .unit
  | .assign (.var n) op e => do
    Run.tick
    let v ← expr callee e
    Run.tick
    Run.update n (replacement op v)
    pure .unit
  | .assign (.chain (.var n) steps) op e => do
    Run.tick
    let v ← expr callee e
    let steps ← links callee steps
    Run.tick
    Run.update n fun base => placed (replacement op v) base steps
    pure .unit
  | .assign _ _ _ => Run.fail .dataType
  | .block body => do
    Run.tick
    Run.inner (stmts callee body)
  | .ifThen c yes no => do
    Run.tick
    if ← Run.truth (← expr callee c) then Run.inner (stmts callee yes)
    else Run.inner (stmts callee no)
  | .switchOn e cs => do
    Run.tick
    let v ← expr callee e
    cases callee (Case.telling v cs) cs
  | .loop body => do
    Run.tick
    if body.isEmpty then Run.turns (do Run.tick; pure none) (operationLimit + 1)
    else Run.turns (Run.turn (Run.inner (stmts callee body))) (operationLimit + 1)
  | .whileLoop c body => do
    Run.tick
    let step : Run (Option Value) := do
      if ← Run.truth (← expr callee c) then Run.turn (Run.inner (stmts callee body))
      else pure (some .unit)
    Run.turns step (operationLimit + 1)
  | .doLoop body goesOn c => do
    Run.tick
    let step : Run (Option Value) := do
      match ← Run.turn (Run.inner (stmts callee body)) with
      | some v => pure (some v)
      | none => do
        let b ← Run.truth (← expr callee c)
        pure (if b == goesOn then none else some .unit)
    Run.turns step (operationLimit + 1)
  | .forIn n counter e body => do
    Run.tick
    let v ← expr callee e
    match v.items? with
    | none => Run.fail .notIterable
    | some item =>
      let step : Value → Nat → Run (Option Value) := fun v k => do
        Run.tick
        Run.turn (Run.inner (do
          match counter with
          | some i => Run.declare { name := i, value := .int (Int64.ofNat k) }
          | none => pure ()
          Run.declare { name := n, value := v }
          stmts callee body))
      Run.items item step (operationLimit + 1) 0
  | .leave e => do
    Run.tick
    throw (.leave (← expr callee e))
  | .again => do
    Run.tick
    throw .again
  | .giveBack e => do
    Run.tick
    throw (.giveBack (← expr callee e))
  | .raise e => do
    Run.tick
    Run.fail (.thrown (← expr callee e))
  | .attempt body n handler => do
    Run.tick
    Run.handled (Run.inner (stmts callee body)) fun v => Run.inner (do
      match n with
      | some n => Run.declare { name := n, value := v }
      | none => pure ()
      stmts callee handler)

/-- The value of the last of some statements, run one after the other. -/
def stmts (callee : Callee) : List Stmt → Run Value
  | [] => pure .unit
  | [s] => stmt callee s
  | s :: rest => do
    let _ ← stmt callee s
    stmts callee rest

/-- The value of the first case that a value tells and whose condition holds, or else of the
case for anything. -/
def cases (callee : Callee) (tells : Pattern → Bool) : List Case → Run Value
  | [] => pure .unit
  | .on ps guard body :: rest =>
    if ps.any Pattern.isAnything then Run.inner (stmt callee body)
    else if ps.any tells then do
      if ← Run.truth (← expr callee guard) then Run.inner (stmt callee body)
      else cases callee tells rest
    else cases callee tells rest

end

end Eval

/-- How the functions of a script run when so many calls are still allowed. -/
def Program.callee (p : Program) : Nat → Callee
  | 0 => fun name arity => (p.find? name arity).map fun _ _ => Run.fail .stackOverflow
  | n + 1 => fun name arity => (p.find? name arity).map fun f args =>
    Run.framed f.params args (Eval.stmts (p.callee n) f.body)

/-- The value of a script with the variables `scope`. -/
def Program.value (p : Program) (scope : List Variable) : Except Fault Value :=
  match Eval.stmts (p.callee callLimit) p.body { scope := scope } with
  | (.ok v, _) => .ok v
  | (.error (.giveBack v), _) => .ok v
  | (.error (.fault f), _) => .error f
  | (.error _, _) => .ok .unit

end Telemetry.Script
