/-
What a control law script is reduced to before it runs.

* `Expr.isPure`, `Stmt.isPure` — the parts of a script that neither act nor fail on
  their own, looking up a variable included;
* `Simplify.expr`, `Simplify.stmt` — operators on literals, conditions that are literals
  and constants that stand for literals are replaced by what they come to;
* `Simplify.tidy` — a block without what follows a jump, and without the pure statements
  whose value nobody takes;
* `Program.simplify` — a script reduced three times over.

Design notes: a reduction can be seen from outside. A pure statement in front of others
is gone, so a name that is not known there does no harm; a handler around a pure block is
gone, and so is the value of that block. An operator that fails on its literals stays,
and fails when the script runs.
-/
import Telemetry.Script.Program

namespace Telemetry.Script

mutual

/-- Whether an expression neither acts nor fails. -/
def Expr.isPure : Expr → Bool
  | .const _ => true
  | .var _ => true
  | .array items => arePure items
  | .both a b => a.isPure && b.isPure
  | .either a b => a.isPure && b.isPure
  | .stmt s => s.isPure
  | _ => false

/-- Whether no expression of a list acts or fails. -/
def arePure : List Expr → Bool
  | [] => true
  | e :: rest => e.isPure && arePure rest

/-- Whether a statement neither acts nor fails. -/
def Stmt.isPure : Stmt → Bool
  | .noop => true
  | .expr e => e.isPure
  | .block body => blockIsPure body
  | .ifThen c yes no => c.isPure && blockIsPure yes && blockIsPure no
  | .switchOn e cases => e.isPure && casesArePure cases
  | .forIn _ _ items body => items.isPure && blockIsPure body
  | .attempt body _ handler => blockIsPure body && blockIsPure handler
  | _ => false

/-- Whether no statement of a block acts or fails. -/
def blockIsPure : List Stmt → Bool
  | [] => true
  | s :: rest => s.isPure && blockIsPure rest

/-- Whether no case of a choice acts or fails. -/
def casesArePure : List Case → Bool
  | [] => true
  | .on _ guard body :: rest => guard.isPure && body.isPure && casesArePure rest

end

namespace Stmt

/-- Whether nothing behind a statement is reached. -/
def isJump : Stmt → Bool
  | .leave _ => true
  | .again => true
  | .giveBack _ => true
  | .raise _ => true
  | _ => false

/-- Whether a statement declares a variable. -/
def isDeclaration : Stmt → Bool
  | .declare .. => true
  | _ => false

/-- Whether a statement has a value of its own. -/
def hasValue : Stmt → Bool
  | .expr _ => true
  | .block _ => true
  | .ifThen .. => true
  | .switchOn .. => true
  | _ => false

end Stmt

namespace Simplify

/-- The constants that stand for literals; a variable of the same name hides one. -/
abbrev Known := List (String × Option Value)

/-- The literals of a list of nothing else. -/
def literals? : List Expr → Option (List Value)
  | [] => some []
  | e :: rest => do some ((← e.literal?) :: (← literals? rest))

/-- An operator on two operands, computed if both are literals and it does not fail. -/
def folded (op : BinaryOp) (a b : Expr) : Expr :=
  match a, b with
  | .const x, .const y =>
    match binary op x y with
    | .ok v => .const v
    | .error _ => .binary op (.const x) (.const y)
  | a, b => .binary op a b

/-- A conjunction without an operand that says nothing. -/
def both (a b : Expr) : Expr :=
  match a, b with
  | .const (.bool true), b => b
  | .const (.bool false), _ => .const (.bool false)
  | a, .const (.bool true) => a
  | a, b => .both a b

/-- A disjunction without an operand that says nothing. -/
def either (a b : Expr) : Expr :=
  match a, b with
  | .const (.bool false), b => b
  | .const (.bool true), _ => .const (.bool true)
  | a, .const (.bool false) => a
  | a, b => .either a b

/-- The item of a literal at a place in it. -/
def itemOf? (root : Expr) (links : List Link) : Option Expr :=
  match root, links with
  | .const (.array items), [.index (.const (.int i))] =>
    let n : Int := if i < 0 then items.length + i.toInt else i.toInt
    if n < 0 then none else (items[n.toNat]?).map .const
  | .const (.text s), [.index (.const (.int i))] =>
    let n : Int := if i < 0 then s.length + i.toInt else i.toInt
    if n < 0 then none else (s.toList[n.toNat]?).map fun c => .const (.char c)
  | _, _ => none

/-- A statement where an expression stands; one that is an expression is that expression. -/
def valueOf : Stmt → Expr
  | .expr e => e
  | .noop => .const .unit
  | .block [] => .const .unit
  | .block [.expr e] => e
  | s => .stmt s

/-- A block as a statement: nothing, its only statement, or itself. -/
def settled : List Stmt → Stmt
  | [] => .noop
  | [s] => if s.isDeclaration then .block [s] else s
  | body => .block body

/-- The statements up to the first jump. -/
def reached : List Stmt → List Stmt
  | [] => []
  | s :: rest => if s.isJump then [s] else s :: reached rest

/-- Statements without the pure ones, but for the last if its value is taken. -/
def acting (keep : Bool) : List Stmt → List Stmt
  | [] => []
  | [s] => if s.isPure && !keep then [] else [s]
  | s :: rest => if s.isPure then acting keep rest else s :: acting keep rest

/-- A block without statements that make no difference; `keep` says that its value is
taken. -/
def tidy (keep : Bool) (body : List Stmt) : List Stmt :=
  match acting keep (reached body) with
  | [s] => if s.isPure && !s.hasValue then [] else [s]
  | body => body

/-- The statements that a simplified statement puts in the place of the one it was: those of
a block that declares nothing stand in place of the block. -/
def spliced : Stmt → Stmt → List Stmt
  | .block old, new =>
    if old.any Stmt.isDeclaration then [new]
    else
      match new with
      | .noop => []
      | .block body => body
      | s => [s]
  | _, new => [new]

/-- The constants known after a statement. -/
def learnt (known : Known) : Stmt → Known
  | .declare n true e => (n, e.literal?) :: known
  | .declare n false _ => (n, none) :: known
  | _ => known

/-- An assignment of an operator on the variable itself, as an update of the variable. -/
def updating (target : Expr) (op : Option BinaryOp) (value : Expr) : Option BinaryOp × Expr :=
  match target, op, value with
  | .var n, none, .binary o (.var m) e =>
    let updates := [.add, .sub, .mul, .div, .rem, .pow, .shl, .shr, .bitAnd, .bitOr, .bitXor]
    if n = m ∧ o ∈ (updates : List BinaryOp) then (some o, e) else (none, value)
  | _, op, value => (op, value)

mutual

/-- An expression simplified. -/
def expr (known : Known) : Expr → Expr
  | .const v => .const v
  | .var n =>
    match known.lookup n with
    | some (some v) => .const v
    | _ => .var n
  | .array items =>
    let items := exprs known items
    match literals? items with
    | some vs => .const (.array vs)
    | none => .array items
  | .call f args => .call f (exprs known args)
  | .chain (.var n) steps => .chain (.var n) (links known steps)
  | .chain root steps =>
    let root := expr known root
    let steps := links known steps
    (itemOf? root steps).getD (.chain root steps)
  | .unary op e => .unary op (expr known e)
  | .binary op a b => folded op (expr known a) (expr known b)
  | .both a b => both (expr known a) (expr known b)
  | .either a b => either (expr known a) (expr known b)
  | .stmt s => valueOf (stmt known true s)

/-- Expressions simplified. -/
def exprs (known : Known) : List Expr → List Expr
  | [] => []
  | e :: rest => expr known e :: exprs known rest

/-- The links of a chain simplified. -/
def links (known : Known) : List Link → List Link
  | [] => []
  | .index e :: rest => .index (expr known e) :: links known rest
  | .property n :: rest => .property n :: links known rest
  | .method n args :: rest => .method n (exprs known args) :: links known rest

/-- A statement simplified; `keep` says that its value is taken. -/
def stmt (known : Known) (keep : Bool) : Stmt → Stmt
  | .noop => .noop
  | .expr e =>
    match expr known e with
    | .stmt s => s
    | e => .expr e
  | .declare n c e => .declare n c (expr known e)
  | .assign (.chain root steps) op e => .assign (.chain root (links known steps)) op (expr known e)
  | .assign target op e =>
    let (op, e) := updating target op (expr known e)
    .assign target op e
  | .block body => settled (tidy keep (stmts known keep body))
  | .ifThen c [] [] =>
    if keep then .block [.expr (expr known c), .noop] else .expr (expr known c)
  | .ifThen c yes no =>
    let yes := tidy keep (stmts known keep yes)
    let no := tidy keep (stmts known keep no)
    match expr known c with
    | .const (.bool true) => if yes.isEmpty then .noop else .block yes
    | .const (.bool false) => if no.isEmpty then .noop else .block no
    | c => .ifThen c yes no
  | .switchOn e cs => .switchOn (expr known e) (cases known keep cs)
  | .loop body => .loop (tidy false (stmts known false body))
  | .whileLoop c body =>
    let body := tidy false (stmts known false body)
    match expr known c with
    | .const (.bool false) => .noop
    | .const (.bool true) => .loop body
    | c => .whileLoop c body
  | .doLoop body goesOn c => .doLoop (tidy false (stmts known false body)) goesOn (expr known c)
  | .forIn n counter items body =>
    let hidden := (n, none) :: (counter.toList.map (·, none) ++ known)
    .forIn n counter (expr known items) (tidy false (stmts hidden false body))
  | .leave e => .leave (expr known e)
  | .again => .again
  | .giveBack e => .giveBack (expr known e)
  | .raise e => .raise (expr known e)
  | .attempt body n handler =>
    let pureBody := blockIsPure body
    let body := tidy false (stmts known false body)
    if pureBody then settled body
    else .attempt body n (tidy false (stmts (n.toList.map (·, none) ++ known) false handler))

/-- The statements of a block simplified, one after the other. -/
def stmts (known : Known) (keep : Bool) : List Stmt → List Stmt
  | [] => []
  | s :: rest =>
    let new := stmt known keep s
    spliced s new ++ stmts (learnt known new) keep rest

/-- The cases of a choice simplified. -/
def cases (known : Known) (keep : Bool) : List Case → List Case
  | [] => []
  | .on ps guard body :: rest =>
    .on ps (expr known guard) (stmt known keep body) :: cases known keep rest

end

/-- A block simplified three times over. -/
def block (body : List Stmt) : List Stmt :=
  let once := fun b => tidy true (stmts [] true b)
  once (once (once body))

end Simplify

/-- A function with its body simplified. -/
def Function.simplify (f : Function) : Function := { f with body := Simplify.block f.body }

/-- A script with its functions and statements simplified. -/
def Program.simplify (p : Program) : Program :=
  { functions := p.functions.map Function.simplify, body := Simplify.block p.body }

end Telemetry.Script
