/-
The reading of control law scripts.

* `Parser.expr?`, `Parser.stmt?` — the expression or statement at the beginning of a list
  of tokens, with the tokens that follow it;
* `Program.parse?` — the program that a text is, if it is one.

Design notes: `none` stands for every way in which a text is no program, because only
that it is none is ever reported. Each rule takes a bound on its steps that comes from
the number of tokens, and a level that grows with the nesting; a script nested beyond
`Parser.levelLimit` is refused, whatever it means.
-/
import Telemetry.Script.Lexer
import Telemetry.Script.Program

namespace Telemetry.Script

namespace Parser

/-- The deepest level of nesting. -/
def levelLimit : Nat := 64

/-- Where a rule stands: how deep, inside a loop or not, in the list of cases of a choice,
where a bar separates them, and with which variables, the constant ones marked. -/
structure Place where
  level : Nat := 0
  inLoop : Bool := false
  inCases : Bool := false
  scope : List (String × Bool) := []

/-- One level deeper, unless that is too deep. -/
def Place.deeper (p : Place) : Option Place :=
  if levelLimit ≤ p.level then none else some { p with level := p.level + 1 }

/-- Whether a name stands for a constant of the script. -/
def Place.isConstant (p : Place) (name : String) : Bool := (p.scope.lookup name).getD false

/-- The tokens after a mark. -/
def skip (m : String) : List Token → Option (List Token)
  | .mark n :: rest => if n = m then some rest else none
  | _ => none

/-- The tokens after a word. -/
def skipWord (w : String) : List Token → Option (List Token)
  | .word v :: rest => if v = w then some rest else none
  | _ => none

/-- Whether a mark comes next. -/
def comes (m : String) (ts : List Token) : Bool := (skip m ts).isSome

/-- Whether a word comes next. -/
def comesWord (w : String) (ts : List Token) : Bool := (skipWord w ts).isSome

/-- What an operator between two operands makes of them. -/
inductive Joint where
  | op (op : BinaryOp)
  | both
  | either
  | isIn
  | isNotIn

/-- An operator between two operands with how tightly it binds. -/
structure Infix where
  joint : Joint
  strength : Nat
  toRight : Bool := false

/-- The operators between two operands. -/
def joints : List (String × Infix) :=
  [("||", ⟨.either, 1, false⟩), ("|", ⟨.op .bitOr, 1, false⟩), ("^", ⟨.op .bitXor, 1, false⟩),
    ("&&", ⟨.both, 2, false⟩), ("&", ⟨.op .bitAnd, 2, false⟩),
    ("==", ⟨.op .eq, 3, false⟩), ("!=", ⟨.op .ne, 3, false⟩),
    ("!in", ⟨.isNotIn, 4, false⟩),
    ("<", ⟨.op .lt, 5, false⟩), ("<=", ⟨.op .le, 5, false⟩), (">", ⟨.op .gt, 5, false⟩),
    (">=", ⟨.op .ge, 5, false⟩),
    ("..", ⟨.op .range, 6, false⟩), ("..=", ⟨.op .closedRange, 6, false⟩),
    ("+", ⟨.op .add, 7, false⟩), ("-", ⟨.op .sub, 7, false⟩),
    ("*", ⟨.op .mul, 8, false⟩), ("/", ⟨.op .div, 8, false⟩), ("%", ⟨.op .rem, 8, false⟩),
    ("**", ⟨.op .pow, 9, true⟩),
    ("<<", ⟨.op .shl, 10, false⟩), (">>", ⟨.op .shr, 10, false⟩)]

/-- The operator that comes next. -/
def joint? (p : Place) : List Token → Option Infix
  | .word "in" :: _ => some ⟨.isIn, 4, false⟩
  | .mark m :: _ => if p.inCases && m == "|" then none else joints.lookup m
  | _ => none

/-- The operators that stand before the sign of an assignment. -/
def assignments : List (String × Option BinaryOp) :=
  [("=", none), ("+=", some .add), ("-=", some .sub), ("*=", some .mul), ("/=", some .div),
    ("%=", some .rem), ("**=", some .pow), ("<<=", some .shl), (">>=", some .shr),
    ("&=", some .bitAnd), ("|=", some .bitOr), ("^=", some .bitXor)]

/-- An expression that may turn out to be a truth value; no literal of another type can. -/
def truth? : Expr → Option Expr
  | .const (.bool b) => some (.const (.bool b))
  | .const _ => none
  | .array _ => none
  | e => some e

/-- Two operands with the operator between them. -/
def join? : Joint → Expr → Expr → Option Expr
  | .op op, a, b => some (.binary op a b)
  | .both, a, b => do some (.both (← truth? a) (← truth? b))
  | .either, a, b => do some (.either (← truth? a) (← truth? b))
  | .isIn, a, b => some (.call "contains" [b, a])
  | .isNotIn, a, b => some (.unary .not (.call "contains" [b, a]))

/-- A sign before an operand; before a number it is part of it. -/
def negated : Expr → Expr
  | .const (.int i) =>
    match Integer.neg i with
    | .ok i => .const (.int i)
    | .error _ => .const (.float (-i.toFloat))
  | .const (.float f) => .const (.float (-f))
  | e => .unary .minus e

/-- A plus sign before an operand; before a number it says nothing. -/
def affirmed : Expr → Expr
  | .const (.int i) => .const (.int i)
  | .const (.float f) => .const (.float f)
  | e => .unary .plus e

/-- Whether an expression can be what an item is looked up by: no literal other than
an integer or a text, and a text not in what is no map. -/
def canIndex (root : Expr) : Expr → Bool
  | .const (.int _) =>
    match root with
    | .const (.int _) => true
    | .const (.text _) => true
    | .const _ => false
    | .both .. => false
    | .either .. => false
    | _ => true
  | .const (.text _) =>
    match root with
    | .const _ => false
    | .array _ => false
    | .both .. => false
    | .either .. => false
    | _ => true
  | .const _ => false
  | .both .. => false
  | .either .. => false
  | _ => true

/-- What stands before the links of a chain, with them; without links it is itself. -/
def chained (root : Expr) (links : List Link) : Expr :=
  if links.isEmpty then root else .chain root links

/-- Whether something can be assigned to a place reached through links. -/
def placed : Link → Bool
  | .method .. => false
  | _ => true

/-- Whether something can be assigned to an expression. -/
def assignable (p : Place) : Expr → Bool
  | .var n => !p.isConstant n
  | .chain (.var _) links => links.all placed
  | _ => false

/-- What a literal, or a range between two literals, stands for in a case. -/
def pattern? : Expr → Option Pattern
  | .const v => some (.literal v)
  | .binary .range (.const (.int a)) (.const (.int b)) => some (.span a b false)
  | .binary .closedRange (.const (.int a)) (.const (.int b)) => some (.span a b true)
  | _ => none

/-- A range of one integer is that integer, and an empty one nothing. -/
def settled : Pattern → List Pattern
  | .span a b closed =>
    let count := b.toInt - a.toInt + (if closed then 1 else 0)
    if count ≤ 0 then []
    else if count = 1 then [.literal (.int a)]
    else [.span a b closed]
  | p => [p]

/-- Whether a pattern is a range. -/
def isSpan : Pattern → Bool
  | .span .. => true
  | _ => false

/-- Patterns as they are kept, unless an integer stands behind a range; `spanned` says that
a range has been met. -/
def settle? : Bool → List Pattern → Option (List Pattern)
  | _, [] => some []
  | spanned, p :: rest =>
    let kept := settled p
    let refused := match p with
      | .literal (.int _) => spanned
      | _ => false
    if refused then none
    else (settle? (spanned || kept.any isSpan) rest).map (kept ++ ·)

/-- Whether the cases met so far hold a range. -/
def spansIn (cases : List Case) : Bool :=
  cases.any fun (.on patterns _ _) => patterns.any isSpan

/-- Whether a statement ends itself, and needs no semicolon. -/
def endsItself : Stmt → Bool
  | .block _ => true
  | .ifThen .. => true
  | .switchOn .. => true
  | .loop _ => true
  | .whileLoop .. => true
  | .forIn .. => true
  | .attempt .. => true
  | _ => false

/-- Whether what comes next begins a statement that can stand for a value. -/
def beginsValue : List Token → Bool
  | .word w :: _ => ["if", "switch", "while", "loop", "do", "for"].contains w
  | .mark "\x7b" :: _ => true
  | _ => false

/-- Whether a statement can end where these tokens follow. -/
def endsHere : List Token → Bool
  | [] => true
  | .mark m :: _ => m == ";" || m == "\x7d"
  | _ => false

mutual

/-- An expression. -/
def expr? : Nat → Place → List Token → Option (Expr × List Token)
  | 0, _, _ => none
  | fuel + 1, p, ts => do
    let p ← p.deeper
    let (e, ts) ← operand? fuel p ts
    joined? fuel p 0 e ts

/-- What the operators that bind at least as tightly as `least` make of an operand. -/
def joined? : Nat → Place → Nat → Expr → List Token → Option (Expr × List Token)
  | 0, _, _, _, _ => none
  | fuel + 1, p, least, left, ts =>
    match joint? p ts with
    | none => some (left, ts)
    | some i =>
      if i.strength < least || (i.strength == least && !i.toRight) then some (left, ts)
      else do
        let (right, ts) ← operand? fuel p (ts.drop 1)
        let binds := match joint? p ts with
          | some next => i.strength < next.strength || (i.strength == next.strength && i.toRight)
          | none => false
        let (right, ts) ← if binds then joined? fuel p i.strength right ts else some (right, ts)
        let p ← p.deeper
        let e ← join? i.joint left right
        joined? fuel p least e ts

/-- An operand with the operators before it. -/
def operand? : Nat → Place → List Token → Option (Expr × List Token)
  | 0, _, _ => none
  | fuel + 1, p, ts =>
    match ts with
    | .mark "-" :: ts => do
      let (e, ts) ← operand? fuel (← p.deeper) ts
      some (negated e, ts)
    | .mark "+" :: ts => do
      let (e, ts) ← operand? fuel (← p.deeper) ts
      some (affirmed e, ts)
    | .mark "!" :: ts => do
      let (e, ts) ← operand? fuel (← p.deeper) ts
      some (.unary .not e, ts)
    | ts => do
      let p ← p.deeper
      let (e, ts) ← root? fuel p ts
      links? fuel p e [] ts

/-- What a chain begins with. -/
def root? : Nat → Place → List Token → Option (Expr × List Token)
  | 0, _, _ => none
  | fuel + 1, p, ts =>
    match ts with
    | .int i :: ts => some (.const (.int i), ts)
    | .float f :: ts => some (.const (.float f), ts)
    | .char c :: ts => some (.const (.char c), ts)
    | .text s :: ts => some (.const (.text s), ts)
    | .word "true" :: ts => some (.const (.bool true), ts)
    | .word "false" :: ts => some (.const (.bool false), ts)
    | .name n :: .mark "(" :: ts => do
      let (args, ts) ← items? fuel (← p.deeper) ")" ts
      some (.call n args, ts)
    | .callable n :: .mark "(" :: ts => do
      let (args, ts) ← items? fuel (← p.deeper) ")" ts
      some (.call n args, ts)
    | .name n :: ts => some (.var n, ts)
    | .mark "(" :: .mark ")" :: ts => some (.const .unit, ts)
    | .mark "(" :: ts => do
      let (e, ts) ← expr? fuel (← p.deeper) ts
      some (e, ← skip ")" ts)
    | .mark "[" :: ts => do
      let (items, ts) ← items? fuel (← p.deeper) "]" ts
      if Value.arrayLimit ≤ items.length then none else some (.array items, ts)
    | ts =>
      if beginsValue ts then do
        let (s, _, ts) ← stmt? fuel p ts
        some (.stmt s, ts)
      else none

/-- The links that follow what a chain begins with. -/
def links? : Nat → Place → Expr → List Link → List Token → Option (Expr × List Token)
  | 0, _, _, _, _ => none
  | fuel + 1, p, root, links, ts =>
    match ts with
    | .mark "[" :: ts => do
      let p ← p.deeper
      let (i, ts) ← expr? fuel p ts
      if canIndex (chained root links) i then
        links? fuel p root (links ++ [.index i]) (← skip "]" ts)
      else none
    | .mark "." :: .name n :: .mark "(" :: ts => do
      let p ← p.deeper
      let (args, ts) ← items? fuel (← p.deeper) ")" ts
      links? fuel p root (links ++ [.method n args]) ts
    | .mark "." :: .callable n :: .mark "(" :: ts => do
      let p ← p.deeper
      let (args, ts) ← items? fuel (← p.deeper) ")" ts
      links? fuel p root (links ++ [.method n args]) ts
    | .mark "." :: .name n :: ts => do
      links? fuel (← p.deeper) root (links ++ [.property n]) ts
    | .mark "." :: _ => none
    | ts => some (chained root links, ts)

/-- Expressions between commas up to a closing mark; a comma may stand before it. -/
def items? : Nat → Place → String → List Token → Option (List Expr × List Token)
  | 0, _, _, _ => none
  | fuel + 1, p, close, ts =>
    match skip close ts with
    | some ts => some ([], ts)
    | none => do
      let (e, ts) ← expr? fuel p ts
      match skip "," ts with
      | some ts => do
        let (rest, ts) ← items? fuel p close ts
        some (e :: rest, ts)
      | none => some ([e], ← skip close ts)

/-- A statement with the variables that are known after it. -/
def stmt? : Nat → Place → List Token → Option (Stmt × List (String × Bool) × List Token)
  | 0, _, _ => none
  | fuel + 1, p, ts =>
    match ts with
    | .mark "\x7b" :: ts => do
      let (body, ts) ← block? fuel (← p.deeper) (.mark "\x7b" :: ts)
      some (.block body, p.scope, ts)
    | .word "if" :: ts => do
      let (s, ts) ← choice? fuel (← p.deeper) ts
      some (s, p.scope, ts)
    | .word "switch" :: ts => do
      let p' ← p.deeper
      let (e, ts) ← expr? fuel p' ts
      let (cases, ts) ← cases? fuel p' [] (← skip "\x7b" ts)
      some (.switchOn e cases, p.scope, ts)
    | .word "loop" :: ts => do
      let (body, ts) ← block? fuel { (← p.deeper) with inLoop := true } ts
      some (.loop body, p.scope, ts)
    | .word "while" :: ts => do
      let p' ← p.deeper
      let (c, ts) ← condition? fuel p' ts
      let (body, ts) ← block? fuel { p' with inLoop := true } ts
      some (.whileLoop c body, p.scope, ts)
    | .word "do" :: ts => do
      let p' ← p.deeper
      let (body, ts) ← block? fuel { p' with inLoop := true } ts
      let goesOn := comesWord "while" ts
      if goesOn || comesWord "until" ts then
        let (c, ts) ← condition? fuel p' (ts.drop 1)
        some (.doLoop body goesOn c, p.scope, ts)
      else none
    | .word "for" :: .name n :: .word "in" :: ts => do
      let (s, ts) ← forIn? fuel (← p.deeper) n none ts
      some (s, p.scope, ts)
    | .word "for" :: .mark "(" :: .name n :: .mark "," :: .name i :: .mark ")" :: .word "in" ::
        ts => do
      if n = i then none
      else
        let (s, ts) ← forIn? fuel (← p.deeper) n (some i) ts
        some (s, p.scope, ts)
    | .word "try" :: ts => do
      let p' ← p.deeper
      let (body, ts) ← block? fuel p' ts
      match ← skipWord "catch" ts with
      | .mark "(" :: .name n :: .mark ")" :: ts => do
        let (handler, ts) ← block? fuel { p' with scope := (n, false) :: p.scope } ts
        some (.attempt body (some n) handler, p.scope, ts)
      | ts => do
        let (handler, ts) ← block? fuel p' ts
        some (.attempt body none handler, p.scope, ts)
    | .word "break" :: ts => do
      if !p.inLoop then none
      else
        let (e, ts) ← optional? fuel p ts
        some (.leave e, p.scope, ts)
    | .word "continue" :: ts => if p.inLoop then some (.again, p.scope, ts) else none
    | .word "return" :: ts => do
      let (e, ts) ← optional? fuel p ts
      some (.giveBack e, p.scope, ts)
    | .word "throw" :: ts => do
      let (e, ts) ← optional? fuel p ts
      some (.raise e, p.scope, ts)
    | .word "let" :: .name n :: ts => do
      let (e, ts) ← initial? fuel (← p.deeper) ts
      some (.declare n false e, (n, false) :: p.scope, ts)
    | .word "const" :: .name n :: ts => do
      let (e, ts) ← initial? fuel (← p.deeper) ts
      some (.declare n true e, (n, true) :: p.scope, ts)
    | ts => do
      let p' ← p.deeper
      let (target, ts) ← expr? fuel p' ts
      match ts with
      | .mark m :: rest =>
        match assignments.lookup m with
        | none => some (.expr target, p.scope, ts)
        | some op =>
          if assignable p target then
            let (e, ts) ← expr? fuel p' rest
            some (.assign target op e, p.scope, ts)
          else none
      | ts => some (.expr target, p.scope, ts)

/-- The value that a variable begins with. -/
def initial? : Nat → Place → List Token → Option (Expr × List Token)
  | 0, _, _ => none
  | fuel + 1, p, ts =>
    match skip "=" ts with
    | some ts => expr? fuel p ts
    | none => some (.const .unit, ts)

/-- The value that a jump carries. -/
def optional? : Nat → Place → List Token → Option (Expr × List Token)
  | 0, _, _ => none
  | fuel + 1, p, ts => if endsHere ts then some (.const .unit, ts) else expr? fuel p ts

/-- A condition. -/
def condition? : Nat → Place → List Token → Option (Expr × List Token)
  | 0, _, _ => none
  | fuel + 1, p, ts =>
    if comes "\x7b" ts then none
    else do
      let (e, ts) ← expr? fuel p ts
      some (← truth? e, ts)

/-- What follows the word for a condition: the condition and the two alternatives. -/
def choice? : Nat → Place → List Token → Option (Stmt × List Token)
  | 0, _, _ => none
  | fuel + 1, p, ts => do
    let (c, ts) ← condition? fuel p ts
    let (yes, ts) ← block? fuel p ts
    match ts with
    | .word "else" :: .word "if" :: ts => do
      let (no, ts) ← choice? fuel (← p.deeper) ts
      some (.ifThen c yes [no], ts)
    | .word "else" :: ts => do
      let (no, ts) ← block? fuel p ts
      some (.ifThen c yes no, ts)
    | ts => some (.ifThen c yes [], ts)

/-- What follows the word for containment in a loop over items. -/
def forIn? : Nat → Place → String → Option String → List Token → Option (Stmt × List Token)
  | 0, _, _, _, _ => none
  | fuel + 1, p, n, counter, ts =>
    if comes "\x7b" ts then none
    else do
      let (e, ts) ← expr? fuel p ts
      let scope := (n, false) :: (counter.toList.map (·, false) ++ p.scope)
      let (body, ts) ← block? fuel { p with inLoop := true, scope := scope } ts
      some (.forIn n counter e body, ts)

/-- Statements between braces. -/
def block? : Nat → Place → List Token → Option (List Stmt × List Token)
  | 0, _, _ => none
  | fuel + 1, p, ts => do
    let p ← p.deeper
    stmts? fuel { p with inCases := false } (← skip "\x7b" ts)

/-- Statements up to a closing brace. -/
def stmts? : Nat → Place → List Token → Option (List Stmt × List Token)
  | 0, _, _ => none
  | fuel + 1, p, ts =>
    match ts with
    | .mark "\x7d" :: ts => some ([], ts)
    | .mark ";" :: ts => stmts? fuel p ts
    | ts => do
      let (s, scope, ts) ← stmt? fuel p ts
      let p := { p with scope := scope }
      if endsItself s || comes "\x7d" ts then
        let (rest, ts) ← stmts? fuel p ts
        some (s :: rest, ts)
      else
        let (rest, ts) ← stmts? fuel p (← skip ";" ts)
        some (s :: rest, ts)

/-- Literals and ranges between bars. -/
def patterns? : Nat → Place → List Token → Option (List Pattern × List Token)
  | 0, _, _ => none
  | fuel + 1, p, ts => do
    let (e, ts) ← expr? fuel { p with inCases := true } ts
    let pattern ← pattern? e
    match skip "|" ts with
    | some ts => do
      let (rest, ts) ← patterns? fuel p ts
      some (pattern :: rest, ts)
    | none => some ([pattern], ts)

/-- The cases of a choice up to a closing brace, behind those that have been read; the one
for anything is the last. -/
def cases? : Nat → Place → List Case → List Token → Option (List Case × List Token)
  | 0, _, _, _ => none
  | fuel + 1, p, done, ts =>
    match ts with
    | .mark "\x7d" :: ts => some ([], ts)
    | .mark "_" :: ts => do
      let (body, ts) ← action? fuel p (← skip "=>" ts)
      some ([.on [.anything] (.const (.bool true)) body], ← skip "\x7d" ts)
    | ts => do
      let (patterns, ts) ← patterns? fuel p ts
      let (guard, ts) ← match ts with
        | .word "if" :: ts => condition? fuel p ts
        | ts => some (.const (.bool true), ts)
      let (body, ts) ← action? fuel p (← skip "=>" ts)
      let case := Case.on (← settle? (spansIn done) patterns) guard body
      let (rest, ts) ← cases? fuel p (case :: done) ts
      some (case :: rest, ts)

/-- The statement of a case with the comma behind it; the last case, and one whose
statement ends itself, need none. -/
def action? : Nat → Place → List Token → Option (Stmt × List Token)
  | 0, _, _ => none
  | fuel + 1, p, ts => do
    let (s, _, ts) ← stmt? fuel { p with inCases := false } ts
    match skip "," ts with
    | some ts => some (s, ts)
    | none => if endsItself s || comes "\x7d" ts then some (s, ts) else none

end

/-- The parameters of a function up to the closing parenthesis, no two of them alike. -/
def params? : List String → List Token → Option (List String × List Token)
  | done, .mark ")" :: ts => some (done.reverse, ts)
  | done, .name n :: .mark "," :: ts => if done.contains n then none else params? (n :: done) ts
  | done, .name n :: .mark ")" :: ts =>
    if done.contains n then none else some ((n :: done).reverse, ts)
  | _, _ => none

/-- The functions and statements of a whole script. -/
def program? : Nat → Place → List Function → List Token → Option Program
  | 0, _, _, _ => none
  | fuel + 1, p, functions, ts =>
    match ts with
    | [] => some { functions := functions }
    | .mark ";" :: ts => program? fuel p functions ts
    | .word "fn" :: .name n :: .mark "(" :: ts => do
      let (params, ts) ← params? [] ts
      let scope := params.map (·, false)
      let (body, ts) ← block? fuel { scope := scope } ts
      if functions.any (fun f => f.name == n && f.params.length == params.length) then none
      else program? fuel p (⟨n, params, body⟩ :: functions) ts
    | ts => do
      let (s, scope, ts) ← stmt? fuel p ts
      let ts ← if endsItself s || ts.isEmpty then some ts else skip ";" ts
      let rest ← program? fuel { p with scope := scope } functions ts
      some { rest with body := s :: rest.body }

end Parser

/-- The program that a text is, if it is one. -/
def Program.parse? (source : String) : Option Program := do
  let ts ← Lexer.tokens? source
  Parser.program? (16 * (ts.length + 4)) {} [] ts

end Telemetry.Script
