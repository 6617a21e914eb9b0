/-
Formulas in the machine that runs scripts.

The machine takes a number of operations for a formula that depends on nothing but the formula. If
there are so many left it comes to the result of the formula in checked arithmetic, and otherwise
it stops with a fault.

* `Spends` — what a part of a run comes to, and how many operations it takes;
* `Spends.bind`, `Spends.tick`, `Spends.of_ofInt` — parts of a run one after the other;
* `Formula.spends` — a formula as an expression;
* `Formula.value_program` — a formula as a program.

Design notes: the operations of a formula that fails are those it would have taken otherwise. A
variable that stands first among the arguments of a call is read after the others; as the sample
can always be read, this changes nothing.
-/
import Telemetry.Proofs.Script.Formula

namespace Telemetry.Script

/-! ### Budgets of operations -/

section Run

variable {α β : Type} {scope : List Variable} {n k : ℕ}

theorem Run.bind_ok {r : Run α} {f : α → Run β} {m m' : Machine} {a : α}
    (h : r m = (.ok a, m')) : (r >>= f) m = f a m' := by
  show (r m >>= fun p => ExceptT.bindCont f p.1 p.2) = _
  rw [h]
  rfl

theorem Run.bind_error {r : Run α} {f : α → Run β} {m m' : Machine} {i : Interrupt}
    (h : r m = (.error i, m')) : (r >>= f) m = (.error i, m') := by
  show (r m >>= fun p => ExceptT.bindCont f p.1 p.2) = _
  rw [h]
  rfl

theorem Run.tick_eq (m : Machine) : Run.tick m =
    if operationLimit ≤ m.operations then (.error (.fault .tooManyOperations), m)
    else (.ok (), { m with operations := m.operations + 1 }) := by
  show (if operationLimit ≤ m.operations then Run.fail .tooManyOperations
    else set { m with operations := m.operations + 1 } : Run Unit) m = _
  split <;> rfl

/-- A part of a run, with the variables `scope`, comes to `x` and takes `n` operations for it; if
there are fewer left it stops with a fault. -/
structure Spends (scope : List Variable) (n : ℕ) (x : Except ArithFault α) (r : Run α) : Prop where
  ok : ∀ a, x = .ok a → ∀ used, used + n ≤ operationLimit →
    r ⟨used, scope⟩ = (.ok a, ⟨used + n, scope⟩)
  error : ∀ e, x = .error e → ∀ used, used + n ≤ operationLimit →
    ∃ m, r ⟨used, scope⟩ = (.error (.fault (.arithmetic e)), m)
  lacking : ∀ used, used ≤ operationLimit → operationLimit < used + n →
    ∃ f m, r ⟨used, scope⟩ = (.error (.fault f), m)

namespace Spends

theorem pure (a : α) : Spends scope 0 (.ok a) (Pure.pure a : Run α) where
  ok b hb used _ := by cases hb; rfl
  error e he := nomatch he
  lacking used hused hlack := absurd hlack (Nat.not_lt.mpr hused)

theorem tick : Spends scope 1 (.ok ()) Run.tick where
  ok a _ used hused := by rw [Run.tick_eq, if_neg (Nat.not_le.mpr hused)]
  error e he := nomatch he
  lacking used _ hlack := ⟨_, _, by rw [Run.tick_eq, if_pos (Nat.le_of_lt_succ hlack)]⟩

/-- A value of checked arithmetic. -/
theorem of_ofInt (x : Except ArithFault Int64) :
    Spends scope 0 (Value.int <$> x) (Run.of (ofInt x)) := by
  cases x with
  | ok c => exact pure (Value.int c)
  | error e =>
    refine ⟨fun a ha => (nomatch ha), fun e' he' used _ => ?_, fun used hused hlack => ?_⟩
    · cases he'
      exact ⟨_, rfl⟩
    · exact absurd hlack (Nat.not_lt.mpr hused)

/-- A part that has a value, and another one after it. -/
theorem bind_ok {r : Run α} {f : α → Run β} {a : α} {y : Except ArithFault β}
    (hr : Spends scope n (.ok a) r) (hf : Spends scope k y (f a)) :
    Spends scope (n + k) y (r >>= f) where
  ok b hb used hused := by
    have hfirst := hr.ok a rfl used (by omega)
    rw [Run.bind_ok hfirst, hf.ok b hb (used + n) (by omega), Nat.add_assoc]
  error e he used hused := by
    have hfirst := hr.ok a rfl used (by omega)
    rw [Run.bind_ok hfirst]
    exact hf.error e he (used + n) (by omega)
  lacking used hused hlack := by
    by_cases hn : used + n ≤ operationLimit
    · rw [Run.bind_ok (hr.ok a rfl used hn)]
      exact hf.lacking (used + n) hn (by omega)
    · obtain ⟨e, m, hfail⟩ := hr.lacking used hused (by omega)
      exact ⟨e, m, Run.bind_error hfail⟩

/-- A part that fails, whatever comes after it. -/
theorem bind_error {r : Run α} {f : α → Run β} {e : ArithFault}
    (hr : Spends scope n (.error e) r) : Spends scope (n + k) (.error e) (r >>= f) where
  ok b hb := nomatch hb
  error e' he' used hused := by
    cases he'
    obtain ⟨m, hfail⟩ := hr.error e rfl used (by omega)
    exact ⟨m, Run.bind_error hfail⟩
  lacking used hused hlack := by
    by_cases hn : used + n ≤ operationLimit
    · obtain ⟨m, hfail⟩ := hr.error e rfl used hn
      exact ⟨_, m, Run.bind_error hfail⟩
    · obtain ⟨e', m, hfail⟩ := hr.lacking used hused (by omega)
      exact ⟨e', m, Run.bind_error hfail⟩

/-- An integer computed in checked arithmetic, and a part that depends on it. -/
theorem bind {r : Run Value} {f : Value → Run β} {x : Except ArithFault Int64}
    {y : Int64 → Except ArithFault β} (hr : Spends scope n (Value.int <$> x) r)
    (hf : ∀ c, Spends scope k (y c) (f (.int c))) : Spends scope (n + k) (x >>= y) (r >>= f) := by
  cases x with
  | ok c => exact hr.bind_ok (hf c)
  | error e => exact bind_error hr

theorem map {r : Run α} {x : Except ArithFault α} (g : α → β) (hr : Spends scope n x r) :
    Spends scope n (g <$> x) (r >>= fun a => Pure.pure (g a)) := by
  cases x with
  | ok a => exact hr.bind_ok (k := 0) (Spends.pure (g a))
  | error e => exact hr.bind_error (k := 0)

end Spends

end Run

/-! ### Formulas -/

namespace Formula

/-- The operations that a formula takes as an expression. -/
def operations : Formula → ℕ
  | .lit _ => 1
  | .sample => 1
  | .neg a => 1 + a.operations
  | .op _ a b => 1 + (a.operations + b.operations)
  | .invert a => 1 + (a.operations + 1)
  | .saturate a => 1 + (a.operations + 1)
  | .deadband a w => 1 + ((a.operations + w.operations) + 1)

section Expressions

variable {callee : Callee} (hcallee : ∀ name arity, callee name arity = none) (s : Sample)

theorem lookup_sample : Spends (ScriptLaw.scope s) 0 (.ok (.int s.toInt64))
    (Run.lookup ScriptLaw.sampleVariable) where
  ok a ha used _ := by cases ha; rfl
  error e he := nomatch he
  lacking used hused hlack := absurd hlack (Nat.not_lt.mpr hused)

include hcallee in
/-- A function of the library that leaves its arguments as they are. -/
theorem called_library {name : String} {owner : Option String} {args : List Value} {v : Value}
    (hvalue : Library.apply name args = .ok (v, none)) (scope : List Variable) :
    Spends scope 1 (.ok v) (Eval.called callee name owner args) := by
  have hcalled : Eval.called callee name owner args = Run.tick >>= fun _ => pure v := by
    unfold Eval.called
    simp only [hcallee, hvalue]
    cases owner <;> rfl
  rw [hcalled]
  refine Spends.tick.bind_ok (k := 0) ?_
  exact Spends.pure v

/-- The arguments of a call that begin with a formula. -/
theorem arguments_cons {f : Formula} {rest : List Expr} {k : ℕ}
    {y : Except ArithFault (List Value)}
    (hf : Spends (ScriptLaw.scope s) f.operations (Value.int <$> f.result s)
      (Eval.expr callee f.script))
    (hrest : Spends (ScriptLaw.scope s) k y (Eval.exprs callee rest)) :
    Spends (ScriptLaw.scope s) (f.operations + k)
      (f.result s >>= fun c => (Value.int c :: ·) <$> y)
      (Eval.arguments callee (f.script :: rest)) := by
  by_cases hsample : f = sample
  · -- the sample is read after the others
    subst hsample
    rw [script, Eval.arguments]
    refine Spends.tick.bind_ok ?_
    cases y with
    | ok vs =>
      refine hrest.bind_ok (k := 0) ?_
      exact (lookup_sample s).map (· :: vs)
    | error e => exact hrest.bind_error (k := 0)
  · have hread : ∀ name, f.script ≠ .var name := by
      cases f <;> simp_all [script]
    rw [Eval.arguments.eq_3 _ _ _ hread]
    exact hf.bind fun c => hrest.map (Value.int c :: ·)

include hcallee in
/-- A call of a function of one integer. -/
theorem call_one {name : String} {g : Int64 → Int64}
    (hg : ∀ c, Library.apply name [.int c] = .ok (.int (g c), none)) {a : Formula}
    (ha : Spends (ScriptLaw.scope s) a.operations (Value.int <$> a.result s)
      (Eval.expr callee a.script)) :
    Spends (ScriptLaw.scope s) (1 + (a.operations + 1))
      (Value.int <$> do pure (g (← a.result s))) (Eval.expr callee (.call name [a.script])) := by
  have hrest : Spends (ScriptLaw.scope s) 0 (.ok []) (Eval.exprs callee []) := by
    rw [Eval.exprs]
    exact .pure []
  have hargs := arguments_cons s ha hrest
  rw [Eval.expr]
  refine Spends.tick.bind_ok ?_
  cases hresult : a.result s with
  | ok c =>
    rw [hresult] at hargs
    exact hargs.bind_ok (called_library hcallee (hg c) _)
  | error e =>
    rw [hresult] at hargs
    exact hargs.bind_error

include hcallee in
/-- A call of a function of two integers. -/
theorem call_two {name : String} {g : Int64 → Int64 → Int64}
    (hg : ∀ c d, Library.apply name [.int c, .int d] = .ok (.int (g c d), none)) {a b : Formula}
    (ha : Spends (ScriptLaw.scope s) a.operations (Value.int <$> a.result s)
      (Eval.expr callee a.script))
    (hb : Spends (ScriptLaw.scope s) b.operations (Value.int <$> b.result s)
      (Eval.expr callee b.script)) :
    Spends (ScriptLaw.scope s) (1 + (a.operations + b.operations + 1))
      (Value.int <$> do pure (g (← a.result s) (← b.result s)))
      (Eval.expr callee (.call name [a.script, b.script])) := by
  have hrest : Spends (ScriptLaw.scope s) b.operations
      (b.result s >>= fun d => .ok [.int d]) (Eval.exprs callee [b.script]) := by
    rw [Eval.exprs]
    exact hb.bind (k := 0) fun d => .pure [Value.int d]
  have hargs := arguments_cons s ha hrest
  rw [Eval.expr]
  refine Spends.tick.bind_ok ?_
  cases hresult : a.result s with
  | ok c =>
    rw [hresult] at hargs
    cases hresult' : b.result s with
    | ok d =>
      rw [hresult'] at hargs
      exact hargs.bind_ok (called_library hcallee (hg c d) _)
    | error e =>
      rw [hresult'] at hargs
      exact hargs.bind_error
  | error e =>
    rw [hresult] at hargs
    exact hargs.bind_error

include hcallee in
/-- A formula as an expression. -/
theorem spends (f : Formula) :
    Spends (ScriptLaw.scope s) f.operations (Value.int <$> f.result s)
      (Eval.expr callee f.script) := by
  induction f with
  | lit i =>
    rw [script, Eval.expr]
    exact Spends.tick.bind_ok (k := 0) (.pure _)
  | sample =>
    rw [script, Eval.expr]
    exact Spends.tick.bind_ok (k := 0) (lookup_sample s)
  | neg a iha =>
    rw [script, Eval.expr, result, map_bind]
    refine Spends.tick.bind_ok ?_
    exact iha.bind (k := 0) fun c => .of_ofInt _
  | op o a b iha ihb =>
    rw [script, Eval.expr, result, map_bind]
    refine Spends.tick.bind_ok ?_
    refine iha.bind fun c => ?_
    rw [map_bind]
    refine ihb.bind (k := 0) fun d => ?_
    rw [binary_int o c d]
    exact .of_ofInt _
  | invert a iha => exact call_one hcallee s (fun _ => rfl) iha
  | saturate a iha => exact call_one hcallee s (fun _ => rfl) iha
  | deadband a w iha ihw => exact call_two hcallee s (fun _ _ => rfl) iha ihw

/-- The operations that a formula takes as a program; a statement that is a call counts as one with
it. -/
def steps : Formula → ℕ
  | .invert a => (invert a).operations
  | .saturate a => (saturate a).operations
  | .deadband a w => (deadband a w).operations
  | f => 1 + f.operations

include hcallee in
/-- A formula as the only statement. -/
theorem stmts_spends (f : Formula) :
    Spends (ScriptLaw.scope s) f.steps (Value.int <$> f.result s)
      (Eval.stmts callee [.expr f.script]) := by
  have hexpr := spends hcallee s f
  rw [Eval.stmts]
  cases f with
  | invert a => rwa [script, Eval.stmt, ← Eval.expr]
  | saturate a => rwa [script, Eval.stmt, ← Eval.expr]
  | deadband a w => rwa [script, Eval.stmt, ← Eval.expr]
  | lit i => exact Spends.tick.bind_ok hexpr
  | sample => exact Spends.tick.bind_ok hexpr
  | neg a => exact Spends.tick.bind_ok hexpr
  | op o a b => exact Spends.tick.bind_ok hexpr

end Expressions

/-! ### Programs -/

/-- The program that a formula is. -/
def program (f : Formula) : Program := ⟨[], [.expr f.script]⟩

theorem body_program (f : Formula) : f.program.body = [.expr f.script] := rfl

theorem callee_program (f : Formula) (n : ℕ) (name : String) (arity : ℕ) :
    f.program.callee n name arity = none := by
  cases n <;> rfl

/-- A formula has its value if there are enough operations for it. -/
theorem value_program {f : Formula} (henough : f.steps ≤ operationLimit) (s : Sample) :
    f.program.value (ScriptLaw.scope s) =
      match f.result s with
      | .ok c => .ok (.int c)
      | .error e => .error (.arithmetic e) := by
  have hspends := stmts_spends (f.callee_program callLimit) s f
  rw [Program.value, body_program]
  cases hresult : f.result s with
  | ok c =>
    have hrun := hspends.ok (.int c) (by rw [hresult]; rfl) 0 (by omega)
    rw [hrun]
  | error e =>
    obtain ⟨m, hrun⟩ := hspends.error e (by rw [hresult]; rfl) 0 (by omega)
    rw [hrun]

/-- A formula has no value if there are not enough operations for it. -/
theorem value_program_of_lacking {f : Formula} (hlack : operationLimit < f.steps) (s : Sample) :
    ∃ e, f.program.value (ScriptLaw.scope s) = .error e := by
  have hspends := stmts_spends (f.callee_program callLimit) s f
  obtain ⟨e, m, hrun⟩ := hspends.lacking 0 (Nat.zero_le _) (by omega)
  exact ⟨e, by rw [Program.value, body_program, hrun]⟩

end Formula

end Telemetry.Script
