/-
Formulas as control laws.

A law that is a formula has the command nearest to what the formula means, for every sample on
which all its operators have results, and an error of arithmetic for every other. Nothing wraps, as
long as no dead band is given the smallest integer.

* `Formula.simplify_program` — simplifying a formula is folding it;
* `Formula.commandFor_program` — the command of a formula for a sample;
* `ScriptLaw.compile_formula_iff` — a formula is a law if there are operations enough for it and it
  has results for the samples that are tried;
* `ScriptLaw.Follows`, `ScriptLaw.follows_of_parse`, `ScriptLaw.follows_of_reads` — the commands of
  a law whose text is parsed to a formula, or is one by the grammar;
* `ScriptLaw.formulas_saturate` — the commands of all laws that are formulas, and inversion as one
  of them.

Design notes: the parser bounds the depth of expressions, so a text that is a formula by the grammar
may still be refused; one that has been accepted is within that bound. How many operations a formula
takes does not depend on the sample, so a law that has been accepted never runs out of them.
-/
import Telemetry.Proofs.Script.Grammar

namespace Telemetry

namespace Script.Formula

theorem stmt_script (f : Formula) :
    Simplify.stmt [] true (.expr f.script) = .expr f.folded.script := by
  rw [Simplify.stmt, simplify_script]
  cases f.folded <;> rfl

/-- A program of one expression keeps it. -/
theorem tidy_expr (e : Expr) : Simplify.tidy true [.expr e] = [.expr e] := by
  have hacting : Simplify.acting true (Simplify.reached [.expr e]) = [.expr e] := by
    simp [Simplify.reached, Stmt.isJump, Simplify.acting]
  rw [Simplify.tidy, hacting]
  simp [Stmt.hasValue]

/-- Simplifying a formula is folding it. -/
theorem simplify_program (f : Formula) : f.program.simplify = f.folded.program := by
  have honce : ∀ g : Formula,
      Simplify.tidy true (Simplify.stmts [] true [.expr g.script]) = [.expr g.folded.script] := by
    intro g
    simp only [Simplify.stmts, stmt_script, Simplify.spliced, List.append_nil]
    exact tidy_expr _
  rw [Program.simplify, body_program, Simplify.block]
  simp only [honce, folded_folded]
  rfl

/-- The command of a formula for a sample, if there are operations enough. -/
theorem commandFor_program {f : Formula} (henough : f.steps ≤ operationLimit) (s : Sample) :
    ScriptLaw.commandFor f.program s =
      match f.result s with
      | .ok c => .ok (Command.clamp c.toInt)
      | .error e => .error (.fault (.arithmetic e)) := by
  rw [ScriptLaw.commandFor, value_program henough]
  cases f.result s <;> rfl

/-- A formula that is defined for a sample has the command nearest to what it means. -/
theorem commandFor_of_defined {f : Formula} (henough : f.folded.steps ≤ operationLimit)
    {s : Sample} (hspares : f.Spares s) (hdefined : f.Defined s) :
    ∃ c, ScriptLaw.commandFor f.folded.program s = .ok c ∧ c.toInt = nearest (f.value s) := by
  rw [commandFor_program henough, result_folded]
  have hyields := result_yields hspares
  generalize f.result s = x at hyields ⊢
  cases hyields with
  | ok _ c hc => exact ⟨_, rfl, hc ▸ toInt_clamp c.toInt⟩
  | error hnot e => exact absurd hdefined hnot

/-- A formula that is not defined for a sample has an error of arithmetic. -/
theorem commandFor_of_not_defined {f : Formula} (henough : f.folded.steps ≤ operationLimit)
    {s : Sample} (hspares : f.Spares s) (hnot : ¬ f.Defined s) :
    ∃ e, ScriptLaw.commandFor f.folded.program s = .error (.fault (.arithmetic e)) := by
  rw [commandFor_program henough, result_folded]
  have hyields := result_yields hspares
  generalize f.result s = x at hyields ⊢
  cases hyields with
  | ok hdefined c _ => exact absurd hdefined hnot
  | error _ e => exact ⟨e, rfl⟩

/-- A formula that has a command for some sample has operations enough, and a result for it. -/
theorem of_commandFor {f : Formula} {s : Sample} {c : Command}
    (h : ScriptLaw.commandFor f.folded.program s = .ok c) :
    f.folded.steps ≤ operationLimit ∧ ∃ v, f.result s = .ok v := by
  have henough : f.folded.steps ≤ operationLimit := by
    by_contra hlack
    obtain ⟨e, he⟩ := value_program_of_lacking (Nat.lt_of_not_le hlack) s
    rw [ScriptLaw.commandFor, he] at h
    cases h
  refine ⟨henough, ?_⟩
  rw [commandFor_program henough, result_folded] at h
  cases hresult : f.result s with
  | ok v => exact ⟨v, rfl⟩
  | error e =>
    rw [hresult] at h
    cases h

end Script.Formula

namespace ScriptLaw

open Script

/-- Samples are refused unless all of them have commands. -/
theorem refusal?_eq_none_iff (p : Program) (samples : List Sample) :
    refusal? p samples = none ↔ ∀ s ∈ samples, ∃ c, commandFor p s = .ok c := by
  induction samples with
  | nil => simp [refusal?]
  | cons s rest ih =>
    rw [refusal?, List.forall_mem_cons]
    cases hcommand : commandFor p s with
    | ok c => simpa using ih
    | error e => simp

/-- A text that is a program is a law if the program has commands for the samples that are
tried. -/
theorem compile_eq_ok_iff {source : String} {p : Program} (hparse : Program.parse? source = some p)
    (law : ScriptLaw) : compile source = .ok law ↔
      law = ⟨source, p.simplify⟩ ∧ ∀ s ∈ probes, ∃ c, commandFor p.simplify s = .ok c := by
  rw [← refusal?_eq_none_iff, compile, hparse]
  cases hrefusal : refusal? p.simplify probes with
  | none => simp [hrefusal, eq_comm]
  | some r => simp [hrefusal]

variable {source : String} {f : Formula}

/-- A formula is a law if there are operations enough for it and it has results for the samples
that are tried. -/
theorem compile_formula_iff (hparse : Program.parse? source = some f.program) (law : ScriptLaw) :
    compile source = .ok law ↔ law = ⟨source, f.folded.program⟩ ∧
      f.folded.steps ≤ operationLimit ∧ ∀ s ∈ probes, ∃ v, f.result s = .ok v := by
  rw [compile_eq_ok_iff hparse, f.simplify_program]
  refine and_congr_right fun _ => ⟨fun h => ?_, fun ⟨henough, hresults⟩ s hs => ?_⟩
  · refine ⟨?_, fun s hs => ?_⟩
    · obtain ⟨c, hc⟩ := h 0 (by simp [probes])
      exact (Formula.of_commandFor hc).1
    · obtain ⟨c, hc⟩ := h s hs
      exact (Formula.of_commandFor hc).2
  · obtain ⟨v, hv⟩ := hresults s hs
    rw [Formula.commandFor_program henough, f.result_folded, hv]
    exact ⟨_, rfl⟩

/-- A law follows a formula: where the formula is defined it has the command nearest to what the
formula means, and an error of arithmetic elsewhere. -/
def Follows (law : ScriptLaw) (f : Formula) : Prop :=
  ∀ s, f.Spares s →
    (f.Defined s → ∃ c, law.eval s = .ok c ∧ c.toInt = nearest (f.value s)) ∧
    (¬ f.Defined s → ∃ e, law.eval s = .error (.fault (.arithmetic e)))

/-- A law whose text is parsed to a formula follows it. -/
theorem follows_of_parse (hparse : Program.parse? source = some f.program) {law : ScriptLaw}
    (hlaw : compile source = .ok law) : law.Follows f := by
  obtain ⟨rfl, henough, -⟩ := (compile_formula_iff hparse law).mp hlaw
  exact fun s hspares => ⟨Formula.commandFor_of_defined henough hspares,
    Formula.commandFor_of_not_defined henough hspares⟩

/-- A law whose text is a formula by the grammar follows it. -/
theorem follows_of_reads {ts : List Token} (htokens : Lexer.tokens? source = some ts)
    (hreads : Reads .sum f ts) {law : ScriptLaw} (hlaw : compile source = .ok law) :
    law.Follows f := by
  cases hparse : Program.parse? source with
  | none =>
    rw [compile, hparse] at hlaw
    cases hlaw
  | some p =>
    have hformula : p = f.program := Program.parse?_of_reads htokens hreads hparse
    rw [hformula] at hparse
    exact follows_of_parse hparse hlaw

theorem tokens?_invertLaw :
    Lexer.tokens? invertLaw =
      some [.name "invert", .mark "(", .name "sample", .mark ")"] := by rfl

/-- The builtin script is the formula that inverts the sample. -/
theorem parse?_invertLaw : Program.parse? invertLaw = some (Formula.invert .sample).program := by
  rw [Program.parse?, tokens?_invertLaw]
  rfl

theorem toInt_invert (s : Sample) : (Telemetry.invert s).toInt = nearest (-s.toInt) := by
  have hlow := s.le_toInt
  have hhigh := s.toInt_lt
  unfold Telemetry.invert nearest
  split
  · next h =>
    subst h
    decide
  · next h =>
    have hne : s.toInt ≠ -32768 := fun heq => h (Int16.toInt_inj.mp heq)
    rw [Int16.toInt_neg, Int.bmod_eq_of_le (by omega) (by omega)]
    omega

/-- A text that is a formula by the grammar, or is parsed to one, has, once it is accepted, the
command nearest to what the formula means for every sample on which all its operators have results,
and an error of arithmetic for every other, as long as no dead band is given the smallest integer.
A text that is parsed to a formula is accepted if there are operations enough for it and it has
results for the three samples that are tried, and so if it is defined for them. The builtin script
for inversion is such a text, and agrees with inversion. -/
theorem formulas_saturate (source : String) (f : Formula) :
    (∀ ts, Lexer.tokens? source = some ts → Reads .sum f ts →
      ∀ law, compile source = .ok law → law.Follows f) ∧
    (Program.parse? source = some f.program →
      (∀ law, compile source = .ok law → law.Follows f) ∧
      ((∃ law, compile source = .ok law) ↔
        f.folded.steps ≤ operationLimit ∧ ∀ s ∈ probes, ∃ v, f.result s = .ok v) ∧
      ((∀ s ∈ probes, f.Spares s) →
        ((∃ law, compile source = .ok law) ↔
          f.folded.steps ≤ operationLimit ∧ ∀ s ∈ probes, f.Defined s))) ∧
    ∃ law, compile invertLaw = .ok law ∧
      ∀ s, (ControlLaw.script law).command s = ControlLaw.invert.command s := by
  refine ⟨fun ts htokens hreads law hlaw => follows_of_reads htokens hreads hlaw,
    fun hparse => ?_, ?_⟩
  · have haccepted : (∃ law, compile source = .ok law) ↔
        f.folded.steps ≤ operationLimit ∧ ∀ s ∈ probes, ∃ v, f.result s = .ok v :=
      ⟨fun ⟨law, hlaw⟩ => ((compile_formula_iff hparse law).mp hlaw).2,
        fun h => ⟨_, (compile_formula_iff hparse _).mpr ⟨rfl, h⟩⟩⟩
    refine ⟨fun law hlaw => follows_of_parse hparse hlaw, haccepted, fun hspares => ?_⟩
    rw [haccepted]
    exact and_congr_right fun _ => forall₂_congr fun s hs =>
      (Formula.result_yields (hspares s hs)).ok_iff
  · have henough : (Formula.invert .sample).folded.steps ≤ operationLimit := by decide
    refine ⟨⟨invertLaw, (Formula.invert .sample).folded.program⟩,
      (compile_formula_iff parse?_invertLaw _).mpr ⟨rfl, henough, fun s _ => ⟨_, rfl⟩⟩,
      fun s => ?_⟩
    obtain ⟨c, hc, hvalue⟩ :=
      Formula.commandFor_of_defined (f := .invert .sample) (s := s) henough trivial trivial
    have hsame : c = Telemetry.invert s := by
      rw [← Int16.toInt_inj, hvalue, toInt_invert]
      exact nearest_nearest _
    exact hc.trans (hsame ▸ rfl)

/-- A formula that divides by zero for one sample. -/
def quotientLaw : String := "sample / (sample - 5)"

/-- Its tokens. -/
def quotientTokens : List Token :=
  [.name "sample", .mark "/", .mark "(", .name "sample", .mark "-", .int 5, .mark ")"]

/-- What it means. -/
def quotient : Formula := .op .div .sample (.op .sub .sample (.lit 5))

theorem tokens?_quotientLaw : Lexer.tokens? quotientLaw = some quotientTokens := by rfl

theorem parse?_quotientLaw : Program.parse? quotientLaw = some quotient.program := by
  rw [Program.parse?, tokens?_quotientLaw]
  rfl

theorem reads_quotient : Reads .sum quotient quotientTokens :=
  .term (.times .div rfl (.factor .sample)
    (.parentheses (.plus .sub rfl (.term (.factor .sample)) (.factor (.lit 5)))))

/-- It is accepted, has a command for six, and an error for five. -/
theorem formulas_saturate_quotient :
    Lexer.tokens? quotientLaw = some quotientTokens ∧ Reads .sum quotient quotientTokens ∧
    Program.parse? quotientLaw = some quotient.program ∧
    ∃ law, compile quotientLaw = .ok law ∧
      (∃ c, law.eval 6 = .ok c ∧ c.toInt = 6) ∧
      ∃ e, law.eval 5 = .error (.fault (.arithmetic e)) := by
  obtain ⟨hreads, hparse, -⟩ := formulas_saturate quotientLaw quotient
  obtain ⟨-, -, haccepted⟩ := hparse parse?_quotientLaw
  have hspares : ∀ s, quotient.Spares s := fun s =>
    ⟨trivial, fun _ => ⟨trivial, fun _ => trivial⟩⟩
  have hdefined : ∀ s ∈ probes, quotient.Defined s := by
    simp only [probes, List.forall_mem_cons]
    exact ⟨by decide, by decide, by decide, List.forall_mem_nil _⟩
  obtain ⟨law, hlaw⟩ := (haccepted fun s _ => hspares s).mpr ⟨by decide, hdefined⟩
  have hfollows := hreads quotientTokens tokens?_quotientLaw reads_quotient law hlaw
  refine ⟨tokens?_quotientLaw, reads_quotient, parse?_quotientLaw, law, hlaw, ?_, ?_⟩
  · exact (hfollows 6 (hspares 6)).1 (by decide)
  · exact (hfollows 5 (hspares 5)).2 (by decide)

end ScriptLaw

end Telemetry
