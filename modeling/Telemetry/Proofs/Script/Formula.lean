/-
The formulas among the scripts: integers, the sample, the arithmetic operators and the three
functions that keep within the range of commands.

A formula means an unbounded integer. Computed in sixty-four bits, from left to right and with
every operator checked, it comes to just that integer, or it fails because some operator in it has
no result in sixty-four bits.

* `Formula`, `Formula.script` — formulas, and the expressions that they are;
* `Formula.value`, `Formula.Defined` — what a formula means, and whether all its operators have
  results;
* `Formula.result` — a formula computed in checked arithmetic;
* `Formula.Spares`, `Formula.result_yields` — the two agree where no dead band is given the
  smallest integer;
* `Formula.folded`, `Formula.result_folded` — folding what is constant changes no result.

Design notes: a dead band compares a width with the size of an integer. The smallest integer has no
opposite, and its size wraps, so a dead band takes it for less than any other width, which is not
what the formula means (`Integer.deadband_least`). Parentheses leave no trace in an
expression, and neither does a minus before a literal: it is part of the literal. Before the
smallest integer it makes a floating point number of it, which is no formula.
-/
import Mathlib.Data.Int.Notation
import Mathlib.Data.Nat.Notation
import Mathlib.Tactic.ByContra
import Telemetry.Law

namespace Telemetry.Script

/-! ### Commands -/

/-- The command nearest to an integer, as an integer. -/
def nearest (v : ℤ) : ℤ := max (-32768) (min v 32767)

theorem nearest_nearest (v : ℤ) : nearest (nearest v) = nearest v := by
  unfold nearest
  omega

theorem toInt_clamp (v : ℤ) : (Command.clamp v).toInt = nearest v :=
  Int16.toInt_ofInt_of_le (by omega) (by omega)

/-! ### Checked arithmetic -/

namespace Integer

/-- An unbounded integer that is one of sixty-four bits. -/
def Fits (v : ℤ) : Prop := least ≤ v ∧ v ≤ greatest

instance (v : ℤ) : Decidable (Fits v) := inferInstanceAs (Decidable (_ ∧ _))

/-- A computation comes to `v` if `d` holds, and fails otherwise. -/
inductive Yields (d : Prop) (v : ℤ) : Except ArithFault Int64 → Prop
  | ok (hd : d) (c : Int64) (hc : c.toInt = v) : Yields d v (.ok c)
  | error (hd : ¬ d) (e : ArithFault) : Yields d v (.error e)

theorem Yields.congr {d d' : Prop} {v v' : ℤ} {x : Except ArithFault Int64} (h : Yields d v x)
    (hd : d ↔ d') (hv : v = v') : Yields d' v' x := by
  subst hv
  cases h with
  | ok h c hc => exact .ok (hd.mp h) c hc
  | error h e => exact .error (fun h' => h (hd.mpr h')) e

theorem Yields.bind {d d' : Prop} {v v' : ℤ} {x : Except ArithFault Int64}
    {f : Int64 → Except ArithFault Int64} (hx : Yields d v x)
    (hf : d → ∀ c, c.toInt = v → Yields d' v' (f c)) : Yields (d ∧ d') v' (x >>= f) := by
  cases hx with
  | ok hd c hc => exact (hf hd c hc).congr (by simp [hd]) rfl
  | error hd e => exact .error (fun h => hd h.1) e

theorem Yields.map {d : Prop} {v v' : ℤ} {x : Except ArithFault Int64} {f : Int64 → Int64}
    (hx : Yields d v x) (hf : d → ∀ c, c.toInt = v → (f c).toInt = v') :
    Yields d v' (x >>= fun c => pure (f c)) := by
  cases hx with
  | ok hd c hc => exact .ok hd _ (hf hd c hc)
  | error hd e => exact .error hd e

theorem Yields.ok_iff {d : Prop} {v : ℤ} {x : Except ArithFault Int64} (h : Yields d v x) :
    (∃ c, x = .ok c) ↔ d := by
  cases h with
  | ok hd c => exact iff_of_true ⟨c, rfl⟩ hd
  | error hd e => exact iff_of_false nofun hd

theorem fits_toInt (a : Int64) : Fits a.toInt := by
  have hlow := a.le_toInt
  have hhigh := a.toInt_lt
  unfold Fits least greatest
  omega

theorem toInt_ofInt {v : ℤ} (h : Fits v) : (Int64.ofInt v).toInt = v := by
  obtain ⟨hlow, hhigh⟩ := h
  unfold least at hlow
  unfold greatest at hhigh
  exact Int64.toInt_ofInt_of_le (by omega) (by omega)

theorem narrow_yields (e : ArithFault) (v : ℤ) : Yields (Fits v) v (narrow e v) := by
  unfold narrow fits
  by_cases h : Fits v
  · rw [if_pos (by simpa [Fits] using h)]
    exact .ok h _ (toInt_ofInt h)
  · rw [if_neg (by simpa [Fits] using h)]
    exact .error h e

/-- A quotient leaves sixty-four bits in one case only. -/
theorem fits_tdiv_iff (a b : Int64) (hb : b.toInt ≠ 0) :
    Fits (a.toInt.tdiv b.toInt) ↔ ¬ (a.toInt = least ∧ b.toInt = -1) := by
  have hlow := a.le_toInt
  have hhigh := a.toInt_lt
  constructor
  · rintro hfits ⟨ha, hb⟩
    rw [ha, hb] at hfits
    exact absurd hfits (by decide)
  · intro hcase
    by_contra hfits
    -- the quotient is as large as what is divided, so the divisor is a sign
    have habs : (a.toInt.tdiv b.toInt).natAbs = a.toInt.natAbs / b.toInt.natAbs :=
      Int.natAbs_tdiv _ _
    have hlarge : 2 ^ 63 ≤ a.toInt.natAbs / b.toInt.natAbs := by
      unfold Fits least greatest at hfits
      omega
    have hsign : b.toInt.natAbs = 1 := by
      by_contra hne
      have htwo : 2 ≤ b.toInt.natAbs := by omega
      have hhalf : a.toInt.natAbs / b.toInt.natAbs ≤ a.toInt.natAbs / 2 :=
        Nat.div_le_div_left htwo (by decide)
      omega
    rw [hsign, Nat.div_one] at hlarge
    rcases Int.natAbs_eq b.toInt with hone | hone
    · rw [hsign] at hone
      rw [hone] at hfits
      exact hfits (by simpa using fits_toInt a)
    · rw [hsign] at hone
      exact hcase ⟨by unfold least; omega, hone⟩

theorem fits_tmod (a b : Int64) (hb : b.toInt ≠ 0) : Fits (a.toInt.tmod b.toInt) := by
  have hlow := b.le_toInt
  have hhigh := b.toInt_lt
  have habs : (a.toInt.tmod b.toInt).natAbs < b.toInt.natAbs := by
    rw [Int.natAbs_tmod]
    exact Nat.mod_lt _ (Int.natAbs_pos.mpr hb)
  unfold Fits least greatest
  omega

theorem div_yields (a b : Int64) :
    Yields (b.toInt ≠ 0 ∧ Fits (a.toInt.tdiv b.toInt)) (a.toInt.tdiv b.toInt) (div a b) := by
  unfold div
  by_cases hb : b = 0
  · rw [if_pos hb]
    exact .error (fun h => h.1 (hb ▸ rfl)) _
  · rw [if_neg hb]
    have hne : b.toInt ≠ 0 := fun h => hb (Int64.toInt_inj.mp h)
    exact (narrow_yields .divisionOverflow _).congr (by simp [hne]) rfl

theorem rem_yields (a b : Int64) :
    Yields (b.toInt ≠ 0 ∧ Fits (a.toInt.tdiv b.toInt)) (a.toInt.tmod b.toInt) (rem a b) := by
  have hzero : b = 0 ↔ b.toInt = 0 := Int64.toInt_inj.symm
  have hone : b = -1 ↔ b.toInt = -1 := Int64.toInt_inj.symm
  unfold rem
  split
  · next h =>
    refine .error (fun hd => ?_) _
    rw [hzero, hone] at h
    rcases h with h | h
    · exact hd.1 h
    · exact (fits_tdiv_iff a b hd.1).mp hd.2 h
  · next h =>
    rw [hzero, hone, not_or] at h
    exact .ok ⟨h.1, (fits_tdiv_iff a b h.1).mpr h.2⟩ _ (toInt_ofInt (fits_tmod a b h.1))

theorem neg_yields (a : Int64) : Yields (Fits (-a.toInt)) (-a.toInt) (neg a) :=
  narrow_yields _ _

theorem toInt_saturate (a : Int64) : (saturate a).toInt = nearest a.toInt := by
  rw [saturate, Int16.toInt_toInt64, toInt_clamp]

theorem toInt_invert (a : Int64) : (invert a).toInt = nearest (-a.toInt) := by
  rw [invert, Int16.toInt_toInt64, toInt_clamp]

theorem toInt_abs {a : Int64} (ha : a.toInt ≠ least) : a.abs.toInt = a.toInt.natAbs := by
  have hne : a.toBitVec ≠ BitVec.intMin 64 := fun heq => ha (congrArg BitVec.toInt heq)
  exact BitVec.toInt_abs_eq_natAbs.trans (if_neg hne)

theorem toInt_deadband {a : Int64} (ha : a.toInt ≠ least) (w : Int64) : (deadband a w).toInt =
    if (a.toInt.natAbs : ℤ) < w.toInt then 0 else a.toInt := by
  rw [← toInt_abs ha, deadband]
  simp only [Int64.lt_iff_toInt_lt]
  split <;> rfl

/-- The smallest integer is in every dead band but the one whose width it is. -/
theorem deadband_least (w : Int64) :
    deadband Int64.minValue w = if w = Int64.minValue then Int64.minValue else 0 := by
  have habs : Int64.minValue.abs = Int64.minValue := by decide
  have hlow := w.le_toInt
  rw [deadband, habs]
  by_cases hw : w = Int64.minValue
  · rw [if_pos hw, hw, if_neg (by decide)]
  · have hne : w.toInt ≠ Int64.minValue.toInt := fun heq => hw (Int64.toInt_inj.mp heq)
    rw [if_neg hw, if_pos]
    rw [Int64.lt_iff_toInt_lt]
    rw [Int64.toInt_minValue] at hne ⊢
    omega

end Integer

/-- The operators of formulas. -/
inductive Arithmetic where
  | add
  | sub
  | mul
  | div
  | rem

namespace Arithmetic

/-- The operator in a script. -/
def binary : Arithmetic → BinaryOp
  | .add => .add
  | .sub => .sub
  | .mul => .mul
  | .div => .div
  | .rem => .rem

/-- The operator in checked arithmetic. -/
def apply : Arithmetic → Int64 → Int64 → Except ArithFault Int64
  | .add => Integer.add
  | .sub => Integer.sub
  | .mul => Integer.mul
  | .div => Integer.div
  | .rem => Integer.rem

/-- The operator on unbounded integers; a quotient is rounded toward zero, and a remainder has the
sign of what is divided. -/
def value : Arithmetic → ℤ → ℤ → ℤ
  | .add, x, y => x + y
  | .sub, x, y => x - y
  | .mul, x, y => x * y
  | .div, x, y => x.tdiv y
  | .rem, x, y => x.tmod y

/-- The operator has a result in sixty-four bits; there is a remainder where there is a
quotient. -/
def Defined : Arithmetic → ℤ → ℤ → Prop
  | .add, x, y => Integer.Fits (x + y)
  | .sub, x, y => Integer.Fits (x - y)
  | .mul, x, y => Integer.Fits (x * y)
  | .div, x, y => y ≠ 0 ∧ Integer.Fits (x.tdiv y)
  | .rem, x, y => y ≠ 0 ∧ Integer.Fits (x.tdiv y)

instance (o : Arithmetic) (x y : ℤ) : Decidable (o.Defined x y) :=
  match o with
  | .add => inferInstanceAs (Decidable (Integer.Fits _))
  | .sub => inferInstanceAs (Decidable (Integer.Fits _))
  | .mul => inferInstanceAs (Decidable (Integer.Fits _))
  | .div => inferInstanceAs (Decidable (_ ∧ _))
  | .rem => inferInstanceAs (Decidable (_ ∧ _))

theorem apply_yields (o : Arithmetic) (a b : Int64) :
    Integer.Yields (o.Defined a.toInt b.toInt) (o.value a.toInt b.toInt) (o.apply a b) := by
  cases o with
  | add => exact Integer.narrow_yields _ _
  | sub => exact Integer.narrow_yields _ _
  | mul => exact Integer.narrow_yields _ _
  | div => exact Integer.div_yields a b
  | rem => exact Integer.rem_yields a b

end Arithmetic

/-! ### Formulas -/

/-- A formula. -/
inductive Formula where
  | lit (i : Int64)
  | sample
  | neg (a : Formula)
  | op (o : Arithmetic) (a b : Formula)
  | invert (a : Formula)
  | saturate (a : Formula)
  | deadband (a width : Formula)

namespace Formula

/-- The expression that a formula is. -/
def script : Formula → Expr
  | .lit i => .const (.int i)
  | .sample => .var ScriptLaw.sampleVariable
  | .neg a => .unary .minus a.script
  | .op o a b => .binary o.binary a.script b.script
  | .invert a => .call "invert" [a.script]
  | .saturate a => .call "saturate" [a.script]
  | .deadband a w => .call "deadband" [a.script, w.script]

/-- What a formula means for a sample. -/
def value (s : Sample) : Formula → ℤ
  | .lit i => i.toInt
  | .sample => s.toInt
  | .neg a => -a.value s
  | .op o a b => o.value (a.value s) (b.value s)
  | .invert a => nearest (-a.value s)
  | .saturate a => nearest (a.value s)
  | .deadband a w => if ((a.value s).natAbs : ℤ) < w.value s then 0 else a.value s

/-- Every operator of a formula has a result in sixty-four bits. -/
def Defined (s : Sample) : Formula → Prop
  | .lit _ => True
  | .sample => True
  | .neg a => a.Defined s ∧ Integer.Fits (-a.value s)
  | .op o a b => a.Defined s ∧ b.Defined s ∧ o.Defined (a.value s) (b.value s)
  | .invert a => a.Defined s
  | .saturate a => a.Defined s
  | .deadband a w => a.Defined s ∧ w.Defined s

/-- No dead band of a formula is given the smallest integer. Nothing is given to one that is not
reached: the parts of a formula are computed from left to right, up to the first that fails. -/
def Spares (s : Sample) : Formula → Prop
  | .lit _ => True
  | .sample => True
  | .neg a => a.Spares s
  | .op _ a b => a.Spares s ∧ (a.Defined s → b.Spares s)
  | .invert a => a.Spares s
  | .saturate a => a.Spares s
  | .deadband a w =>
    a.Spares s ∧ (a.Defined s → w.Spares s ∧ (w.Defined s → a.value s ≠ Integer.least))

instance decidableDefined (s : Sample) : (f : Formula) → Decidable (f.Defined s)
  | .lit _ => .isTrue trivial
  | .sample => .isTrue trivial
  | .neg a =>
    have := decidableDefined s a
    inferInstanceAs (Decidable (_ ∧ _))
  | .op _ a b =>
    have := decidableDefined s a
    have := decidableDefined s b
    inferInstanceAs (Decidable (_ ∧ _ ∧ _))
  | .invert a => decidableDefined s a
  | .saturate a => decidableDefined s a
  | .deadband a w =>
    have := decidableDefined s a
    have := decidableDefined s w
    inferInstanceAs (Decidable (_ ∧ _))

/-- A formula computed in checked arithmetic, from left to right. -/
def result (s : Sample) : Formula → Except ArithFault Int64
  | .lit i => .ok i
  | .sample => .ok s.toInt64
  | .neg a => do Integer.neg (← a.result s)
  | .op o a b => do o.apply (← a.result s) (← b.result s)
  | .invert a => do pure (Integer.invert (← a.result s))
  | .saturate a => do pure (Integer.saturate (← a.result s))
  | .deadband a w => do pure (Integer.deadband (← a.result s) (← w.result s))

/-- Checked arithmetic comes to what a formula means when every operator has a result, and fails
otherwise, unless a dead band is given the smallest integer. -/
theorem result_yields {s : Sample} {f : Formula} (hspares : f.Spares s) :
    Integer.Yields (f.Defined s) (f.value s) (f.result s) := by
  induction f with
  | lit i => exact .ok trivial i rfl
  | sample => exact .ok trivial _ (Int16.toInt_toInt64 s)
  | neg a iha =>
    refine (iha hspares).bind fun _ c hc => ?_
    rw [value, ← hc]
    exact Integer.neg_yields c
  | op o a b iha ihb =>
    obtain ⟨ha, hb⟩ := hspares
    refine (iha ha).bind fun hdefined c hc => (ihb (hb hdefined)).bind fun _ d hd => ?_
    rw [value, ← hc, ← hd]
    exact o.apply_yields c d
  | invert a iha =>
    refine (iha hspares).map fun _ c hc => ?_
    rw [value, ← hc]
    exact Integer.toInt_invert c
  | saturate a iha =>
    refine (iha hspares).map fun _ c hc => ?_
    rw [value, ← hc]
    exact Integer.toInt_saturate c
  | deadband a w iha ihw =>
    obtain ⟨ha, hreached⟩ := hspares
    refine (iha ha).bind fun hdefined c hc => ?_
    obtain ⟨hw, hleast⟩ := hreached hdefined
    refine (ihw hw).map fun hwidth d hd => ?_
    have hne : c.toInt ≠ Integer.least := hc ▸ hleast hwidth
    rw [value, ← hc, ← hd]
    exact Integer.toInt_deadband hne d

/-! ### Folding -/

/-- An operator on two formulas, computed if both are integers and it has a result. -/
def joined (o : Arithmetic) : Formula → Formula → Formula
  | .lit x, .lit y =>
    match o.apply x y with
    | .ok v => .lit v
    | .error _ => .op o (.lit x) (.lit y)
  | a, b => .op o a b

/-- A formula with what is constant folded. -/
def folded : Formula → Formula
  | .lit i => .lit i
  | .sample => .sample
  | .neg a => .neg a.folded
  | .op o a b => joined o a.folded b.folded
  | .invert a => .invert a.folded
  | .saturate a => .saturate a.folded
  | .deadband a w => .deadband a.folded w.folded

theorem result_joined (s : Sample) (o : Arithmetic) (a b : Formula) :
    (joined o a b).result s = (op o a b).result s := by
  unfold joined
  split
  · next x y =>
    split
    · next v hv => exact hv.symm
    · rfl
  · rfl

/-- Folding changes no result. -/
theorem result_folded (s : Sample) (f : Formula) : f.folded.result s = f.result s := by
  induction f with
  | lit i => rfl
  | sample => rfl
  | neg a iha => rw [folded, result, result, iha]
  | op o a b iha ihb => rw [folded, result_joined, result, result, iha, ihb]
  | invert a iha => rw [folded, result, result, iha]
  | saturate a iha => rw [folded, result, result, iha]
  | deadband a w iha ihw => rw [folded, result, result, iha, ihw]

theorem folded_joined (o : Arithmetic) {a b : Formula} (ha : a.folded = a) (hb : b.folded = b) :
    (joined o a b).folded = joined o a b := by
  have hop : (op o a b).folded = joined o a b := by rw [folded, ha, hb]
  unfold joined at hop ⊢
  split
  · next x y =>
    split
    · rfl
    · next e he =>
      simp only [he] at hop
      exact hop
  · next hother =>
    split at hop
    · next x y => exact absurd rfl (hother x y rfl)
    · exact hop

/-- What has been folded cannot be folded further. -/
theorem folded_folded (f : Formula) : f.folded.folded = f.folded := by
  induction f with
  | lit i => rfl
  | sample => rfl
  | neg a iha => rw [folded, folded, iha]
  | op o a b iha ihb => exact folded_joined o iha ihb
  | invert a iha => rw [folded, folded, iha]
  | saturate a iha => rw [folded, folded, iha]
  | deadband a w iha ihw => rw [folded, folded, iha, ihw]

theorem binary_int (o : Arithmetic) (x y : Int64) :
    Script.binary o.binary (.int x) (.int y) = ofInt (o.apply x y) := by
  cases o <;> rfl

theorem script_joined (o : Arithmetic) (a b : Formula) :
    Simplify.folded o.binary a.script b.script = (joined o a b).script := by
  unfold joined
  split
  · next x y =>
    rw [script, script, Simplify.folded, binary_int]
    cases o.apply x y <;> rfl
  · next hother =>
    cases a <;> cases b <;> first | rfl | exact absurd rfl (hother _ _ rfl)

/-- Folding is what simplification does to a formula. -/
theorem simplify_script (f : Formula) : Simplify.expr [] f.script = f.folded.script := by
  induction f with
  | lit i => rw [script, Simplify.expr, folded, script]
  | sample => rw [script, Simplify.expr, folded, script]; rfl
  | neg a iha => rw [script, Simplify.expr, iha, folded, script]
  | op o a b iha ihb => rw [script, Simplify.expr, iha, ihb, script_joined, folded]
  | invert a iha => simp only [script, Simplify.expr, Simplify.exprs, iha, folded]
  | saturate a iha => simp only [script, Simplify.expr, Simplify.exprs, iha, folded]
  | deadband a w iha ihw => simp only [script, Simplify.expr, Simplify.exprs, iha, ihw, folded]

end Formula

end Telemetry.Script
