/-
The texts that are formulas.

A formula is a sum of products of operands, operators of one kind are joined from left to right, and
a minus before an operand binds tighter than any of them.

* `Reads` — which formula a list of tokens is, by this grammar;
* `Ends` — what may stand behind a formula;
* `Parser.expr?_of_reads` — the parser reads a formula as the grammar says, or refuses it;
* `Program.parse?_of_reads` — so does it with a whole text.

Design notes: the parser joins operands as they come, where the grammar has sums of products. What
they have in common is a first operand with a tail of operators and operands behind it, and
joining the tail to the operand makes the formula of it (`Joins`). The parser refuses what is
nested too deep, so all that is said is what it reads if it reads anything. A minus before a
literal is part of it; the one literal that has no opposite makes no formula.
-/
import Telemetry.Proofs.Script.Evaluation

namespace Telemetry.Script

namespace Arithmetic

/-- The mark of an operator. -/
def mark : Arithmetic → String
  | .add => "+"
  | .sub => "-"
  | .mul => "*"
  | .div => "/"
  | .rem => "%"

/-- How tightly an operator binds. -/
def strength : Arithmetic → ℕ
  | .add => 7
  | .sub => 7
  | .mul => 8
  | .div => 8
  | .rem => 8

theorem strength_le (o : Arithmetic) : o.strength ≤ 8 := by
  cases o <;> decide

theorem joint?_mark (o : Arithmetic) {p : Parser.Place} (hp : p.inCases = false)
    (rest : List Token) :
    Parser.joint? p (.mark o.mark :: rest) = some ⟨.op o.binary, o.strength, false⟩ := by
  rw [Parser.joint?, hp]
  cases o <;> rfl

end Arithmetic

/-- What a part of a formula is to the parts beside it. -/
inductive Role where
  | operand
  | product
  | sum

/-- The formula that some tokens are. -/
inductive Reads : Role → Formula → List Token → Prop
  | lit (i : Int64) : Reads .operand (.lit i) [.int i]
  | sample : Reads .operand .sample [.name ScriptLaw.sampleVariable]
  | minusLit {i j : Int64} {ts : List Token} (h : Reads .operand (.lit i) ts)
      (hopposite : Integer.neg i = .ok j) : Reads .operand (.lit j) (.mark "-" :: ts)
  | minus {a : Formula} {ts : List Token} (h : Reads .operand a ts) (ha : ∀ i, a ≠ .lit i) :
      Reads .operand (.neg a) (.mark "-" :: ts)
  | parentheses {a : Formula} {ts : List Token} (h : Reads .sum a ts) :
      Reads .operand a (.mark "(" :: (ts ++ [.mark ")"]))
  | invert {a : Formula} {ts : List Token} (h : Reads .sum a ts) :
      Reads .operand (.invert a) (.name "invert" :: .mark "(" :: (ts ++ [.mark ")"]))
  | saturate {a : Formula} {ts : List Token} (h : Reads .sum a ts) :
      Reads .operand (.saturate a) (.name "saturate" :: .mark "(" :: (ts ++ [.mark ")"]))
  | deadband {a w : Formula} {ts us : List Token} (h : Reads .sum a ts) (hw : Reads .sum w us) :
      Reads .operand (.deadband a w)
        (.name "deadband" :: .mark "(" :: (ts ++ .mark "," :: (us ++ [.mark ")"])))
  | factor {a : Formula} {ts : List Token} (h : Reads .operand a ts) : Reads .product a ts
  | times {a b : Formula} {ts us : List Token} (o : Arithmetic) (ho : o.strength = 8)
      (ha : Reads .product a ts) (hb : Reads .operand b us) :
      Reads .product (.op o a b) (ts ++ .mark o.mark :: us)
  | term {a : Formula} {ts : List Token} (h : Reads .product a ts) : Reads .sum a ts
  | plus {a b : Formula} {ts us : List Token} (o : Arithmetic) (ho : o.strength = 7)
      (ha : Reads .sum a ts) (hb : Reads .product b us) :
      Reads .sum (.op o a b) (ts ++ .mark o.mark :: us)

/-- The tokens that a formula can begin with. -/
inductive Begins : List Token → Prop
  | int (i : Int64) (ts : List Token) : Begins (.int i :: ts)
  | name (n : String) (ts : List Token) : Begins (.name n :: ts)
  | minus (ts : List Token) : Begins (.mark "-" :: ts)
  | opening (ts : List Token) : Begins (.mark "(" :: ts)

theorem Begins.append {ts : List Token} (h : Begins ts) (rest : List Token) :
    Begins (ts ++ rest) := by
  cases h <;> constructor

theorem Reads.begins {role : Role} {f : Formula} {ts : List Token} (h : Reads role f ts) :
    Begins ts := by
  induction h with
  | lit i => exact .int i _
  | sample => exact .name _ _
  | minusLit | minus => exact .minus _
  | parentheses => exact .opening _
  | invert | saturate | deadband => exact .name _ _
  | factor _ ih => exact ih
  | times _ _ _ _ ih => exact ih.append _
  | term _ ih => exact ih
  | plus _ _ _ _ ih => exact ih.append _

/-- What may stand behind a formula: nothing, what closes or goes on with the arguments of a call,
or an operator that binds no tighter than `n`. -/
inductive Ends (n : ℕ) : List Token → Prop
  | nil : Ends n []
  | closing (rest : List Token) : Ends n (.mark ")" :: rest)
  | comma (rest : List Token) : Ends n (.mark "," :: rest)
  | op (o : Arithmetic) (ho : o.strength ≤ n) (rest : List Token) : Ends n (.mark o.mark :: rest)

theorem Ends.mono {m n : ℕ} {rest : List Token} (h : Ends m rest) (hmn : m ≤ n) :
    Ends n rest := by
  cases h with
  | nil => exact .nil
  | closing rest => exact .closing rest
  | comma rest => exact .comma rest
  | op o ho rest => exact .op o (Nat.le_trans ho hmn) rest

namespace Parser

theorem inCases_deeper {p p' : Place} (h : p.deeper = some p') : p'.inCases = p.inCases := by
  unfold Place.deeper at h
  split at h
  · cases h
  · cases h
    rfl

theorem joint?_of_ends {p : Place} (hp : p.inCases = false) {n : ℕ} {rest : List Token}
    (h : Ends n rest) : joint? p rest = none ∨
      ∃ i, joint? p rest = some i ∧ i.strength ≤ n ∧ i.toRight = false := by
  cases h with
  | nil => exact .inl rfl
  | closing rest => exact .inl (by rw [joint?, hp]; rfl)
  | comma rest => exact .inl (by rw [joint?, hp]; rfl)
  | op o ho rest => exact .inr ⟨_, o.joint?_mark hp rest, ho, rfl⟩

theorem links?_of_ends {fuel : ℕ} {p : Place} {root : Expr} {n : ℕ} {rest : List Token}
    (h : Ends n rest) {r : Expr × List Token} (hr : links? fuel p root [] rest = some r) :
    r = (root, rest) := by
  cases fuel with
  | zero => cases hr
  | succ fuel =>
    cases h with
    | nil => simpa [links?, chained, eq_comm] using hr
    | closing rest => simpa [links?, chained, eq_comm] using hr
    | comma rest => simpa [links?, chained, eq_comm] using hr
    | op o ho rest => cases o <;> simpa [links?, chained, Arithmetic.mark, eq_comm] using hr

/-! ### Operands -/

/-- Where an operand is expected, the parser reads some tokens as the formula `f`. -/
def Operand (f : Formula) (ts : List Token) : Prop :=
  ∀ ⦃fuel : ℕ⦄ ⦃p : Place⦄ ⦃rest : List Token⦄ ⦃r : Expr × List Token⦄, p.inCases = false →
    Ends 8 rest → operand? fuel p (ts ++ rest) = some r → r = (f.script, rest)

/-- Where an expression is expected, the parser reads some tokens as the formula `f`. -/
def Expression (f : Formula) (ts : List Token) : Prop :=
  ∀ ⦃fuel : ℕ⦄ ⦃p : Place⦄ ⦃rest : List Token⦄ ⦃r : Expr × List Token⦄, p.inCases = false →
    Ends 0 rest → expr? fuel p (ts ++ rest) = some r → r = (f.script, rest)

/-- Where the arguments of a call are expected, the parser reads some tokens as `args`. -/
def Arguments (args : List Expr) (ts : List Token) : Prop :=
  ∀ ⦃fuel : ℕ⦄ ⦃p : Place⦄ ⦃rest : List Token⦄ ⦃r : List Expr × List Token⦄, p.inCases = false →
    items? fuel p ")" (ts ++ rest) = some r → r = (args, rest)

/-- An operand without a sign. -/
theorem operand_of_root {f : Formula} {t : Token} {ts : List Token}
    (ht : ∀ m, t = .mark m → m = "(")
    (hroot : ∀ {fuel : ℕ} {p : Place} {rest : List Token} {r : Expr × List Token},
      p.inCases = false → Ends 8 rest → root? fuel p (t :: ts ++ rest) = some r →
        r = (f.script, rest)) : Operand f (t :: ts) := by
  intro fuel p rest r hp hends hread
  cases fuel with
  | zero => cases hread
  | succ fuel =>
    have hoperand : operand? (fuel + 1) p (t :: ts ++ rest) =
        p.deeper.bind fun p' => (root? fuel p' (t :: ts ++ rest)).bind fun q =>
          links? fuel p' q.1 [] q.2 := by
      cases t with
      | mark m =>
        obtain rfl := ht m rfl
        rfl
      | _ => rfl
    rw [hoperand] at hread
    obtain ⟨p', hp', hchain⟩ := Option.bind_eq_some_iff.mp hread
    obtain ⟨q, hq, hlinks⟩ := Option.bind_eq_some_iff.mp hchain
    rw [hroot ((inCases_deeper hp').trans hp) hends hq] at hlinks
    exact links?_of_ends hends hlinks

theorem operand_lit (i : Int64) : Operand (.lit i) [.int i] := by
  refine operand_of_root (by simp) fun {fuel p rest r} _ _ hread => ?_
  cases fuel with
  | zero => cases hread
  | succ fuel => exact (Option.some.inj hread).symm

theorem operand_sample : Operand .sample [.name ScriptLaw.sampleVariable] := by
  refine operand_of_root (by simp) fun {fuel p rest r} _ hends hread => ?_
  cases fuel with
  | zero => cases hread
  | succ fuel =>
    cases hends with
    | nil => exact (Option.some.inj hread).symm
    | closing rest => simpa [root?, Formula.script, eq_comm] using hread
    | comma rest => simpa [root?, Formula.script, eq_comm] using hread
    | op o ho rest =>
      cases o <;> simpa [root?, Formula.script, Arithmetic.mark, eq_comm] using hread

/-- A minus before an operand. -/
theorem operand_minus {a b : Formula} {ts : List Token} (ha : Operand a ts)
    (hscript : negated a.script = b.script) : Operand b (.mark "-" :: ts) := by
  intro fuel p rest r hp hends hread
  cases fuel with
  | zero => cases hread
  | succ fuel =>
    rw [List.cons_append, operand?] at hread
    obtain ⟨p', hp', hread⟩ := Option.bind_eq_some_iff.mp hread
    obtain ⟨q, hq, hread⟩ := Option.bind_eq_some_iff.mp hread
    rw [ha ((inCases_deeper hp').trans hp) hends hq] at hread
    rw [← hscript]
    exact (Option.some.inj hread).symm

theorem negated_lit {i j : Int64} (h : Integer.neg i = .ok j) :
    negated (Formula.lit i).script = (Formula.lit j).script := by
  rw [Formula.script, negated, h]
  rfl

theorem negated_script {a : Formula} (ha : ∀ i, a ≠ .lit i) :
    negated a.script = (Formula.neg a).script := by
  cases a with
  | lit i => exact absurd rfl (ha i)
  | _ => rfl

/-- Parentheses. -/
theorem operand_parentheses {a : Formula} {ts : List Token} (hbegins : Begins ts)
    (ha : Expression a ts) : Operand a (.mark "(" :: (ts ++ [.mark ")"])) := by
  refine operand_of_root (fun m hm => (Token.mark.inj hm).symm) fun {fuel p rest r} hp _ hread => ?_
  cases fuel with
  | zero => cases hread
  | succ fuel =>
    rw [List.cons_append, List.append_assoc, List.singleton_append] at hread
    have hroot : root? (fuel + 1) p (.mark "(" :: (ts ++ .mark ")" :: rest)) =
        p.deeper.bind fun p' => (expr? fuel p' (ts ++ .mark ")" :: rest)).bind fun q =>
          (skip ")" q.2).bind fun us => some (q.1, us) := by
      cases hbegins <;> rfl
    rw [hroot] at hread
    obtain ⟨p', hp', hexpr⟩ := Option.bind_eq_some_iff.mp hread
    obtain ⟨q, hq, hskip⟩ := Option.bind_eq_some_iff.mp hexpr
    rw [ha ((inCases_deeper hp').trans hp) (.closing rest) hq] at hskip
    exact (Option.some.inj hskip).symm

/-- Where arguments are expected, a formula is read first. -/
theorem items?_begin {a : Formula} {ts rest : List Token} (hbegins : Begins ts)
    (ha : Expression a ts) {fuel : ℕ} {p : Place} (hp : p.inCases = false) (hends : Ends 0 rest)
    {r : List Expr × List Token} (hread : items? (fuel + 1) p ")" (ts ++ rest) = some r) :
    (∃ us, skip "," rest = some us ∧ ∃ q, items? fuel p ")" us = some q ∧
      r = (a.script :: q.1, q.2)) ∨
    skip "," rest = none ∧ ∃ us, skip ")" rest = some us ∧ r = ([a.script], us) := by
  have hskip : skip ")" (ts ++ rest) = none := by
    cases hbegins <;> rfl
  rw [items?, hskip] at hread
  obtain ⟨q, hq, hread⟩ := Option.bind_eq_some_iff.mp hread
  rw [ha hp hends hq] at hread
  dsimp only at hread
  split at hread
  · next us hus =>
    obtain ⟨q, hq, hread⟩ := Option.bind_eq_some_iff.mp hread
    exact .inl ⟨us, hus, q, hq, (Option.some.inj hread).symm⟩
  · next hnone =>
    obtain ⟨us, hus, hread⟩ := Option.bind_eq_some_iff.mp hread
    exact .inr ⟨hnone, us, hus, (Option.some.inj hread).symm⟩

/-- The last argument. -/
theorem arguments_last {a : Formula} {ts : List Token} (hbegins : Begins ts)
    (ha : Expression a ts) : Arguments [a.script] (ts ++ [.mark ")"]) := by
  intro fuel p rest r hp hread
  cases fuel with
  | zero => cases hread
  | succ fuel =>
    rw [List.append_assoc] at hread
    rcases items?_begin hbegins ha hp (.closing rest) hread with ⟨us, hus, -⟩ | ⟨-, us, hus, rfl⟩
    · cases hus
    · cases hus
      rfl

/-- An argument with others behind it. -/
theorem arguments_more {a : Formula} {args : List Expr} {ts us : List Token} (hbegins : Begins ts)
    (ha : Expression a ts) (hargs : Arguments args us) :
    Arguments (a.script :: args) (ts ++ .mark "," :: us) := by
  intro fuel p rest r hp hread
  cases fuel with
  | zero => cases hread
  | succ fuel =>
    rw [List.append_assoc] at hread
    rcases items?_begin hbegins ha hp (.comma (us ++ rest)) hread with
      ⟨vs, hvs, q, hq, rfl⟩ | ⟨hnone, -⟩
    · cases hvs
      rw [hargs hp hq]
    · cases hnone

/-- A call. -/
theorem operand_call {f : Formula} {n : String} {args : List Expr} {ts : List Token}
    (hscript : f.script = .call n args) (hargs : Arguments args ts) :
    Operand f (.name n :: .mark "(" :: ts) := by
  refine operand_of_root (by simp) fun {fuel p rest r} hp _ hread => ?_
  cases fuel with
  | zero => cases hread
  | succ fuel =>
    rw [List.cons_append, List.cons_append, root?] at hread
    obtain ⟨p', hp', hitems⟩ := Option.bind_eq_some_iff.mp hread
    obtain ⟨q, hq, hcall⟩ := Option.bind_eq_some_iff.mp hitems
    rw [hargs ((inCases_deeper hp').trans hp) hq] at hcall
    rw [hscript]
    exact (Option.some.inj hcall).symm

/-! ### Joining -/

/-- The tail `us` of operators and operands, joined to the operand `a` among operators that bind
tighter than `least`, makes the formula `b` of it; behind it there may stand an operator that binds
no tighter than `n`. -/
def Joins (least n : ℕ) (a : Formula) (us : List Token) (b : Formula) : Prop :=
  ∀ ⦃fuel : ℕ⦄ ⦃p : Place⦄ ⦃rest : List Token⦄ ⦃r : Expr × List Token⦄, p.inCases = false →
    Ends n rest → joined? fuel p least a.script (us ++ rest) = some r →
      ∃ fuel' p', p'.inCases = false ∧ joined? fuel' p' least b.script rest = some r

theorem Joins.mono {least m n : ℕ} {a b : Formula} {us : List Token} (h : Joins least n a us b)
    (hmn : m ≤ n) : Joins least m a us b :=
  fun _ _ _ _ hp hends hread => h hp (hends.mono hmn) hread

theorem Joins.append {least n : ℕ} {a b c : Formula} {us vs : List Token}
    (h : Joins least n a us b) (o : Arithmetic) (ho : o.strength ≤ n)
    (h' : Joins least n b (.mark o.mark :: vs) c) :
    Joins least n a (us ++ .mark o.mark :: vs) c := by
  intro fuel p rest r hp hends hread
  rw [List.append_assoc] at hread
  obtain ⟨fuel', p', hp', hread'⟩ := h hp (.op o ho (vs ++ rest)) hread
  exact h' hp' hends hread'

/-- Where no operator binds tighter the operand is all. -/
theorem joined?_of_ends {fuel : ℕ} {p : Place} {least : ℕ} {e : Expr} {rest : List Token}
    {r : Expr × List Token} (hp : p.inCases = false) (hends : Ends least rest)
    (hread : joined? fuel p least e rest = some r) : r = (e, rest) := by
  cases fuel with
  | zero => cases hread
  | succ fuel =>
    rw [joined?] at hread
    rcases joint?_of_ends hp hends with hnone | ⟨i, hi, hstrength, hright⟩
    · rw [hnone] at hread
      exact (Option.some.inj hread).symm
    · rw [hi] at hread
      dsimp only at hread
      rw [if_pos (by simp [hright]; omega)] at hread
      exact (Option.some.inj hread).symm

/-- A tail that an operator leaves to the operand before it: none, or one that begins with an
operator that binds tighter. -/
inductive Tail (o : Arithmetic) : Formula → List Token → Formula → Prop
  | none (b : Formula) : Tail o b [] b
  | tighter {a b : Formula} (o' : Arithmetic) (ho' : o.strength < o'.strength) (us : List Token)
      (hjoins : Joins o.strength 8 a (.mark o'.mark :: us) b) : Tail o a (.mark o'.mark :: us) b

/-- Whether the operator that comes next takes the operand from one before it of strength `n`. -/
def binds (p : Place) (n : ℕ) (ts : List Token) : Bool :=
  match joint? p ts with
  | some next => n < next.strength
  | none => false

theorem binds_of_ends {p : Place} (hp : p.inCases = false) {n : ℕ} {rest : List Token}
    (h : Ends n rest) : binds p n rest = false := by
  rw [binds]
  rcases joint?_of_ends hp h with hnone | ⟨i, hi, hstrength, -⟩
  · rw [hnone]
  · rw [hi]
    simpa using hstrength

/-- What is read behind an operator. -/
theorem joined?_op {o : Arithmetic} {p : Place} (hp : p.inCases = false) {least fuel : ℕ}
    (hleast : least < o.strength) {e : Expr} {ts : List Token} {r : Expr × List Token}
    (hread : joined? (fuel + 1) p least e (.mark o.mark :: ts) = some r) :
    ∃ right, operand? fuel p ts = some right ∧ ∃ whole,
      (if binds p o.strength right.2 then joined? fuel p o.strength right.1 right.2
        else some right) = some whole ∧
      ∃ p', p.deeper = some p' ∧
        joined? fuel p' least (.binary o.binary e whole.1) whole.2 = some r := by
  rw [joined?, o.joint?_mark hp ts] at hread
  dsimp only at hread
  rw [if_neg (by simp; omega)] at hread
  obtain ⟨right, hright, hjoin⟩ := Option.bind_eq_some_iff.mp hread
  cases hnext : joint? p right.2 with
  | none =>
    rw [hnext] at hjoin
    dsimp only at hjoin
    rw [if_neg Bool.false_ne_true, Option.bind_eq_bind, Option.bind_some] at hjoin
    obtain ⟨p', hp', hlater⟩ := Option.bind_eq_some_iff.mp hjoin
    exact ⟨right, hright, right, by simp [binds, hnext], p', hp', hlater⟩
  | some next =>
    rw [hnext] at hjoin
    dsimp only at hjoin
    by_cases hlt : o.strength < next.strength
    · rw [if_pos (by simp [hlt])] at hjoin
      obtain ⟨whole, hwhole, hrest⟩ := Option.bind_eq_some_iff.mp hjoin
      obtain ⟨p', hp', hlater⟩ := Option.bind_eq_some_iff.mp hrest
      exact ⟨right, hright, whole, by simp [binds, hnext, hlt, hwhole], p', hp', hlater⟩
    · rw [if_neg (by simp [hlt]), Option.bind_eq_bind, Option.bind_some] at hjoin
      obtain ⟨p', hp', hlater⟩ := Option.bind_eq_some_iff.mp hjoin
      exact ⟨right, hright, right, by simp [binds, hnext, hlt], p', hp', hlater⟩

/-- An operator with its right operand, and with the tail of it. -/
theorem joins_op {o : Arithmetic} {least : ℕ} (hleast : least < o.strength) (a : Formula)
    {b₀ b : Formula} {us tail : List Token} (hb : Operand b₀ us) (htail : Tail o b₀ tail b) :
    Joins least o.strength a (.mark o.mark :: (us ++ tail)) (.op o a b) := by
  intro fuel p rest r hp hends hread
  cases fuel with
  | zero => cases hread
  | succ fuel =>
    rw [List.cons_append, List.append_assoc] at hread
    obtain ⟨right, hright, whole, hwhole, p', hp', hlater⟩ := joined?_op hp hleast hread
    refine ⟨fuel, p', (inCases_deeper hp').trans hp, ?_⟩
    suffices hsame : whole = (b.script, rest) by
      rw [hsame] at hlater
      exact hlater
    cases htail with
    | none =>
      -- the operator that comes next, if any, leaves the operand to this one
      rw [hb hp (hends.mono o.strength_le) hright] at hwhole
      rw [binds_of_ends hp hends] at hwhole
      exact (Option.some.inj hwhole).symm
    | tighter o' ho' vs hjoins =>
      rw [List.cons_append] at hright
      rw [hb hp (.op o' o'.strength_le (vs ++ rest)) hright] at hwhole
      have hbinds : binds p o.strength (.mark o'.mark :: (vs ++ rest)) = true := by
        rw [binds, o'.joint?_mark hp]
        exact decide_eq_true ho'
      rw [if_pos hbinds] at hwhole
      obtain ⟨fuel', p'', hp'', hall⟩ := hjoins hp (hends.mono o.strength_le) hwhole
      exact joined?_of_ends hp'' hends hall

/-! ### Products and sums -/

/-- An operand, alone or with a tail of operators that bind at least as tightly as `n`, which makes
the formula `f` of it. -/
inductive Chain (n : ℕ) (f : Formula) : List Token → Prop
  | single {ts : List Token} (h : Operand f ts) : Chain n f ts
  | more {a : Formula} {us : List Token} (ha : Operand a us) (o : Arithmetic)
      (ho : n ≤ o.strength) (tail : List Token)
      (hjoins : ∀ {least : ℕ}, least < n → Joins least n a (.mark o.mark :: tail) f) :
      Chain n f (us ++ .mark o.mark :: tail)

/-- A chain goes on with an operator that binds just as tightly. -/
theorem Chain.op {o : Arithmetic} {n : ℕ} (ho : o.strength = n) {a b₀ b : Formula}
    {ts us tail : List Token} (ha : Chain n a ts) (hb : Operand b₀ us) (htail : Tail o b₀ tail b) :
    Chain n (.op o a b) (ts ++ .mark o.mark :: (us ++ tail)) := by
  subst ho
  cases ha with
  | single ha =>
    exact .more ha o (Nat.le_refl _) (us ++ tail) fun hleast => joins_op hleast a hb htail
  | more ha o' ho' tail' hjoins =>
    rw [List.append_assoc, List.cons_append]
    refine .more ha o' ho' (tail' ++ .mark o.mark :: (us ++ tail)) fun hleast => ?_
    exact (hjoins hleast).append o (Nat.le_refl _) (joins_op hleast a hb htail)

/-- A sum goes on with a product. -/
theorem Chain.tail {o : Arithmetic} (ho : o.strength = 7) {b : Formula} {ts : List Token}
    (hb : Chain 8 b ts) :
    ∃ b₀ us tail, ts = us ++ tail ∧ Operand b₀ us ∧ Tail o b₀ tail b := by
  cases hb with
  | single hb => exact ⟨b, ts, [], (List.append_nil ts).symm, hb, .none b⟩
  | more hb o' ho' tail hjoins =>
    exact ⟨_, _, _, rfl, hb, .tighter o' (by omega) tail (hjoins (by omega))⟩

/-- A product is a sum. -/
theorem Chain.term {f : Formula} {ts : List Token} (h : Chain 8 f ts) : Chain 7 f ts := by
  cases h with
  | single h => exact .single h
  | more h o ho tail hjoins =>
    exact .more h o (by omega) tail fun hleast => (hjoins (by omega)).mono (by omega)

/-- A sum is an expression. -/
theorem Chain.expression {f : Formula} {ts : List Token} (h : Chain 7 f ts) : Expression f ts := by
  intro fuel p rest r hp hends hread
  cases fuel with
  | zero => cases hread
  | succ fuel =>
    rw [expr?] at hread
    obtain ⟨p', hdeeper, hdeep⟩ := Option.bind_eq_some_iff.mp hread
    obtain ⟨q, hq, hjoined⟩ := Option.bind_eq_some_iff.mp hdeep
    have hp' := (inCases_deeper hdeeper).trans hp
    cases h with
    | single h =>
      rw [h hp' (hends.mono (Nat.zero_le 8)) hq] at hjoined
      exact joined?_of_ends hp' hends hjoined
    | more h o ho tail hjoins =>
      rw [List.append_assoc] at hq
      rw [h hp' (.op o o.strength_le (tail ++ rest)) hq] at hjoined
      obtain ⟨fuel', p'', hp'', hall⟩ :=
        hjoins (by decide) hp' (hends.mono (Nat.zero_le 7)) hjoined
      exact joined?_of_ends hp'' hends hall

/-- What the parser makes of a part of a formula. -/
def Meant : Role → Formula → List Token → Prop
  | .operand => Operand
  | .product => Chain 8
  | .sum => Chain 7

/-- The parser reads each part as the grammar says. -/
theorem meant_of_reads {role : Role} {f : Formula} {ts : List Token} (h : Reads role f ts) :
    Meant role f ts := by
  induction h with
  | lit i => exact operand_lit i
  | sample => exact operand_sample
  | minusLit _ hopposite ih => exact operand_minus ih (negated_lit hopposite)
  | minus _ ha ih => exact operand_minus ih (negated_script ha)
  | parentheses h ih => exact operand_parentheses h.begins ih.expression
  | invert h ih => exact operand_call rfl (arguments_last h.begins ih.expression)
  | saturate h ih => exact operand_call rfl (arguments_last h.begins ih.expression)
  | deadband h hw ih ihw =>
    exact operand_call rfl
      (arguments_more h.begins ih.expression (arguments_last hw.begins ihw.expression))
  | factor _ ih => exact .single ih
  | times o ho _ _ iha ihb =>
    have hchain := iha.op ho ihb (.none _)
    rwa [List.append_nil] at hchain
  | term _ ih => exact ih.term
  | plus o ho _ _ iha ihb =>
    obtain ⟨b₀, us, tail, rfl, hb, htail⟩ := ihb.tail ho
    exact iha.op ho hb htail

/-- A formula is read as the grammar says, wherever an expression may stand. -/
theorem expr?_of_reads {f : Formula} {ts : List Token} (h : Reads .sum f ts) : Expression f ts :=
  (meant_of_reads h).expression

/-! ### Texts -/

variable {f : Formula} {ts : List Token}

/-- A formula that is all there is, is a statement. -/
theorem stmt?_of_reads (h : Reads .sum f ts) {fuel : ℕ} {p : Place} (hp : p.inCases = false)
    {r : Stmt × List (String × Bool) × List Token} (hread : stmt? fuel p ts = some r) :
    r = (.expr f.script, p.scope, []) := by
  cases fuel with
  | zero => cases hread
  | succ fuel =>
    -- an expression is read, and what is done with it depends on what stands behind it
    have hstmt : ∃ k : Place → Expr × List Token → _, stmt? (fuel + 1) p ts =
        (p.deeper.bind fun p' => (expr? fuel p' ts).bind (k p')) ∧
        ∀ p' e, k p' (e, []) = some (.expr e, p.scope, []) := by
      cases h.begins <;> exact ⟨_, rfl, fun _ _ => rfl⟩
    obtain ⟨k, hk, hnothing⟩ := hstmt
    rw [hk] at hread
    obtain ⟨p', hp', hexpr⟩ := Option.bind_eq_some_iff.mp hread
    obtain ⟨q, hq, hrest⟩ := Option.bind_eq_some_iff.mp hexpr
    rw [← List.append_nil ts] at hq
    rw [expr?_of_reads h ((inCases_deeper hp').trans hp) .nil hq, hnothing] at hrest
    exact (Option.some.inj hrest).symm

/-- It is also a script. -/
theorem program?_of_reads (h : Reads .sum f ts) {fuel : ℕ} {q : Program}
    (hread : program? fuel {} [] ts = some q) : q = f.program := by
  cases fuel with
  | zero => cases hread
  | succ fuel =>
    have hprogram : ∃ k : Stmt × List (String × Bool) × List Token → _,
        program? (fuel + 1) {} [] ts = (stmt? fuel {} ts).bind k ∧
        ∀ e, k (.expr e, [], []) = (program? fuel {} [] []).bind fun more =>
          some { more with body := .expr e :: more.body } := by
      cases h.begins <;> exact ⟨_, rfl, fun _ => rfl⟩
    obtain ⟨k, hk, hnothing⟩ := hprogram
    rw [hk] at hread
    obtain ⟨r, hr, hrest⟩ := Option.bind_eq_some_iff.mp hread
    rw [stmt?_of_reads h rfl hr, hnothing] at hrest
    obtain ⟨more, hmore, hwhole⟩ := Option.bind_eq_some_iff.mp hrest
    cases fuel with
    | zero => cases hmore
    | succ fuel =>
      cases hmore
      exact (Option.some.inj hwhole).symm

end Parser

/-- A text that is a formula by the grammar is parsed to it, or refused. -/
theorem Program.parse?_of_reads {source : String} {f : Formula} {ts : List Token}
    (htokens : Lexer.tokens? source = some ts) (h : Reads .sum f ts) {q : Program}
    (hparse : Program.parse? source = some q) : q = f.program := by
  rw [Program.parse?, htokens] at hparse
  exact Parser.program?_of_reads h hparse

end Telemetry.Script
