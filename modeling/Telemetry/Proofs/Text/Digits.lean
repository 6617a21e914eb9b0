/-
Numbers written in digits.

`Nat.toDigits radix n` writes a number in a radix up to sixteen without leading zeros. What is
read back from it:

* **`Digit.number_toDigits`** — the digits stand for the number;
* **`Digit.isOf_of_mem_toDigits`** — all of them are digits of the radix;
* **`Digit.head?_toDigits`** — the first one is no zero, unless it is the only one.

The induction is always on the number, which loses its last digit at each step.
-/
import Telemetry.Text.Digit

namespace Telemetry.Digit

theorem value?_digitChar {d : Nat} (h : d < 16) : value? d.digitChar = some d := by
  have hall : ∀ d < 16, value? (Nat.digitChar d) = some d := by decide
  exact hall d h

theorem isOf_digitChar {radix d : Nat} (hradix : radix ≤ 16) (h : d < radix) :
    isOf radix d.digitChar = true := by
  rw [isOf, value?_digitChar (by omega)]
  simpa using h

theorem digitChar_ne_zero {d : Nat} (h : 0 < d) (hd : d < 16) : d.digitChar ≠ '0' := by
  intro hzero
  have hvalue := value?_digitChar hd
  rw [hzero] at hvalue
  simp [value?] at hvalue
  omega

/-- The value of digits with one more behind them. -/
theorem number_concat (radix : Nat) (ds : List Char) (c : Char) :
    number radix (ds ++ [c]) = number radix ds * radix + (value? c).getD 0 := by
  simp [number, List.foldl_append]

variable {radix : Nat}

/-- The digits of a number are digits of values below the radix. -/
theorem exists_of_mem_toDigits (hradix : 1 < radix) (n : Nat) {c : Char}
    (hc : c ∈ Nat.toDigits radix n) : ∃ d < radix, c = d.digitChar := by
  induction n using Nat.strongRecOn with
  | ind n ih =>
    rw [Nat.toDigits_eq_if hradix] at hc
    split at hc
    · rename_i hn
      exact ⟨n, hn, List.mem_singleton.mp hc⟩
    · rename_i hn
      rw [List.mem_append, List.mem_singleton] at hc
      rcases hc with hc | hc
      · exact ih (n / radix) (Nat.div_lt_self (by omega) hradix) hc
      · exact ⟨n % radix, Nat.mod_lt n (by omega), hc⟩

/-- The digits of a number are digits of the radix. -/
theorem isOf_of_mem_toDigits (hradix : 1 < radix) (hle : radix ≤ 16) {n : Nat} {c : Char}
    (hc : c ∈ Nat.toDigits radix n) : isOf radix c = true := by
  obtain ⟨d, hd, rfl⟩ := exists_of_mem_toDigits hradix n hc
  exact isOf_digitChar hle hd

/-- The digits of a number stand for it. -/
theorem number_toDigits (hradix : 1 < radix) (hle : radix ≤ 16) (n : Nat) :
    number radix (Nat.toDigits radix n) = n := by
  induction n using Nat.strongRecOn with
  | ind n ih =>
    rw [Nat.toDigits_eq_if hradix]
    split
    · rename_i hn
      simp [number, value?_digitChar (show n < 16 by omega)]
    · rename_i hn
      have hlast : n % radix < radix := Nat.mod_lt n (by omega)
      rw [number_concat, ih (n / radix) (Nat.div_lt_self (by omega) hradix),
        value?_digitChar (by omega), Option.getD_some, Nat.mul_comm]
      exact Nat.div_add_mod n radix

/-- The first digit of a number is no zero, unless the number is. -/
theorem head?_toDigits (hradix : 1 < radix) (hle : radix ≤ 16) {n : Nat} (hn : 0 < n) :
    (Nat.toDigits radix n).head? ≠ some '0' := by
  induction n using Nat.strongRecOn with
  | ind n ih =>
    rw [Nat.toDigits_eq_if hradix]
    split
    · rename_i hlt
      simpa using digitChar_ne_zero hn (by omega)
    · rename_i hge
      have hrest : 0 < n / radix := Nat.div_pos (by omega) (by omega)
      have hhead := ih (n / radix) (Nat.div_lt_self hn hradix) hrest
      obtain ⟨c, cs, hcs⟩ :=
        List.exists_cons_of_ne_nil (Nat.toDigits_ne_nil : Nat.toDigits radix (n / radix) ≠ [])
      rw [hcs] at hhead ⊢
      exact hhead

end Telemetry.Digit
