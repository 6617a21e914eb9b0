/-
How exact the percentage of a record is.

The runtime is divided by a hundredth of the epoch, and the hundredth is rounded down before. So
the percentage is never too low, and it is too high by what the rounding leaves out: much for an
epoch of a few ticks, and less than one percent from ten thousand ticks on.

* `Record.hundredth` — what the runtime is divided by, which is never zero;
* `Record.cpuPercent_le_iff`, `Record.le_cpuPercent` — the percentage against any bound;
* `Record.cpuPercent_mono`, `Record.cpuPercent_anti` — more runtime, and a longer epoch;
* `Record.cpuPercent_accurate` — the bounds on the percentage of a task that has not run for
  longer than the epoch, and that 64 bits are enough to compute it.
-/
import Mathlib.Tactic.Ring
import Telemetry.Monitor.Record

namespace Telemetry

namespace Record

/-- A hundredth of the epoch rounded down, but one tick at least. -/
def hundredth (r : Record) : ℕ := max 1 (r.deltaTotal / 100)

/-- The percentage in words of 64 bits, if it divides by anything but zero. -/
def percentWord? (runtime total : UInt64) : Option UInt64 :=
  let divisor := max 1 (total / 100)
  if divisor = 0 then none else some (max 1 (runtime / divisor))

/-- The record with figures that are words of 64 bits. -/
def measured (r : Record) (runtime total : UInt64) : Record :=
  { r with deltaRuntime := runtime.toNat, deltaTotal := total.toNat }

variable {r r' : Record} {n : ℕ}

theorem hundredth_pos (r : Record) : 0 < r.hundredth :=
  Nat.le_max_left 1 _

theorem hundredth_eq (h : 100 ≤ r.deltaTotal) : r.hundredth = r.deltaTotal / 100 := by
  rw [hundredth]
  omega

theorem one_le_cpuPercent (r : Record) : 1 ≤ r.cpuPercent :=
  Nat.le_max_left 1 _

/-- The percentage is at most `n` when the runtime does not come to `n + 1` hundredths. -/
theorem cpuPercent_le_iff : r.cpuPercent ≤ n ↔ 1 ≤ n ∧ r.deltaRuntime < (n + 1) * r.hundredth := by
  rw [cpuPercent, Nat.max_le]
  exact and_congr_right fun _ =>
    Nat.lt_succ_iff.symm.trans (Nat.div_lt_iff_lt_mul r.hundredth_pos)

/-- The percentage is at least `n` when the runtime comes to `n` hundredths. -/
theorem le_cpuPercent (h : n * r.hundredth ≤ r.deltaRuntime) : n ≤ r.cpuPercent :=
  Nat.le_trans ((Nat.le_div_iff_mul_le r.hundredth_pos).mpr h) (Nat.le_max_right 1 _)

/-! ### More runtime, longer epochs -/

theorem cpuPercent_mono (htotal : r.deltaTotal = r'.deltaTotal)
    (hruntime : r.deltaRuntime ≤ r'.deltaRuntime) : r.cpuPercent ≤ r'.cpuPercent := by
  obtain ⟨hone, hlt⟩ := cpuPercent_le_iff.mp (Nat.le_refl r'.cpuPercent)
  refine cpuPercent_le_iff.mpr ⟨hone, Nat.lt_of_le_of_lt hruntime ?_⟩
  rwa [hundredth, htotal]

theorem hundredth_mono (htotal : r.deltaTotal ≤ r'.deltaTotal) : r.hundredth ≤ r'.hundredth := by
  rw [hundredth, hundredth]
  omega

theorem cpuPercent_anti (hruntime : r.deltaRuntime = r'.deltaRuntime)
    (htotal : r.deltaTotal ≤ r'.deltaTotal) : r'.cpuPercent ≤ r.cpuPercent := by
  obtain ⟨hone, hlt⟩ := cpuPercent_le_iff.mp (Nat.le_refl r.cpuPercent)
  refine cpuPercent_le_iff.mpr ⟨hone, ?_⟩
  rw [← hruntime]
  exact Nat.lt_of_lt_of_le hlt (Nat.mul_le_mul_left _ (hundredth_mono htotal))

/-! ### Tasks that have not run for longer than the epoch -/

/-- An epoch is shorter than two hundred of its hundredths. -/
theorem cpuPercent_le_of_le (h : r.deltaRuntime ≤ r.deltaTotal) : r.cpuPercent ≤ 199 := by
  refine cpuPercent_le_iff.mpr ⟨by decide, Nat.lt_of_le_of_lt h ?_⟩
  rw [hundredth]
  omega

/-- In the longest epoch whose hundredth is a single tick, the bound is reached. -/
example : (⟨1, "Sensor", 0, 0, 199, 199⟩ : Record).cpuPercent = 199 := by decide

/-- A long epoch is shorter than a hundred and one of its hundredths. -/
theorem cpuPercent_le_hundred (h : r.deltaRuntime ≤ r.deltaTotal) (hlong : 10000 ≤ r.deltaTotal) :
    r.cpuPercent ≤ 100 := by
  refine cpuPercent_le_iff.mpr ⟨by decide, Nat.lt_of_le_of_lt h ?_⟩
  rw [hundredth_eq (Nat.le_trans (by decide) hlong)]
  omega

/-- One tick less, and the epoch is not long enough. -/
example : (⟨1, "Sensor", 0, 0, 9999, 9999⟩ : Record).cpuPercent = 101 := by decide

/-- The percentage is never too low. -/
theorem floor_le_cpuPercent (htotal : 100 ≤ r.deltaTotal) :
    100 * r.deltaRuntime / r.deltaTotal ≤ r.cpuPercent := by
  refine le_cpuPercent ?_
  have hfloor : 100 * r.deltaRuntime / r.deltaTotal * r.deltaTotal ≤ 100 * r.deltaRuntime :=
    Nat.div_mul_le_self _ _
  have hhundredth : 100 * r.hundredth ≤ r.deltaTotal := by
    rw [hundredth_eq htotal]
    exact Nat.mul_div_le _ _
  generalize 100 * r.deltaRuntime / r.deltaTotal = floor at hfloor ⊢
  refine Nat.le_of_mul_le_mul_left ?_ (show 0 < 100 by decide)
  calc 100 * (floor * r.hundredth) = floor * (100 * r.hundredth) := by ring
    _ ≤ floor * r.deltaTotal := Nat.mul_le_mul_left _ hhundredth
    _ ≤ 100 * r.deltaRuntime := hfloor

/-- In a long epoch the percentage is too high by one at most: what the rounding of the hundredth
leaves out, added up over a hundred of them, is less than one of them. -/
theorem cpuPercent_le_floor (h : r.deltaRuntime ≤ r.deltaTotal) (hlong : 10000 ≤ r.deltaTotal) :
    r.cpuPercent ≤ 100 * r.deltaRuntime / r.deltaTotal + 1 := by
  have hpos : 0 < r.deltaTotal := Nat.lt_of_lt_of_le (by decide) hlong
  have hexact :
      100 * r.deltaRuntime < (100 * r.deltaRuntime / r.deltaTotal + 1) * r.deltaTotal := by
    rw [Nat.mul_comm _ r.deltaTotal]
    exact Nat.lt_mul_div_succ _ hpos
  have hshare : 100 * r.deltaRuntime / r.deltaTotal ≤ 100 :=
    Nat.div_le_of_le_mul (by rw [Nat.mul_comm]; exact Nat.mul_le_mul_right _ h)
  have hrounded : r.deltaTotal ≤ 100 * r.hundredth + 99 ∧ 100 ≤ r.hundredth := by
    rw [hundredth_eq (Nat.le_trans (by decide) hlong)]
    omega
  refine cpuPercent_le_iff.mpr ⟨Nat.le_add_left 1 _, ?_⟩
  generalize 100 * r.deltaRuntime / r.deltaTotal = floor at hexact hshare ⊢
  refine Nat.lt_of_mul_lt_mul_left (a := 100) ?_
  calc 100 * r.deltaRuntime < (floor + 1) * r.deltaTotal := hexact
    _ ≤ (floor + 1) * (100 * r.hundredth + 99) := Nat.mul_le_mul_left _ hrounded.1
    _ = 100 * ((floor + 1) * r.hundredth) + 99 * (floor + 1) := by ring
    _ ≤ 100 * ((floor + 1) * r.hundredth) + 100 * r.hundredth := by omega
    _ = 100 * ((floor + 1 + 1) * r.hundredth) := by ring

/-- Words of 64 bits are enough, and the division is never by zero. -/
theorem percentWord?_eq (r : Record) (runtime total : UInt64) :
    (percentWord? runtime total).map (·.toNat) = some (r.measured runtime total).cpuPercent := by
  have hmax : ∀ w : UInt64, (max 1 w).toNat = max 1 w.toNat := by
    intro w
    show (if 1 ≤ w then w else 1).toNat = max 1 w.toNat
    rw [Nat.max_def]
    exact apply_ite UInt64.toNat (1 ≤ w) w 1
  have hdivisor : max 1 (total / 100) ≠ 0 := by
    intro hzero
    have hnat := hmax (total / 100)
    rw [hzero] at hnat
    exact absurd (hnat ▸ Nat.le_max_left 1 _) (by decide)
  simp only [percentWord?, if_neg hdivisor, Option.map_some, hmax, UInt64.toNat_div]
  rfl

/-- **The percentage is accurate.** It is computed without a division by zero, in words of 64 bits
as in natural numbers; it is one at least; it does not fall with the runtime and does not rise
with the epoch. When the task has not run for longer than the epoch, it is 199 at most; it is not
below the exact share rounded down, from a hundred ticks on; and from ten thousand ticks on it is
100 at most and one above the exact share rounded down at most. -/
theorem cpuPercent_accurate (r r' : Record) (runtime total : UInt64) :
    (percentWord? runtime total).map (·.toNat) = some (r.measured runtime total).cpuPercent ∧
    1 ≤ r.cpuPercent ∧
    (r.deltaTotal = r'.deltaTotal → r.deltaRuntime ≤ r'.deltaRuntime →
      r.cpuPercent ≤ r'.cpuPercent) ∧
    (r.deltaRuntime = r'.deltaRuntime → r.deltaTotal ≤ r'.deltaTotal →
      r'.cpuPercent ≤ r.cpuPercent) ∧
    (r.deltaRuntime ≤ r.deltaTotal →
      r.cpuPercent ≤ 199 ∧
      (100 ≤ r.deltaTotal → 100 * r.deltaRuntime / r.deltaTotal ≤ r.cpuPercent) ∧
      (10000 ≤ r.deltaTotal →
        r.cpuPercent ≤ 100 ∧ r.cpuPercent ≤ 100 * r.deltaRuntime / r.deltaTotal + 1)) :=
  ⟨r.percentWord?_eq runtime total, r.one_le_cpuPercent, cpuPercent_mono, cpuPercent_anti,
    fun h => ⟨cpuPercent_le_of_le h, floor_le_cpuPercent, fun hlong =>
      ⟨cpuPercent_le_hundred h hlong, cpuPercent_le_floor h hlong⟩⟩⟩

/-- A task that has not run for the whole epoch, but for a hundred rounded hundredths of it. -/
def rounded : Record := ⟨1, "Sensor", 262144, 1000, 10000, 10099⟩

theorem cpuPercent_accurate_rounded :
    rounded.cpuPercent ≤ { rounded with deltaRuntime := 10099 }.cpuPercent ∧
    { rounded with deltaTotal := 20000 }.cpuPercent ≤ rounded.cpuPercent ∧
    99 ≤ rounded.cpuPercent ∧ rounded.cpuPercent ≤ 99 + 1 := by
  obtain ⟨-, -, hmono, -, hshare⟩ :=
    cpuPercent_accurate rounded { rounded with deltaRuntime := 10099 } 10000 10099
  obtain ⟨-, -, -, hanti, -⟩ :=
    cpuPercent_accurate rounded { rounded with deltaTotal := 20000 } 10000 10099
  obtain ⟨-, hfloor, hlong⟩ := hshare (by decide)
  exact ⟨hmono rfl (by decide), hanti rfl (by decide), hfloor (by decide), (hlong (by decide)).2⟩

end Record

end Telemetry
