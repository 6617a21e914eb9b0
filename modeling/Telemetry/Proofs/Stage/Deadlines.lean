/-
Deadlines do not drift.

A timer adds its period to the last deadline and never to the reading of the clock, so after any
number of waits its deadline is known without knowing what the clock read:

* `Timer.scheduled` — the timer after a number of waits;
* `Timer.wait_missed_iff`, `Timer.wait_slept_iff` — when one wait is late, and by how much;
* `Timer.waits_scheduled` — the waits at any readings of a clock;
* `Timer.selfDriven_scheduled` — the waits on a clock that advances only while the timer sleeps;
* `Timer.drift_free` — the schedule whatever the clock read, and how a late start is caught up.

Design notes: a self-driven clock shows the larger of its first reading and the last deadline.
This holds across the change from late waits to sleeping ones, so one induction covers both.
-/
import Mathlib.Tactic.Linarith
import Mathlib.Tactic.Positivity
import Mathlib.Tactic.Ring
import Telemetry.Timer

namespace Telemetry

namespace Timer

/-! ### One wait -/

theorem wait_of_le {t : Timer} {now : Instant} (h : t.nextDeadline ≤ now) :
    (t.wait now).1 = .missed (now - t.nextDeadline).toNat := by
  simp only [wait, if_pos h]

theorem wait_of_lt {t : Timer} {now : Instant} (h : now < t.nextDeadline) :
    (t.wait now).1 = .slept (t.nextDeadline - now).toNat := by
  simp only [wait, if_neg (not_le.mpr h)]

/-- The size of a difference that is not negative. -/
theorem toNat_sub_eq_iff {a b : ℤ} {n : ℕ} (h : b ≤ a) :
    (a - b).toNat = n ↔ (n : ℤ) = a - b := by
  omega

/-- A wait is late exactly when the clock has reached the deadline, by what it is past it. -/
theorem wait_missed_iff (t : Timer) (now : Instant) (late : Duration) :
    (t.wait now).1 = .missed late ↔ t.nextDeadline ≤ now ∧ (late : ℤ) = now - t.nextDeadline := by
  rcases le_or_gt t.nextDeadline now with hle | hlt
  · rw [wait_of_le hle, Wait.missed.injEq, toNat_sub_eq_iff hle, and_iff_right hle]
  · rw [wait_of_lt hlt]
    exact iff_of_false (by simp) fun h => absurd h.1 (not_le.mpr hlt)

/-- A wait that is not late sleeps for the time that remains. -/
theorem wait_slept_iff (t : Timer) (now : Instant) (d : Duration) :
    (t.wait now).1 = .slept d ↔ now < t.nextDeadline ∧ (d : ℤ) = t.nextDeadline - now := by
  rcases le_or_gt t.nextDeadline now with hle | hlt
  · rw [wait_of_le hle]
    exact iff_of_false (by simp) fun h => absurd h.1 (not_lt.mpr hle)
  · rw [wait_of_lt hlt, Wait.slept.injEq, toNat_sub_eq_iff hlt.le, and_iff_right hlt]

/-- A clock that advances through sleeps only stands at the deadline after a wait, unless it was
past it before. -/
theorem after_wait (t : Timer) (now : Instant) :
    after now (t.wait now).1 = max now t.nextDeadline := by
  rcases le_or_gt t.nextDeadline now with hle | hlt
  · rw [wait_of_le hle, max_eq_left hle, after]
  · rw [wait_of_lt hlt, max_eq_right hlt.le, after,
      Int.toNat_of_nonneg (Int.sub_nonneg_of_le hlt.le)]
    exact add_sub_cancel now t.nextDeadline

/-! ### Any readings -/

/-- The waits of a timer at the readings of a clock, one reading for each wait, and the timer
after them. -/
def waits (t : Timer) : List Instant → List Wait × Timer
  | [] => ([], t)
  | now :: rest => ((t.wait now).1 :: (waits (t.wait now).2 rest).1, (waits (t.wait now).2 rest).2)

theorem length_waits (t : Timer) (readings : List Instant) :
    (t.waits readings).1.length = readings.length := by
  induction readings generalizing t with
  | nil => rfl
  | cons now rest ih => rw [waits, List.length_cons, List.length_cons, ih]

/-- A timer that started at `start`, after `n` waits. -/
def scheduled (start : Instant) (period : Duration) (n : ℕ) : Timer := ⟨period, start + n * period⟩

theorem startingAt_eq (start : Instant) (period : Duration) :
    startingAt start period = scheduled start period 0 := by
  simp [startingAt, scheduled]

theorem nextDeadline_scheduled (start : Instant) (period : Duration) (n : ℕ) :
    (scheduled start period n).nextDeadline = start + (n + 1) * period := by
  simp only [nextDeadline, scheduled]
  ring

/-- A wait moves the timer on by one deadline, late or not. -/
theorem wait_scheduled (start : Instant) (period : Duration) (n : ℕ) (now : Instant) :
    ((scheduled start period n).wait now).2 = scheduled start period (n + 1) := by
  show (⟨period, (scheduled start period n).nextDeadline⟩ : Timer) = _
  rw [nextDeadline_scheduled, scheduled]
  push_cast
  rfl

theorem waits_scheduled (start : Instant) (period : Duration) (readings : List Instant) : ∀ k : ℕ,
    ((scheduled start period k).waits readings).2 =
      scheduled start period (k + readings.length) ∧
    ∀ n : ℕ, ((scheduled start period k).waits readings).1[n]? =
      readings[n]?.map fun now => ((scheduled start period (k + n)).wait now).1 := by
  induction readings with
  | nil => exact fun k => ⟨rfl, fun n => rfl⟩
  | cons now rest ih =>
    intro k
    obtain ⟨htimer, hwaits⟩ := ih (k + 1)
    simp only [waits, wait_scheduled]
    refine ⟨?_, fun n => ?_⟩
    · rw [htimer, List.length_cons, Nat.add_right_comm, Nat.add_assoc]
    · rcases n with _ | n
      · rfl
      · rw [List.getElem?_cons_succ, List.getElem?_cons_succ, hwaits n, Nat.add_right_comm,
          Nat.add_assoc]

/-! ### A clock that advances through sleeps only -/

/-- The reading of such a clock at the wait that comes after `n` others; it read `now` at the
first. -/
def reading (start : Instant) (period : Duration) (now : Instant) : ℕ → Instant
  | 0 => now
  | n + 1 => max now (start + (n + 1) * period)

/-- How far the clock has run by then. -/
theorem reading_eq (start : Instant) (period : Duration) (now : Instant) (n : ℕ) :
    reading start period now n =
      now + if n = 0 then 0 else max 0 (start - now + n * period) := by
  rcases n with _ | n
  · rw [reading, if_pos rfl, add_zero]
  · rw [reading, if_neg (Nat.succ_ne_zero n), ← max_add_add_left, add_zero]
    push_cast
    ring_nf

/-- At a deadline that was past at the beginning the clock has not run yet. -/
theorem reading_of_past (start : Instant) (period : Duration) (now : Instant) (n : ℕ)
    (hpast : start - now + (n + 1) * period ≤ 0) : reading start period now n = now := by
  have hbefore : start - now + n * (period : ℤ) ≤ 0 := by
    have hnext : ((n : ℤ) + 1) * period = n * period + period := by ring
    have hperiod : (0 : ℤ) ≤ period := by positivity
    linarith
  rw [reading_eq]
  split
  · exact add_zero now
  · rw [max_eq_left hbefore, add_zero]

/-- The clock stands at a deadline only if that was past at the beginning, since the deadline
that it last slept for is a period earlier. -/
theorem le_reading_iff (start : Instant) {period : Duration} (hperiod : 0 < period) (now : Instant)
    (n : ℕ) :
    start + (n + 1) * period ≤ reading start period now n ↔ start - now + (n + 1) * period ≤ 0 := by
  have hpositive : (0 : ℤ) < period := by exact_mod_cast hperiod
  have hnext : ((n : ℤ) + 1) * period = n * period + period := by ring
  constructor
  · intro hreached
    rw [reading_eq] at hreached
    by_contra hahead
    split at hreached
    · linarith
    · rcases max_choice 0 (start - now + n * (period : ℤ)) with hnever | hslept
      · rw [hnever] at hreached
        linarith
      · rw [hslept] at hreached
        linarith
  · intro hpast
    rw [reading_of_past start period now n hpast]
    linarith

/-- Behind its first wait such a clock goes on as one that begins there. -/
theorem reading_after (start : Instant) (period : Duration) (k : ℕ) (now : Instant) (n : ℕ) :
    reading (start + (k + 1 : ℕ) * period) period
        (after now ((scheduled start period k).wait now).1) n =
      reading (start + k * period) period now (n + 1) := by
  rw [after_wait, nextDeadline_scheduled]
  rcases n with _ | n
  · simp only [reading]
    push_cast
    ring_nf
  · -- the deadline of the first wait lies before the one that this wait comes after
    have hsame : start + (k + 1) * (period : ℤ) + (n + 1) * period =
        start + k * period + (n + 1 + 1) * period := by ring
    have hbefore : start + (k + 1) * (period : ℤ) ≤
        start + k * period + (n + 1 + 1) * period := by
      rw [← hsame]
      exact Int.le_add_of_nonneg_right (by positivity)
    simp only [reading]
    push_cast
    rw [hsame, max_assoc, max_eq_right hbefore]

/-- The waits of a timer that has waited `k` times before. -/
theorem selfDriven_scheduled (start : Instant) (period : Duration) (rounds : ℕ) :
    ∀ (k : ℕ) (now : Instant) (n : ℕ), n < rounds →
      (selfDriven rounds now (scheduled start period k))[n]? =
        some (((scheduled start period (k + n)).wait
          (reading (start + k * period) period now n)).1, scheduled start period (k + n + 1)) := by
  induction rounds with
  | zero => exact fun _ _ _ h => absurd h (Nat.not_lt_zero _)
  | succ rounds ih =>
    intro k now n hn
    rcases n with _ | n
    · rw [selfDriven, List.getElem?_cons_zero, wait_scheduled]
      rfl
    · have hlater := ih (k + 1) (after now ((scheduled start period k).wait now).1) n
        (Nat.lt_of_succ_lt_succ hn)
      rw [reading_after, Nat.add_right_comm k 1 n] at hlater
      rw [selfDriven, List.getElem?_cons_succ, wait_scheduled]
      exact hlater

/-- Deadlines do not drift. Whatever the clock read at the waits, each moves the schedule by one
period; a wait is late exactly when the clock has reached its deadline, by what it is past it, and
otherwise it sleeps for exactly the time that remains. On a clock that advances only through these
sleeps, the waits whose deadlines had passed at the beginning are late, one after the other, each
by what its own deadline was past, and all others sleep. -/
theorem drift_free (start : Instant) (period : Duration) :
    (∀ readings : List Instant,
      let done := (startingAt start period).waits readings
      done.2.nextDeadline = start + (readings.length + 1) * period ∧
      done.1.length = readings.length ∧
      ∀ (n : ℕ) (now : Instant), readings[n]? = some now → ∃ w, done.1[n]? = some w ∧
        (∀ late : Duration, w = .missed late ↔
          start + (n + 1) * period ≤ now ∧ (late : ℤ) = now - (start + (n + 1) * period)) ∧
        (∀ d : Duration, w = .slept d ↔
          now < start + (n + 1) * period ∧ (d : ℤ) = start + (n + 1) * period - now)) ∧
    (0 < period → ∀ (now : Instant) (rounds n : ℕ), n < rounds →
      let offset := start - now
      ∃ w t, (selfDriven rounds now (startingAt start period))[n]? = some (w, t) ∧
        t.nextDeadline = start + (n + 2) * period ∧
        (∀ late : Duration, w = .missed late ↔
          offset + (n + 1) * period ≤ 0 ∧ (late : ℤ) = -(offset + (n + 1) * period)) ∧
        (∀ d : Duration, w = .slept d ↔ 0 < offset + (n + 1) * period ∧
          (d : ℤ) =
            offset + (n + 1) * period - if n = 0 then 0 else max 0 (offset + n * period))) := by
  rw [startingAt_eq]
  refine ⟨fun readings => ?_, fun hperiod now rounds n hn => ?_⟩
  · obtain ⟨htimer, hwaits⟩ := waits_scheduled start period readings 0
    rw [Nat.zero_add] at htimer
    refine ⟨?_, length_waits _ readings, fun n now hnow => ?_⟩
    · rw [htimer, nextDeadline_scheduled]
    · refine ⟨_, (hwaits n).trans (by rw [hnow]; rfl), fun late => ?_, fun d => ?_⟩
      · rw [wait_missed_iff, Nat.zero_add, nextDeadline_scheduled]
      · rw [wait_slept_iff, Nat.zero_add, nextDeadline_scheduled]
  · have hwait := selfDriven_scheduled start period rounds 0 now n hn
    rw [Nat.zero_add] at hwait
    refine ⟨_, _, hwait, ?_, fun late => ?_, fun d => ?_⟩
    · rw [nextDeadline_scheduled]
      push_cast
      ring
    · rw [Nat.cast_zero, zero_mul, add_zero, wait_missed_iff, nextDeadline_scheduled,
        le_reading_iff start hperiod now n]
      refine and_congr_right fun hpast => ?_
      rw [reading_of_past start period now n hpast]
      ring_nf
    · rw [Nat.cast_zero, zero_mul, add_zero, wait_slept_iff, nextDeadline_scheduled,
        ← not_le, le_reading_iff start hperiod now n, not_le, reading_eq]
      ring_nf

/-- A timer with the period ten: a wait that comes two late leaves the next one its full time up
to the deadline. When it starts twenty-five ago, the first two waits are late, by fifteen and by
five, and the third sleeps for what is left of its period. -/
theorem drift_free_catchingUp :
    ((startingAt 0 10).waits [12, 13]).1 = [.missed 2, .slept 7] ∧
    ((startingAt 0 10).waits [12, 13]).2.nextDeadline = 30 ∧
    (∃ t, (selfDriven 3 0 (startingAt (-25) 10))[0]? = some (.missed 15, t)) ∧
    (∃ t, (selfDriven 3 0 (startingAt (-25) 10))[1]? = some (.missed 5, t)) ∧
    ∃ t, (selfDriven 3 0 (startingAt (-25) 10))[2]? = some (.slept 5, t) ∧ t.nextDeadline = 15 := by
  obtain ⟨hdeadline, hlength, hwaits⟩ := (drift_free 0 10).1 [12, 13]
  obtain ⟨w, hw, hlate, -⟩ := hwaits 0 12 rfl
  obtain ⟨w', hw', -, hslept⟩ := hwaits 1 13 rfl
  obtain rfl := (hlate 2).mpr (by decide)
  obtain rfl := (hslept 7).mpr (by decide)
  have hdriven := (drift_free (-25) 10).2 (by decide) 0 3
  obtain ⟨w₀, t₀, h₀, -, hlate₀, -⟩ := hdriven 0 (by decide)
  obtain ⟨w₁, t₁, h₁, -, hlate₁, -⟩ := hdriven 1 (by decide)
  obtain ⟨w₂, t₂, h₂, hnext, -, hslept₂⟩ := hdriven 2 (by decide)
  obtain rfl := (hlate₀ 15).mpr (by decide)
  obtain rfl := (hlate₁ 5).mpr (by decide)
  obtain rfl := (hslept₂ 5).mpr (by decide)
  refine ⟨?_, hdeadline, ⟨t₀, h₀⟩, ⟨t₁, h₁⟩, t₂, h₂, hnext⟩
  refine List.ext_getElem? fun n => ?_
  rcases n with _ | _ | n
  · exact hw
  · exact hw'
  · rw [List.getElem?_eq_none (by rw [hlength]; exact Nat.le_add_left _ _)]
    rfl

end Timer

end Telemetry
