/-
The busy time of one task.

A task folds its time in at every checkpoint, and the time of a call that may block is left out
from its own checkpoint to the reading of the clock after it. What has been folded in is therefore
all of the time since the task began, up to the last fold, without the calls that were over by
then:

* `BusyClock.Call`, `BusyClock.after` — the calls with which a task accounts for its time, and the
  readings of the clock in them;
* `BusyClock.busy_add_away` — at every moment, what is folded in and what is left out reach from
  the beginning to the instant from which time counts;
* `BusyClock.busy_after` — what is folded in after any calls;
* `BusyClock.busy_le` — no more than has passed.

Design notes: a call that may block and has not returned is the checkpoint with which it begins,
for nothing is folded in until it returns. Counters are natural numbers; one of 64 bits holds the
nanoseconds of more than five hundred years.
-/
import Mathlib.Algebra.Order.BigOperators.Group.List
import Mathlib.Data.List.Induction
import Mathlib.Tactic.Linarith
import Telemetry.Task.Busy

namespace Telemetry

namespace BusyClock

/-- The clock when time begins to count again at `now`. -/
def resume (b : BusyClock) (now : Instant) : BusyClock := { b with since := now }

/-- A call that may block is a checkpoint, and a new beginning when it is over. -/
theorem block_eq (b : BusyClock) (before after : Instant) :
    b.block before after = (b.checkpoint before).resume after := rfl

/-- Nothing that is folded in is taken back. -/
theorem busy_le_checkpoint (b : BusyClock) (now : Instant) : b.busy ≤ (b.checkpoint now).busy :=
  Nat.le_add_right _ _

/-- A call with which a task accounts for its time, with the readings of the clock in it. -/
inductive Call where
  | checkpoint (now : Instant)
  | block (before after : Instant)
deriving DecidableEq

namespace Call

/-- The readings of the clock, in order. -/
@[simp]
def readings : Call → List Instant
  | checkpoint now => [now]
  | block before after => [before, after]

/-- The reading up to which time is folded in. -/
def fold : Call → Instant
  | checkpoint now => now
  | block before _ => before

/-- The time that is left out: from the checkpoint of a call that may block until it is over. -/
def away : Call → ℤ
  | checkpoint _ => 0
  | block before after => after - before

/-- The clock after the call. -/
def apply (b : BusyClock) : Call → BusyClock
  | checkpoint now => b.checkpoint now
  | block before after => b.block before after

end Call

/-- The clock after some calls. -/
def after (b : BusyClock) (calls : List Call) : BusyClock := calls.foldl Call.apply b

/-- All readings of a task that begins at `entered` and makes some calls. -/
def timeline (entered : Instant) (calls : List Call) : List Instant :=
  entered :: calls.flatMap Call.readings

/-- The reading up to which time has been folded in: none yet, when there was no call. -/
def lastFold (entered : Instant) (calls : List Call) : Instant :=
  (calls.getLast?.map Call.fold).getD entered

/-- Readings of a clock that does not go back. -/
def Nondecreasing (readings : List Instant) : Prop := readings.Pairwise (· ≤ ·)

variable {b : BusyClock} {entered now : Instant} {calls : List Call} {c : Call}
  {readings : List Instant}

theorem Nondecreasing.sublist {front : List Instant} (h : Nondecreasing readings)
    (hsub : front.Sublist readings) : Nondecreasing front :=
  List.Pairwise.sublist hsub h

theorem Nondecreasing.le_last (h : Nondecreasing (readings ++ [now])) {t : Instant}
    (ht : t ∈ readings) : t ≤ now :=
  (List.pairwise_append.mp h).2.2 t ht now (List.mem_singleton_self now)

@[simp]
theorem after_concat (b : BusyClock) (calls : List Call) (c : Call) :
    b.after (calls ++ [c]) = c.apply (b.after calls) := by
  rw [after, List.foldl_append]
  rfl

@[simp]
theorem timeline_concat (entered : Instant) (calls : List Call) (c : Call) :
    timeline entered (calls ++ [c]) = timeline entered calls ++ c.readings := by
  rw [timeline, timeline, List.flatMap_append, List.flatMap_singleton, List.cons_append]

theorem Nondecreasing.init (h : Nondecreasing (timeline entered (calls ++ [c]))) :
    Nondecreasing (timeline entered calls) := by
  rw [timeline_concat] at h
  exact h.sublist (List.sublist_append_left _ _)

/-- The instant from which time counts is one of the readings. -/
theorem since_mem_timeline (entered : Instant) (calls : List Call) :
    ((start entered).after calls).since ∈ timeline entered calls := by
  rcases List.eq_nil_or_concat calls with rfl | ⟨front, c, rfl⟩
  · exact List.mem_cons_self
  · rw [List.concat_eq_append, after_concat, timeline_concat]
    refine List.mem_append_right _ ?_
    cases c with
    | checkpoint now => exact List.mem_singleton_self now
    | block before after => exact List.mem_cons_of_mem _ (List.mem_singleton_self after)

theorem since_le_fold (h : Nondecreasing (timeline entered (calls ++ [c]))) :
    ((start entered).after calls).since ≤ c.fold := by
  rw [timeline_concat] at h
  refine (List.pairwise_append.mp h).2.2 _ (since_mem_timeline entered calls) _ ?_
  cases c with
  | checkpoint now => exact List.mem_singleton_self now
  | block before after => exact List.mem_cons_self

/-- A call folds in the time up to its checkpoint. -/
theorem busy_apply (hsince : b.since ≤ c.fold) :
    ((c.apply b).busy : ℤ) = b.busy + (c.fold - b.since) := by
  have hfold : (c.apply b).busy = b.busy + (c.fold - b.since).toNat := by
    cases c <;> rfl
  rw [hfold, Nat.cast_add, Int.toNat_of_nonneg (sub_nonneg.mpr hsince)]

/-- Time counts again from the end of the call. -/
theorem since_apply (b : BusyClock) (c : Call) : (c.apply b).since = c.fold + c.away := by
  cases c with
  | checkpoint now => exact (add_zero now).symm
  | block before after => exact (add_sub_cancel before after).symm

/-- What is folded in and what is left out reach from the beginning to the instant from which
time counts. -/
theorem busy_add_away (h : Nondecreasing (timeline entered calls)) :
    (((start entered).after calls).busy : ℤ) + (calls.map Call.away).sum =
      ((start entered).after calls).since - entered := by
  induction calls using List.reverseRecOn with
  | nil => exact (sub_self entered).symm
  | append_singleton calls c ih =>
    have hearlier := ih h.init
    rw [after_concat, busy_apply (since_le_fold h), since_apply, List.map_append, List.sum_append,
      List.map_singleton, List.sum_singleton]
    linarith

/-- **What is folded in** is the time from the beginning to the last fold, without the calls that
were over before it. The last call itself is not: it folds when it begins. -/
theorem busy_after (h : Nondecreasing (timeline entered calls)) :
    (((start entered).after calls).busy : ℤ) =
      lastFold entered calls - entered - (calls.dropLast.map Call.away).sum := by
  rcases List.eq_nil_or_concat calls with rfl | ⟨front, c, rfl⟩
  · simp [after, start, lastFold]
  · rw [List.concat_eq_append] at h ⊢
    have hearlier := busy_add_away h.init
    have hlast : lastFold entered (front ++ [c]) = c.fold := by
      rw [lastFold, List.getLast?_concat]
      rfl
    rw [after_concat, busy_apply (since_le_fold h), hlast, List.dropLast_concat]
    linarith

/-- Nothing is left out that has not passed. -/
theorem away_nonneg (h : Nondecreasing (timeline entered calls)) (hc : c ∈ calls) :
    0 ≤ c.away := by
  cases c with
  | checkpoint now => exact le_refl 0
  | block before after =>
    have hcall : (Call.block before after).readings.Sublist (timeline entered calls) :=
      (List.sublist_flatten_of_mem (List.mem_map_of_mem hc)).cons entered
    have hpair : Nondecreasing ([before] ++ [after]) := h.sublist hcall
    exact sub_nonneg.mpr (hpair.le_last (List.mem_singleton_self before))

/-- No more is folded in than has passed since the beginning. -/
theorem busy_le (h : Nondecreasing (timeline entered calls ++ [now])) :
    (((start entered).after calls).busy : ℤ) ≤ now - entered := by
  have hcalls : Nondecreasing (timeline entered calls) := h.sublist (List.sublist_append_left _ _)
  have hbusy := busy_add_away hcalls
  have hnow := h.le_last (since_mem_timeline entered calls)
  have hleft : 0 ≤ (calls.map Call.away).sum := by
    refine List.sum_nonneg fun d hd => ?_
    obtain ⟨c, hc, rfl⟩ := List.mem_map.mp hd
    exact away_nonneg hcalls hc
  linarith

end BusyClock

end Telemetry
