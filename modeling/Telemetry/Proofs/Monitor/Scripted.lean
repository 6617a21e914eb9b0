/-
A monitor over a scripted scheduler, poll after poll.

The scheduler announces the size of the snapshot it would give next, so a poll refuses a
snapshot that is too large before it is taken, and then refuses it for ever. Until that
happens every poll takes one snapshot, also if accounting it fails, and the run is a fold of
`Registry.recordEpoch` over the stream of snapshots.

* `ScriptedScheduler.stream` — the script, and then its last snapshot again and again;
* `Monitor.polled`, `Monitor.answerAt` — the state after a number of polls, and the answer of
  the poll that comes next;
* `Registry.recorded` — the fold over a stream;
* `polls_follow_stream` — the answers of all polls.
-/
import Telemetry.Proofs.Monitor.Poll

namespace Telemetry

namespace ScriptedScheduler

/-- The snapshots that a script gives: its own, and then the last of them again and again;
without any, the empty one. -/
def stream (script : List Snapshot) (i : ℕ) : Snapshot :=
  (script[i]?.or script.getLast?).getD Snapshot.empty

/-- The scheduler of a script after `n` snapshots. -/
def after (script : List Snapshot) : ℕ → ScriptedScheduler
  | 0 => create script
  | n + 1 => ⟨script.drop (n + 1), stream script n⟩

variable {script : List Snapshot} {n : ℕ}

theorem stream_of_lt (h : n < script.length) : stream script n = script[n] := by
  rw [stream, List.getElem?_eq_getElem h]
  rfl

theorem stream_of_le (h : script.length ≤ n) :
    stream script n = script.getLast?.getD Snapshot.empty := by
  rw [stream, List.getElem?_eq_none h, Option.none_or]

theorem pending_after (script : List Snapshot) (n : ℕ) :
    (after script n).pending = script.drop n := by
  cases n <;> rfl

/-- A script that has come to its end goes on with what it gave last. -/
theorem last_after (h : script.length ≤ n) : (after script n).last = stream script n := by
  cases n with
  | zero =>
    obtain rfl : script = [] := List.length_eq_zero_iff.mp (Nat.le_zero.mp h)
    rfl
  | succ n =>
    show stream script n = stream script (n + 1)
    rw [stream_of_le h]
    -- the one given last is the last of the script, or a repetition of it
    by_cases hn : n < script.length
    · have hlast : n = script.length - 1 := by omega
      rw [stream_of_lt hn, List.getLast?_eq_getElem?, ← hlast, List.getElem?_eq_getElem hn]
      rfl
    · exact stream_of_le (Nat.le_of_not_lt hn)

theorem of_pending {s : ScriptedScheduler} {next : Snapshot} {rest : List Snapshot}
    (h : s.pending = next :: rest) :
    Scheduler.taskCount s = next.tasks.length ∧ Scheduler.snapshot s = (next, ⟨rest, next⟩) := by
  obtain ⟨pending, last⟩ := s
  obtain rfl : pending = next :: rest := h
  exact ⟨rfl, rfl⟩

theorem of_exhausted {s : ScriptedScheduler} (h : s.pending = []) :
    Scheduler.taskCount s = s.last.tasks.length ∧ Scheduler.snapshot s = (s.last, s) := by
  obtain ⟨pending, last⟩ := s
  obtain rfl : pending = [] := h
  exact ⟨rfl, rfl⟩

theorem pending_after_of_lt (h : n < script.length) :
    (after script n).pending = script[n] :: script.drop (n + 1) := by
  rw [pending_after, List.drop_eq_getElem_cons h]

theorem pending_after_of_le (h : script.length ≤ n) : (after script n).pending = [] := by
  rw [pending_after, List.drop_of_length_le h]

theorem taskCount_after (script : List Snapshot) (n : ℕ) :
    Scheduler.taskCount (after script n) = (stream script n).tasks.length := by
  by_cases h : n < script.length
  · rw [(of_pending (pending_after_of_lt h)).1, stream_of_lt h]
  · have hend := Nat.le_of_not_lt h
    rw [(of_exhausted (pending_after_of_le hend)).1, last_after hend]

theorem snapshot_after (script : List Snapshot) (n : ℕ) :
    Scheduler.snapshot (after script n) = (stream script n, after script (n + 1)) := by
  by_cases h : n < script.length
  · rw [(of_pending (pending_after_of_lt h)).2, ← stream_of_lt h]
    rfl
  · -- nothing is taken any more, and what was given last stays what it was
    have hend := Nat.le_of_not_lt h
    have hsame : after script n = after script (n + 1) := by
      show after script n = ⟨script.drop (n + 1), stream script n⟩
      rw [← last_after hend, List.drop_of_length_le (Nat.le_succ_of_le hend),
        ← pending_after_of_le hend]
    rw [(of_exhausted (pending_after_of_le hend)).2, last_after hend, ← hsame]

end ScriptedScheduler

namespace Registry

/-- The registry after the first `n` snapshots of a stream have been accounted, whether or not
that succeeded. -/
def recorded (r : Registry) (budgets : StackBudgets) (stream : ℕ → Snapshot) : ℕ → Registry
  | 0 => r
  | n + 1 => ((recorded r budgets stream n).recordEpoch (stream n) budgets Monitor.threshold).state

theorem capacity_recorded (r : Registry) (budgets : StackBudgets) (stream : ℕ → Snapshot)
    (n : ℕ) : (r.recorded budgets stream n).capacity = r.capacity := by
  induction n with
  | zero => rfl
  | succ n ih => exact (capacity_recordEpoch _ _ _ _).trans ih

end Registry

namespace Monitor

variable {σ : Type} [Scheduler σ]

/-- A monitor and its scheduler after `n` polls. -/
def polled (m : Monitor) (s : σ) : ℕ → Monitor × σ
  | 0 => (m, s)
  | n + 1 => ((polled m s n).1.poll (polled m s n).2).state

/-- The answer of the poll that comes after `n` others. -/
def answerAt (m : Monitor) (s : σ) (n : ℕ) : Except MonitorError (List Record) :=
  ((m.polled s n).1.poll (m.polled s n).2).answer

/-! ### All polls -/

theorem epochs_polled (m : Monitor) (s : σ) (n : ℕ) :
    (m.polled s n).1.epochs = m.epochs + (List.range n).countP fun i => (m.answerAt s i).isOk := by
  induction n with
  | zero => rfl
  | succ n ih =>
    rw [polled, epochs_poll, ih, List.range_succ, List.countP_append, List.countP_singleton,
      Nat.add_assoc]
    show _ + (_ + (m.answerAt s n).isOk.toNat) = _
    cases (m.answerAt s n).isOk <;> rfl

variable {script : List Snapshot} {r : Registry}

open ScriptedScheduler (stream after)

/-- As long as no snapshot is too large, every poll takes the next one and leaves what
accounting it leaves. -/
theorem polled_of_fits (budgets : StackBudgets) {n : ℕ}
    (h : ∀ i < n, (stream script i).tasks.length ≤ r.capacity) :
    ((create r budgets).polled (ScriptedScheduler.create script) n).2 = after script n ∧
    ((create r budgets).polled (ScriptedScheduler.create script) n).1.registry =
      r.recorded budgets (stream script) n ∧
    ((create r budgets).polled (ScriptedScheduler.create script) n).1.budgets = budgets := by
  induction n with
  | zero => exact ⟨rfl, rfl, rfl⟩
  | succ n ih =>
    obtain ⟨hscheduler, hregistry, hbudgets⟩ := ih fun i hi => h i (Nat.lt_succ_of_lt hi)
    rw [polled]
    generalize (create r budgets).polled (ScriptedScheduler.create script) n = state
      at hscheduler hregistry hbudgets ⊢
    obtain ⟨m, s⟩ := state
    obtain rfl : s = after script n := hscheduler
    have hfits : Scheduler.taskCount (after script n) ≤ m.registry.capacity := by
      rw [ScriptedScheduler.taskCount_after, hregistry, Registry.capacity_recorded]
      exact h n (Nat.lt_succ_self n)
    obtain ⟨-, hstate, hkept, htaken⟩ := poll_of_le hfits
    rw [ScriptedScheduler.snapshot_after] at hstate htaken
    refine ⟨htaken, ?_, hkept.trans hbudgets⟩
    rw [hstate, hregistry, hbudgets]
    rfl

/-- The state after one more poll is the state before it, if that poll was refused. -/
theorem polled_of_refused {m : Monitor} {s : σ} {n : ℕ}
    (h : (m.polled s n).1.registry.capacity < Scheduler.taskCount (m.polled s n).2) (k : ℕ) :
    m.polled s (n + k) = m.polled s n := by
  induction k with
  | zero => rfl
  | succ k ih => rw [← Nat.add_assoc, polled, ih, poll_of_lt h]

/-- **The polls of a script.** Up to the first snapshot that is too large, each poll answers
what the registry, as the polls before have left it, answers to the next element of the
stream; from then on every poll is refused for that snapshot and changes nothing. The polls
that succeeded have been counted all along. -/
theorem polls_follow_stream (script : List Snapshot) (r : Registry) (budgets : StackBudgets) :
    let m := create r budgets
    let s := ScriptedScheduler.create script
    (∀ i, (∀ j ≤ i, (stream script j).tasks.length ≤ r.capacity) →
      m.answerAt s i = ((r.recorded budgets (stream script) i).recordEpoch (stream script i)
        budgets threshold).answer ∧
      (m.polled s i).1.registry = r.recorded budgets (stream script) i ∧
      (m.polled s (i + 1)).1.registry = r.recorded budgets (stream script) (i + 1) ∧
      (m.polled s (i + 1)).2.pending = script.drop (i + 1)) ∧
    (∀ j, (∀ i < j, (stream script i).tasks.length ≤ r.capacity) →
      r.capacity < (stream script j).tasks.length → ∀ i, j ≤ i →
        m.answerAt s i =
          .error (.capacityExceeded (stream script j).tasks.length r.capacity) ∧
        m.polled s (i + 1) = m.polled s j ∧
        (m.polled s j).2.pending = script.drop j) ∧
    ∀ n, (m.polled s n).1.epochs = (List.range n).countP fun i => (m.answerAt s i).isOk := by
  intro m s
  refine ⟨fun i hfits => ?_, fun j hfits hlarge i hji => ?_, fun n => ?_⟩
  · obtain ⟨hscheduler, hregistry, hbudgets⟩ := polled_of_fits budgets
      fun j (hj : j < i) => hfits j (Nat.le_of_lt hj)
    obtain ⟨hscheduler', hregistry', -⟩ := polled_of_fits budgets
      fun j (hj : j < i + 1) => hfits j (Nat.le_of_lt_succ hj)
    have hcount : Scheduler.taskCount (m.polled s i).2 ≤ (m.polled s i).1.registry.capacity := by
      rw [hscheduler, hregistry, ScriptedScheduler.taskCount_after, Registry.capacity_recorded]
      exact hfits i (Nat.le_refl i)
    have hanswer := (poll_of_le hcount).1
    rw [hscheduler, hregistry, hbudgets, ScriptedScheduler.snapshot_after] at hanswer
    refine ⟨?_, hregistry, hregistry', ?_⟩
    · rw [← hanswer, answerAt, hscheduler]
    · rw [hscheduler', ScriptedScheduler.pending_after]
  · obtain ⟨hscheduler, hregistry, -⟩ := polled_of_fits budgets hfits
    have hcapacity : (m.polled s j).1.registry.capacity = r.capacity := by
      rw [hregistry, Registry.capacity_recorded]
    have hcount : Scheduler.taskCount (m.polled s j).2 = (stream script j).tasks.length := by
      rw [hscheduler, ScriptedScheduler.taskCount_after]
    have hrefused : (m.polled s j).1.registry.capacity <
        Scheduler.taskCount (m.polled s j).2 := by
      rw [hcapacity, hcount]
      exact hlarge
    -- the state never moves again, so every later poll is the `j`-th one over again
    have hstays : ∀ k, j ≤ k → m.polled s k = m.polled s j := by
      intro k hk
      obtain ⟨d, rfl⟩ := Nat.exists_eq_add_of_le hk
      exact polled_of_refused hrefused d
    refine ⟨?_, hstays _ (Nat.le_succ_of_le hji), ?_⟩
    · rw [answerAt, hstays i hji, poll_of_lt hrefused, hcount, hcapacity]
    · rw [hscheduler, ScriptedScheduler.pending_after]
  · rw [epochs_polled]
    exact Nat.zero_add _

/-- A script whose first snapshot has a task without a budget, and whose third has two tasks. -/
def crowded : List Snapshot :=
  [⟨[⟨⟨9⟩, "Rogue", 1, 5, 60⟩], 1000⟩, ⟨[⟨⟨1⟩, "Sensor", 4, 30, 100⟩], 2000⟩,
    ⟨[⟨⟨1⟩, "Sensor", 4, 70, 90⟩, ⟨⟨2⟩, "Comms", 4, 10, 80⟩], 3000⟩, Snapshot.empty]

/-- With one slot, the failure of the first poll takes its snapshot, and the third is refused
for ever. -/
theorem polls_follow_crowded :
    let m := create (Registry.create 1) StackBudgets.ofTaskKinds
    let s := ScriptedScheduler.create crowded
    m.answerAt s 0 = .error (.unconfigured ⟨9⟩ "Rogue") ∧
    m.answerAt s 1 = .ok [⟨1, "Sensor", 262144, 100, 30, 2000⟩] ∧
    (∀ i, 2 ≤ i → m.answerAt s i = .error (.capacityExceeded 2 1)) ∧
    (m.polled s 7).1.epochs = 1 := by
  intro m s
  obtain ⟨hfirst, hlater, hcount⟩ :=
    polls_follow_stream crowded (Registry.create 1) StackBudgets.ofTaskKinds
  have hfits : ∀ i < 2, (stream crowded i).tasks.length ≤ 1 := by decide
  have hlarge : 1 < (stream crowded 2).tasks.length := by decide
  refine ⟨?_, ?_, fun i hi => (hlater 2 hfits hlarge i hi).1, ?_⟩
  · rw [(hfirst 0 fun j hj => hfits j (by omega)).1]
    rfl
  · rw [(hfirst 1 fun j hj => hfits j (by omega)).1]
    rfl
  · rw [hcount]
    decide

end Monitor

end Telemetry
