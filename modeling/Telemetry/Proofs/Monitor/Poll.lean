/-
One poll of a monitor.

* `Registry.capacity_recordEpoch` — no operation changes the number of slots of a registry;
* `Monitor.poll_of_lt`, `Monitor.poll_of_le` — everything that a poll can do: it is refused
  for the number of tasks and changes nothing, or it takes a snapshot and accounts it;
* `Monitor.epochs_poll` — only a poll that succeeds is counted.
-/
import Mathlib.Data.Nat.Notation
import Telemetry.Monitor

namespace Telemetry

namespace Registry

theorem capacity_allocate (r : Registry) (id : TaskId) (name : String) (budget : ℕ) :
    (r.allocate id name budget).state.capacity = r.capacity := by
  rw [allocate]
  split
  · rfl
  · exact List.length_set

theorem capacity_resolve (r : Registry) (budgets : StackBudgets) (task : TaskStatus) :
    (r.resolve budgets task).state.capacity = r.capacity := by
  rw [resolve]
  split
  · rfl
  · split
    · rfl
    · exact r.capacity_allocate _ _ _

theorem capacity_remember (r : Registry) (i runtime : ℕ) :
    (r.remember i runtime).2.capacity = r.capacity := by
  rw [remember]
  split
  · rfl
  · exact List.length_set

theorem capacity_account (budgets : StackBudgets) (deltaTotal : ℕ) (tasks : List TaskStatus) :
    ∀ r : Registry, (account budgets deltaTotal tasks r).state.capacity = r.capacity := by
  induction tasks with
  | nil => exact fun _ => rfl
  | cons task rest ih =>
    intro r
    have hresolved := r.capacity_resolve budgets task
    rw [account]
    generalize r.resolve budgets task = resolved at hresolved ⊢
    obtain ⟨answer, r', notices⟩ := resolved
    rcases answer with e | i
    · exact hresolved
    · exact (ih _).trans ((r'.capacity_remember i task.runtime).trans hresolved)

theorem capacity_recordEpoch (r : Registry) (snapshot : Snapshot) (budgets : StackBudgets)
    (threshold : ℕ) :
    (r.recordEpoch snapshot budgets threshold).state.capacity = r.capacity := by
  have haccount := capacity_account budgets (snapshot.total - r.lastTotal) snapshot.tasks r
  rw [recordEpoch]
  split
  · rfl
  · simp only
    split
    · exact haccount
    · exact haccount

end Registry

namespace Monitor

variable {σ : Type} [Scheduler σ] {m : Monitor} {s : σ}

/-- A poll for which there are too many tasks takes no snapshot and changes nothing. -/
theorem poll_of_lt (h : m.registry.capacity < Scheduler.taskCount s) :
    m.poll s =
      ⟨.error (.capacityExceeded (Scheduler.taskCount s) m.registry.capacity), (m, s), []⟩ := by
  rw [poll, if_pos h]

/-- Any other poll takes a snapshot and answers what the registry answers to it. -/
theorem poll_of_le (h : Scheduler.taskCount s ≤ m.registry.capacity) :
    (m.poll s).answer =
      (m.registry.recordEpoch (Scheduler.snapshot s).1 m.budgets threshold).answer ∧
    (m.poll s).state.1.registry =
      (m.registry.recordEpoch (Scheduler.snapshot s).1 m.budgets threshold).state ∧
    (m.poll s).state.1.budgets = m.budgets ∧
    (m.poll s).state.2 = (Scheduler.snapshot s).2 := by
  rw [poll, if_neg (Nat.not_lt_of_le h)]
  simp only
  split <;> rename_i hanswer
  · exact ⟨hanswer.symm, rfl, rfl, rfl⟩
  · exact ⟨hanswer.symm, rfl, rfl, rfl⟩

/-- Only a poll that succeeds is counted. -/
theorem epochs_poll (m : Monitor) (s : σ) :
    (m.poll s).state.1.epochs = m.epochs + (m.poll s).answer.isOk.toNat := by
  rw [poll]
  split
  · rfl
  · simp only
    split <;> rfl

end Monitor

end Telemetry
