/-
The layout of a registry: the slots it holds, and the free ones behind them.

A registry fills its slots from the front, and no slot is ever freed. So its slots are
those it holds, each at its own position, and then free ones; and the operations act on
the list of slots held: a new identity is appended to it, a runtime is changed in place.

* `Layout` — a registry with the slots it holds, whose identities are distinct;
* `Layout.find_eq_some_iff` — an identity is found at the position of the slot it has;
* `Layout.allocate`, `Layout.remember` — what the operations do to the slots held;
* `Layout.resolve_resolved`, `Layout.account_cons`, `recordEpoch_cases` — everything that
  resolving a task, accounting it, and recording an epoch can do.
-/
import Mathlib.Data.List.Nodup
import Telemetry.Monitor.Registry

namespace Telemetry

namespace Registry

/-- The registry `r` holds the slots `held`, and `free` more are free. -/
structure Layout (r : Registry) (held : List Slot) (free : ℕ) : Prop where
  slots_eq : r.slots = held.map some ++ List.replicate free none
  distinct : (held.map (·.id)).Nodup

variable {r : Registry} {held : List Slot} {free : ℕ}

/-- Changing one slot does not change what its function `f` makes of the slots. -/
theorem map_set_of_eq {β : Type} {f : Slot → β} {i : ℕ} {s t : Slot} (hs : held[i]? = some s)
    (ht : f t = f s) : (held.set i t).map f = held.map f := by
  obtain ⟨hi, rfl⟩ := List.getElem?_eq_some_iff.mp hs
  have hi' : i < (held.map f).length := by rwa [List.length_map]
  calc (held.set i t).map f = (held.map f).set i (held.map f)[i] := by
        rw [List.map_set, ht, List.getElem_map]
    _ = held.map f := List.set_getElem_self hi'

theorem create_layout (capacity : ℕ) : Layout (create capacity) [] capacity :=
  ⟨rfl, List.nodup_nil⟩

namespace Layout

theorem capacity_eq (h : Layout r held free) : r.capacity = held.length + free := by
  rw [capacity, h.slots_eq, List.length_append, List.length_map, List.length_replicate]

theorem occupied_eq (h : Layout r held free) : r.occupied = held := by
  have hheld : (held.map some).filterMap id = held := by
    rw [List.filterMap_map]
    exact List.filterMap_some
  have hfree : (List.replicate free (none : Option Slot)).filterMap id = [] := by
    rw [List.filterMap_replicate_of_none rfl]
  rw [occupied, h.slots_eq, List.filterMap_append, hheld, hfree, List.append_nil]

theorem count_eq (h : Layout r held free) : r.count = held.length := by
  rw [count, h.occupied_eq]

theorem slot?_eq (h : Layout r held free) (i : ℕ) : r.slot? i = held[i]? := by
  rw [slot?, h.slots_eq]
  by_cases hi : i < held.length
  · rw [List.getElem?_append_left (by simpa using hi), List.getElem?_map,
      List.getElem?_eq_getElem hi]
    rfl
  · rw [List.getElem?_append_right (by simpa using hi), List.getElem?_replicate,
      List.getElem?_eq_none (Nat.le_of_not_lt hi)]
    split <;> rfl

theorem find_eq (h : Layout r held free) (id : TaskId) :
    r.find id = held.findIdx? (·.id == id) := by
  rw [find, h.slots_eq, List.findIdx?_append, List.findIdx?_map, List.findIdx?_replicate,
    if_neg (by simp [holds]), Option.map_none, Option.or_none]
  rfl

/-- Slots of one identity are at one position. -/
theorem position_unique (h : Layout r held free) {i j : ℕ} {s t : Slot} (hs : held[i]? = some s)
    (ht : held[j]? = some t) (hid : s.id = t.id) : i = j := by
  have hi : i < (held.map (·.id)).length := by
    rw [List.length_map]
    exact (List.getElem?_eq_some_iff.mp hs).1
  refine (List.getElem?_inj hi h.distinct).mp ?_
  rw [List.getElem?_map, List.getElem?_map, hs, ht, Option.map_some, Option.map_some, hid]

/-- After a change at one position, every other slot has another identity. -/
theorem mem_set (h : Layout r held free) {i : ℕ} {s t u : Slot} (hs : held[i]? = some s)
    (hu : u ∈ held.set i t) : u = t ∨ u ∈ held ∧ u.id ≠ s.id := by
  obtain ⟨j, hj⟩ := List.mem_iff_getElem?.mp hu
  by_cases hij : i = j
  · subst hij
    have hi : i < held.length := (List.getElem?_eq_some_iff.mp hs).1
    rw [List.getElem?_set_self hi, Option.some.injEq] at hj
    exact Or.inl hj.symm
  · rw [List.getElem?_set_ne hij] at hj
    exact Or.inr ⟨List.mem_of_getElem? hj, fun hid => hij (h.position_unique hs hj hid.symm)⟩

theorem find_eq_none_iff (h : Layout r held free) (id : TaskId) :
    r.find id = none ↔ ∀ s ∈ held, s.id ≠ id := by
  rw [h.find_eq, List.findIdx?_eq_none_iff]
  simp

theorem find_eq_some_iff (h : Layout r held free) (id : TaskId) (i : ℕ) :
    r.find id = some i ↔ ∃ s, held[i]? = some s ∧ s.id = id := by
  rw [h.find_eq]
  constructor
  · intro hfind
    obtain ⟨hi, hid, -⟩ := List.findIdx?_eq_some_iff_getElem.mp hfind
    exact ⟨held[i], List.getElem?_eq_getElem hi, by simpa using hid⟩
  · -- the search ends somewhere, and no other slot has this identity
    rintro ⟨s, hs, rfl⟩
    rcases hfind : held.findIdx? (·.id == s.id) with _ | j
    · have := List.findIdx?_eq_none_iff.mp hfind s (List.mem_of_getElem? hs)
      simp at this
    · obtain ⟨hj, hid, -⟩ := List.findIdx?_eq_some_iff_getElem.mp hfind
      rw [h.position_unique hs (List.getElem?_eq_getElem hj) (beq_iff_eq.mp hid).symm]
      exact hfind

/-! ### What the operations do to the slots held -/

theorem allocate_full (h : Layout r held 0) (id : TaskId) (name : String) (budget : ℕ) :
    r.allocate id name budget =
      ⟨.error (.capacityExceeded (held.length + 1) held.length), r, []⟩ := by
  have hfree : r.slots.findIdx? (·.isNone) = none := by
    rw [h.slots_eq, List.replicate_zero, List.append_nil, List.findIdx?_eq_none_iff]
    simp
  rw [Registry.allocate, hfree, h.count_eq, h.capacity_eq]
  rfl

theorem allocate (h : Layout r held (free + 1)) {id : TaskId} (hnew : ∀ s ∈ held, s.id ≠ id)
    (name : String) (budget : ℕ) :
    (r.allocate id name budget).answer = .ok held.length ∧
    Layout (r.allocate id name budget).state (held ++ [⟨id, name, budget, 0⟩]) free := by
  have hfree : r.slots.findIdx? (·.isNone) = some held.length := by
    have hheld : (held.map some).findIdx? (·.isNone) = none := by
      rw [List.findIdx?_eq_none_iff]
      simp
    rw [h.slots_eq, List.findIdx?_append, hheld, List.findIdx?_replicate]
    simp
  have hnodup : ((held ++ [(⟨id, name, budget, 0⟩ : Slot)]).map (·.id)).Nodup := by
    rw [List.map_append, List.nodup_append]
    refine ⟨h.distinct, List.nodup_singleton _, ?_⟩
    intro a ha b hb
    obtain ⟨s, hs, rfl⟩ := List.mem_map.mp ha
    rw [List.map_singleton, List.mem_singleton] at hb
    rw [hb]
    exact hnew s hs
  rw [Registry.allocate, hfree]
  refine ⟨rfl, ?_, hnodup⟩
  show r.slots.set held.length _ = _
  rw [h.slots_eq, List.set_append_right _ _ (by simp), List.length_map, Nat.sub_self,
    List.replicate_succ, List.set_cons_zero, List.map_append, List.append_assoc]
  rfl

theorem remember (h : Layout r held free) {i : ℕ} {s : Slot} (hs : held[i]? = some s)
    (runtime : ℕ) :
    (r.remember i runtime).1 = some s ∧
    Layout (r.remember i runtime).2 (held.set i { s with lastRuntime := runtime }) free := by
  have hi : i < held.length := (List.getElem?_eq_some_iff.mp hs).1
  have hslot : r.slot? i = some s := by
    rw [h.slot?_eq, hs]
  have hids : (held.set i { s with lastRuntime := runtime }).map (·.id) = held.map (·.id) :=
    map_set_of_eq hs rfl
  rw [Registry.remember, hslot]
  refine ⟨rfl, ?_, by rw [hids]; exact h.distinct⟩
  show r.slots.set i _ = _
  rw [h.slots_eq, List.set_append_left _ _ (by simpa using hi), List.map_set]

/-- The outcomes of resolving `task` in the registry `r`, with the slots it holds and the
number of free ones afterwards. -/
inductive Resolved (r : Registry) (held : List Slot) (free : ℕ) (budgets : StackBudgets)
    (task : TaskStatus) : Step Registry (Except MonitorError ℕ) → List Slot → ℕ → Prop
  | known {i : ℕ} {s : Slot} (hs : held[i]? = some s) (hid : s.id = task.id) :
      Resolved r held free budgets task ⟨.ok i, r, []⟩ held free
  | placed {budget rest : ℕ} {notices : List Notice} {r' : Registry}
      (hnew : ∀ s ∈ held, s.id ≠ task.id) (hbudget : budgets.get? task.name = some budget)
      (hfree : free = rest + 1) :
      Resolved r held free budgets task ⟨.ok held.length, r', notices⟩
        (held ++ [⟨task.id, task.name, budget, 0⟩]) rest
  | unconfigured (hnew : ∀ s ∈ held, s.id ≠ task.id) (hbudget : budgets.get? task.name = none) :
      Resolved r held free budgets task ⟨.error (.unconfigured task.id task.name), r, []⟩
        held free
  | full {budget : ℕ} (hnew : ∀ s ∈ held, s.id ≠ task.id)
      (hbudget : budgets.get? task.name = some budget) (hfree : free = 0) :
      Resolved r held free budgets task
        ⟨.error (.capacityExceeded (held.length + 1) held.length), r, []⟩ held free

theorem resolve_resolved (h : Layout r held free) (budgets : StackBudgets) (task : TaskStatus) :
    ∃ held' free', Resolved r held free budgets task (r.resolve budgets task) held' free' ∧
      Layout (r.resolve budgets task).state held' free' := by
  rcases hfind : r.find task.id with _ | i
  · have hnew := (h.find_eq_none_iff task.id).mp hfind
    rcases hbudget : budgets.get? task.name with _ | budget
    · rw [show r.resolve budgets task = ⟨.error (.unconfigured task.id task.name), r, []⟩ by
        simp [resolve, hfind, hbudget]]
      exact ⟨held, free, .unconfigured hnew hbudget, h⟩
    · rw [show r.resolve budgets task = r.allocate task.id task.name budget by
        simp [resolve, hfind, hbudget]]
      cases free with
      | zero =>
        rw [h.allocate_full]
        exact ⟨held, 0, .full hnew hbudget rfl, h⟩
      | succ rest =>
        obtain ⟨hanswer, hlayout⟩ := h.allocate hnew task.name budget
        generalize r.allocate task.id task.name budget = allocated at hanswer hlayout ⊢
        obtain ⟨answer, r', notices⟩ := allocated
        obtain rfl : answer = _ := hanswer
        exact ⟨_, rest, .placed hnew hbudget rfl, hlayout⟩
  · obtain ⟨s, hs, hid⟩ := (h.find_eq_some_iff task.id i).mp hfind
    rw [show r.resolve budgets task = ⟨.ok i, r, []⟩ by simp [resolve, hfind]]
    exact ⟨held, free, .known hs hid, h⟩

/-- A task that has a budget can be resolved as long as a slot is free. -/
theorem resolve_isOk (h : Layout r held (free + 1)) {budgets : StackBudgets} {task : TaskStatus}
    {budget : ℕ} (hbudget : budgets.get? task.name = some budget) :
    ∃ i, (r.resolve budgets task).answer = .ok i := by
  obtain ⟨held', free', hresolved, -⟩ := h.resolve_resolved budgets task
  generalize r.resolve budgets task = resolved at hresolved ⊢
  cases hresolved with
  | known => exact ⟨_, rfl⟩
  | placed => exact ⟨_, rfl⟩
  | unconfigured _ hnone =>
    rw [hbudget] at hnone
    cases hnone
  | full _ _ hfull => cases hfull

/-- The slots held after a task has been accounted; `before` is the slot of the task just
before its runtime is written into it. -/
inductive Accounted (held : List Slot) (free : ℕ) (budgets : StackBudgets) (task : TaskStatus) :
    Slot → List Slot → ℕ → Prop
  | known {i : ℕ} {s : Slot} (hs : held[i]? = some s) (hid : s.id = task.id) :
      Accounted held free budgets task s
        (held.set i { s with lastRuntime := task.runtime }) free
  | placed {budget rest : ℕ} (hnew : ∀ s ∈ held, s.id ≠ task.id)
      (hbudget : budgets.get? task.name = some budget) (hfree : free = rest + 1) :
      Accounted held free budgets task ⟨task.id, task.name, budget, 0⟩
        (held ++ [⟨task.id, task.name, budget, task.runtime⟩]) rest

/-- Accounting a list of tasks stops at the first, if that cannot be resolved, or accounts it
and goes on. -/
theorem account_cons (h : Layout r held free) (budgets : StackBudgets) (deltaTotal : ℕ)
    (task : TaskStatus) (rest : List TaskStatus) :
    (∃ e, (r.resolve budgets task).answer = .error e ∧
      (account budgets deltaTotal (task :: rest) r).answer = .error e ∧
      (account budgets deltaTotal (task :: rest) r).state = r) ∨
    ∃ before held' free' r', Accounted held free budgets task before held' free' ∧
      Layout r' held' free' ∧
      (account budgets deltaTotal (task :: rest) r).answer =
        (account budgets deltaTotal rest r').answer.map (record before task deltaTotal :: ·) ∧
      (account budgets deltaTotal (task :: rest) r).state =
        (account budgets deltaTotal rest r').state := by
  obtain ⟨held', free', hresolved, hlayout⟩ := h.resolve_resolved budgets task
  rw [account]
  generalize r.resolve budgets task = resolved at hresolved hlayout ⊢
  cases hresolved with
  | unconfigured => exact Or.inl ⟨_, rfl, rfl, rfl⟩
  | full => exact Or.inl ⟨_, rfl, rfl, rfl⟩
  | @known i s hs hid =>
    obtain ⟨hbefore, hremembered⟩ := hlayout.remember hs task.runtime
    refine Or.inr ⟨s, _, free, _, .known hs hid, hremembered, ?_, rfl⟩
    simp only [hbefore]
    rfl
  | @placed budget _ notices r' hnew hbudget hfree =>
    -- the new slot is the last one held, and its runtime is written at once
    have hs : (held ++ [(⟨task.id, task.name, budget, 0⟩ : Slot)])[held.length]? =
        some ⟨task.id, task.name, budget, 0⟩ := by simp
    obtain ⟨hbefore, hremembered⟩ := hlayout.remember hs task.runtime
    have hset : (held ++ [(⟨task.id, task.name, budget, 0⟩ : Slot)]).set held.length
        ⟨task.id, task.name, budget, task.runtime⟩ =
        held ++ [⟨task.id, task.name, budget, task.runtime⟩] := by simp
    rw [hset] at hremembered
    refine Or.inr ⟨_, _, _, _, .placed hnew hbudget hfree, hremembered, ?_, rfl⟩
    simp only [hbefore]
    rfl

end Layout

/-- An epoch is refused for its size, or stops at a task, or accounts all of them. -/
theorem recordEpoch_cases (r : Registry) (snapshot : Snapshot) (budgets : StackBudgets)
    (threshold : ℕ) :
    (r.capacity < snapshot.tasks.length ∧ r.recordEpoch snapshot budgets threshold =
      ⟨.error (.capacityExceeded snapshot.tasks.length r.capacity), r, []⟩) ∨
    (∃ e, (r.recordEpoch snapshot budgets threshold).answer = .error e ∧
      (account budgets (snapshot.total - r.lastTotal) snapshot.tasks r).answer = .error e ∧
      (r.recordEpoch snapshot budgets threshold).state =
        (account budgets (snapshot.total - r.lastTotal) snapshot.tasks r).state) ∨
    ∃ records, (account budgets (snapshot.total - r.lastTotal) snapshot.tasks r).answer =
        .ok records ∧
      (r.recordEpoch snapshot budgets threshold).answer =
        .ok (if threshold ≤ snapshot.total - r.lastTotal then records else []) ∧
      (r.recordEpoch snapshot budgets threshold).state =
        { (account budgets (snapshot.total - r.lastTotal) snapshot.tasks r).state with
          lastTotal := snapshot.total } := by
  by_cases hcapacity : r.capacity < snapshot.tasks.length
  · exact Or.inl ⟨hcapacity, by rw [recordEpoch, if_pos hcapacity]⟩
  · rw [recordEpoch, if_neg hcapacity]
    simp only
    rcases hanswer : (account budgets (snapshot.total - r.lastTotal) snapshot.tasks r).answer
      with e | records
    · exact Or.inr (Or.inl ⟨e, rfl, rfl, rfl⟩)
    · exact Or.inr (Or.inr ⟨records, rfl, rfl, rfl⟩)

end Registry

end Telemetry
