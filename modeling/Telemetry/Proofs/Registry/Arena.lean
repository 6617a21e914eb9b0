/-
The arena of slots under every sequence of operations.

A registry is filled from the front without holes, an identity has at most one slot, and
a slot that has been given away is never freed, moved or given to another identity. An
epoch that fails after some of its tasks is no exception.

* `Operation`, `Reaches` — sequences of operations; an identity is allocated only if it
  has no slot yet;
* `Kept` — one registry holds all that another one held, at the same positions;
* `reaches_kept` — every sequence of operations keeps what was held;
* `arena_of_reaches` — the layout of every registry that is reached from an empty one.
-/
import Telemetry.Proofs.Registry.Layout

namespace Telemetry

/-- What a slot keeps for good: its identity, and the name and budget it had at first. -/
def Slot.identity (s : Slot) : TaskId × String × ℕ := (s.id, s.name, s.stackBudget)

namespace Registry

/-- An operation on a registry. -/
inductive Operation where
  | resolve (budgets : StackBudgets) (task : TaskStatus)
  | recordEpoch (snapshot : Snapshot) (budgets : StackBudgets) (threshold : ℕ)
  | allocate (id : TaskId) (name : String) (budget : ℕ)

/-- The registry after an operation, whether or not the operation succeeds. -/
def perform (r : Registry) : Operation → Registry
  | .resolve budgets task => (r.resolve budgets task).state
  | .recordEpoch snapshot budgets threshold => (r.recordEpoch snapshot budgets threshold).state
  | .allocate id name budget => (r.allocate id name budget).state

/-- Only identities without a slot are allocated. -/
def Admits (r : Registry) : Operation → Prop
  | .allocate id _ _ => r.find id = none
  | _ => True

/-- From one registry to another by operations, one after the other. -/
inductive Reaches (r : Registry) : Registry → Prop
  | refl : Reaches r r
  | step {r' : Registry} (op : Operation) (h : Reaches r r') (hadmits : r'.Admits op) :
      Reaches r (r'.perform op)

/-- The slots `held`, of which `free` more are free, have become `held'` and `free'`. -/
structure Kept (held : List Slot) (free : ℕ) (held' : List Slot) (free' : ℕ) : Prop where
  identities : held.map Slot.identity <+: held'.map Slot.identity
  room : held'.length + free' = held.length + free

variable {r r' : Registry} {held held' : List Slot} {free free' : ℕ}

namespace Kept

theorem refl (held : List Slot) (free : ℕ) : Kept held free held free :=
  ⟨List.prefix_rfl, rfl⟩

theorem trans {held'' : List Slot} {free'' : ℕ} (h : Kept held free held' free')
    (h' : Kept held' free' held'' free'') : Kept held free held'' free'' :=
  ⟨h.identities.trans h'.identities, h'.room.trans h.room⟩

theorem append (held : List Slot) (free : ℕ) (s : Slot) :
    Kept held (free + 1) (held ++ [s]) free := by
  refine ⟨?_, ?_⟩
  · rw [List.map_append]
    exact List.prefix_append _ _
  · rw [List.length_append, List.length_singleton]
    omega

theorem of_resolved {budgets : StackBudgets} {task : TaskStatus}
    {resolved : Step Registry (Except MonitorError ℕ)}
    (h : Layout.Resolved r held free budgets task resolved held' free') :
    Kept held free held' free' := by
  cases h with
  | known => exact refl held free
  | placed _ _ hfree =>
    rw [hfree]
    exact append held free' _
  | unconfigured => exact refl held free
  | full => exact refl held free

theorem of_accounted {budgets : StackBudgets} {task : TaskStatus} {before : Slot}
    (h : Layout.Accounted held free budgets task before held' free') :
    Kept held free held' free' := by
  cases h with
  | @known i _ hs =>
    have hidentities : (held.set i { before with lastRuntime := task.runtime }).map Slot.identity =
        held.map Slot.identity := map_set_of_eq hs rfl
    refine ⟨⟨[], ?_⟩, by rw [List.length_set]⟩
    rw [List.append_nil, hidentities]
  | placed _ _ hfree =>
    rw [hfree]
    exact append held free' _

/-- A slot that was held is still held, at its position. -/
theorem getElem? (h : Kept held free held' free') {i : ℕ} {s : Slot} (hs : held[i]? = some s) :
    ∃ s', held'[i]? = some s' ∧ s'.identity = s.identity := by
  obtain ⟨more, hmore⟩ := h.identities
  have hi : i < (held.map Slot.identity).length := by
    rw [List.length_map]
    exact (List.getElem?_eq_some_iff.mp hs).1
  have hidentity : (held'.map Slot.identity)[i]? = some s.identity := by
    rw [← hmore, List.getElem?_append_left hi, List.getElem?_map, hs]
    rfl
  rw [List.getElem?_map, Option.map_eq_some_iff] at hidentity
  exact hidentity

end Kept

/-! ### Every operation keeps what is held -/

theorem account_kept (budgets : StackBudgets) (deltaTotal : ℕ) (tasks : List TaskStatus) :
    ∀ {r : Registry} {held : List Slot} {free : ℕ}, Layout r held free →
    ∃ held' free', Layout (account budgets deltaTotal tasks r).state held' free' ∧
      Kept held free held' free' := by
  induction tasks with
  | nil => exact fun h => ⟨_, _, h, Kept.refl _ _⟩
  | cons task rest ih =>
    intro r held free h
    rcases h.account_cons budgets deltaTotal task rest with
      ⟨e, -, -, hstate⟩ | ⟨before, held₁, free₁, r₁, haccounted, hlayout, -, hstate⟩
    · rw [hstate]
      exact ⟨held, free, h, Kept.refl held free⟩
    · rw [hstate]
      obtain ⟨held', free', hlayout', hkept⟩ := ih hlayout
      exact ⟨held', free', hlayout', (Kept.of_accounted haccounted).trans hkept⟩

theorem recordEpoch_kept (h : Layout r held free) (snapshot : Snapshot) (budgets : StackBudgets)
    (threshold : ℕ) :
    ∃ held' free', Layout (r.recordEpoch snapshot budgets threshold).state held' free' ∧
      Kept held free held' free' := by
  obtain ⟨held', free', hlayout, hkept⟩ :=
    account_kept budgets (snapshot.total - r.lastTotal) snapshot.tasks h
  rcases r.recordEpoch_cases snapshot budgets threshold with
    ⟨-, hrefused⟩ | ⟨e, -, -, hstate⟩ | ⟨records, -, -, hstate⟩
  · rw [hrefused]
    exact ⟨held, free, h, Kept.refl held free⟩
  · rw [hstate]
    exact ⟨held', free', hlayout, hkept⟩
  · -- a success writes the total as well, which is not part of the layout
    rw [hstate]
    exact ⟨held', free', ⟨hlayout.slots_eq, hlayout.distinct⟩, hkept⟩

theorem perform_kept (h : Layout r held free) (op : Operation) (hadmits : r.Admits op) :
    ∃ held' free', Layout (r.perform op) held' free' ∧ Kept held free held' free' := by
  cases op with
  | resolve budgets task =>
    obtain ⟨held', free', hresolved, hlayout⟩ := h.resolve_resolved budgets task
    exact ⟨held', free', hlayout, Kept.of_resolved hresolved⟩
  | recordEpoch snapshot budgets threshold => exact recordEpoch_kept h snapshot budgets threshold
  | allocate id name budget =>
    -- without a free slot nothing changes, and otherwise the first free one is taken
    cases free with
    | zero =>
      refine ⟨held, 0, ?_, Kept.refl held 0⟩
      rw [perform, h.allocate_full]
      exact h
    | succ rest =>
      have hnew := (h.find_eq_none_iff id).mp hadmits
      exact ⟨_, rest, (h.allocate hnew name budget).2, Kept.append held rest _⟩

theorem reaches_kept (h : Layout r held free) (hreaches : Reaches r r') :
    ∃ held' free', Layout r' held' free' ∧ Kept held free held' free' := by
  induction hreaches with
  | refl => exact ⟨held, free, h, Kept.refl held free⟩
  | step op _ hadmits ih =>
    obtain ⟨held₁, free₁, hlayout, hkept⟩ := ih
    obtain ⟨held', free', hlayout', hkept'⟩ := perform_kept hlayout op hadmits
    exact ⟨held', free', hlayout', hkept.trans hkept'⟩

/-- **The arena.** In every registry that operations reach from an empty one, the slots are
occupied from the front without a hole, each by another identity, and an identity is found
exactly where its slot is; and whatever operations follow, it is found there with the name
and the budget it has now. -/
theorem arena_of_reaches {capacity : ℕ} {r : Registry} (h : Reaches (create capacity) r) :
    (∀ i, (r.slot? i).isSome ↔ i < r.count) ∧
    (∀ i j s t, r.slot? i = some s → r.slot? j = some t → s.id = t.id → i = j) ∧
    r.count ≤ r.capacity ∧ r.capacity = capacity ∧
    (∀ id i, r.find id = some i ↔ ∃ s, r.slot? i = some s ∧ s.id = id) ∧
    ∀ r', Reaches r r' → ∀ i s, r.slot? i = some s →
      r'.find s.id = some i ∧
      ∃ s', r'.slot? i = some s' ∧ s'.id = s.id ∧ s'.name = s.name ∧
        s'.stackBudget = s.stackBudget := by
  obtain ⟨held, free, hlayout, hkept⟩ := reaches_kept (create_layout capacity) h
  refine ⟨fun i => ?_, fun i j s t hs ht hid => ?_, ?_, ?_, fun id i => ?_,
    fun r' hreaches i s hs => ?_⟩
  · rw [hlayout.slot?_eq, hlayout.count_eq]
    simp
  · rw [hlayout.slot?_eq] at hs ht
    exact hlayout.position_unique hs ht hid
  · rw [hlayout.count_eq, hlayout.capacity_eq]
    exact Nat.le_add_right _ _
  · rw [hlayout.capacity_eq, hkept.room, List.length_nil, Nat.zero_add]
  · rw [hlayout.find_eq_some_iff, hlayout.slot?_eq]
  · obtain ⟨held', free', hlayout', hkept'⟩ := reaches_kept hlayout hreaches
    rw [hlayout.slot?_eq] at hs
    obtain ⟨s', hs', hidentity⟩ := hkept'.getElem? hs
    obtain ⟨hid, hname, hbudget⟩ : s'.id = s.id ∧ s'.name = s.name ∧
        s'.stackBudget = s.stackBudget := by
      simpa [Slot.identity] using hidentity
    refine ⟨(hlayout'.find_eq_some_iff s.id i).mpr ⟨s', hs', hid⟩, s', ?_, hid, hname, hbudget⟩
    rw [hlayout'.slot?_eq, hs']

/-- An epoch of three tasks, of which the last has no budget; the first two are one task. -/
def interrupted : Operation :=
  .recordEpoch ⟨[⟨⟨7⟩, "worker", 1, 40, 100⟩, ⟨⟨7⟩, "renamed", 1, 60, 100⟩,
    ⟨⟨9⟩, "idle", 1, 5, 100⟩], 70⟩ ⟨[("worker", 512)]⟩ 10

/-- The slot that an interrupted epoch has given away stays where it is. -/
theorem arena_of_interrupted :
    ((create 3).perform interrupted).slot? 0 = some ⟨⟨7⟩, "worker", 512, 60⟩ ∧
    ((create 3).perform interrupted).find ⟨4⟩ = none ∧
    (((create 3).perform interrupted).perform (.allocate ⟨4⟩ "late" 64)).find ⟨7⟩ = some 0 := by
  have hreaches : Reaches (create 3) ((create 3).perform interrupted) :=
    .step interrupted .refl trivial
  have hslot : ((create 3).perform interrupted).slot? 0 = some ⟨⟨7⟩, "worker", 512, 60⟩ := by
    decide
  have hnew : ((create 3).perform interrupted).find ⟨4⟩ = none := by decide
  obtain ⟨-, -, -, -, -, hkept⟩ := arena_of_reaches hreaches
  exact ⟨hslot, hnew, (hkept _ (.step (.allocate ⟨4⟩ "late" 64) .refl hnew) 0 _ hslot).1⟩

end Registry

end Telemetry
