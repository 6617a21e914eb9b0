/-
Snapshots whose tasks come in another order.

Two registries account the same calls, but in each snapshot of the second the tasks are
permuted. Their slots are laid out differently from the first call on, and still nobody who
looks an identity up can tell them apart: in a snapshot without repetition, what becomes of a
task depends on what its own identity has, and whether all tasks find a slot depends on how
many of them are new.

* `Registry.known?` — what a registry knows of an identity, wherever its slot is;
* `Shuffled`, `Reordered` — one list of tasks, or of calls, in another order;
* `Seated` — what accounting one task changes, said of identities alone;
* `Accountable`, `Settled`, `account_distinct` — when accounting distinct tasks succeeds, and what
  comes of it;
* `Alike` — registries that know the same, and `Alike.recordEpoch`, that they stay so;
* `Registry.answers_reordered` — both runs fail at the same call first, and until then their
  records are permuted like the tasks and their registries are alike.

Design notes: the error of a call may depend on the order, so runs are compared up to the first
that fails.
-/
import Mathlib.Logic.Equiv.Basic
import Telemetry.Proofs.Registry.History

namespace Telemetry

namespace Registry

/-- What a registry knows of an identity, wherever its slot is. -/
def known? (r : Registry) (id : TaskId) : Option Slot := (r.find id).bind r.slot?

/-- The slot of a task before it is accounted: that of its identity, or a new one. -/
def slotFor? (r : Registry) (budgets : StackBudgets) (task : TaskStatus) : Option Slot :=
  (r.known? task.id).or
    ((budgets.get? task.name).map fun budget => ⟨task.id, task.name, budget, 0⟩)

/-- The number of tasks whose identity has no slot. -/
def newcomers (r : Registry) (tasks : List TaskStatus) : ℕ :=
  tasks.countP fun task => (r.known? task.id).isNone

variable {r r' : Registry} {held held' : List Slot} {free free' : ℕ} {budgets : StackBudgets}

namespace Layout

theorem known?_eq_some_iff (h : Layout r held free) (id : TaskId) (s : Slot) :
    r.known? id = some s ↔ s ∈ held ∧ s.id = id := by
  rw [known?, Option.bind_eq_some_iff]
  constructor
  · rintro ⟨i, hfind, hslot⟩
    obtain ⟨t, ht, hid⟩ := (h.find_eq_some_iff id i).mp hfind
    rw [h.slot?_eq, ht, Option.some.injEq] at hslot
    rw [← hslot]
    exact ⟨List.mem_of_getElem? ht, hid⟩
  · rintro ⟨hs, hid⟩
    obtain ⟨i, hi⟩ := List.mem_iff_getElem?.mp hs
    refine ⟨i, (h.find_eq_some_iff id i).mpr ⟨s, hi, hid⟩, ?_⟩
    rw [h.slot?_eq, hi]

theorem known?_eq_none_iff (h : Layout r held free) (id : TaskId) :
    r.known? id = none ↔ ∀ s ∈ held, s.id ≠ id := by
  rw [Option.eq_none_iff_forall_ne_some]
  constructor
  · intro hnone s hs hid
    exact hnone s ((h.known?_eq_some_iff id s).mpr ⟨hs, hid⟩)
  · intro hnew s hs
    obtain ⟨hmem, hid⟩ := (h.known?_eq_some_iff id s).mp hs
    exact hnew s hmem hid

end Layout

/-! ### One task -/

/-- What accounting a task changes: `before` was its slot, and `r` becomes `r'`. -/
structure Seated (r : Registry) (budgets : StackBudgets) (task : TaskStatus) (before : Slot)
    (r' : Registry) : Prop where
  slot : r.slotFor? budgets task = some before
  own : r'.known? task.id = some { before with lastRuntime := task.runtime }
  others : ∀ id, id ≠ task.id → r'.known? id = r.known? id
  count : r'.count = r.count + r.newcomers [task]
  capacity : r'.capacity = r.capacity

theorem Layout.Accounted.seated {task : TaskStatus} {before : Slot}
    (haccounted : Layout.Accounted held free budgets task before held' free')
    (h : Layout r held free) (h' : Layout r' held' free') : Seated r budgets task before r' := by
  cases haccounted with
  | @known i _ hs hid =>
    have hbefore : before ∈ held := List.mem_of_getElem? hs
    have hi : i < held.length := (List.getElem?_eq_some_iff.mp hs).1
    have hknown : r.known? task.id = some before :=
      (h.known?_eq_some_iff _ _).mpr ⟨hbefore, hid⟩
    have hset : { before with lastRuntime := task.runtime } ∈
        held.set i { before with lastRuntime := task.runtime } :=
      List.mem_of_getElem? (List.getElem?_set_self hi)
    refine ⟨?_, (h'.known?_eq_some_iff _ _).mpr ⟨hset, hid⟩, ?_, ?_, ?_⟩
    · rw [slotFor?, hknown, Option.some_or]
    · intro id hother
      refine Option.ext fun s => ?_
      rw [h'.known?_eq_some_iff, h.known?_eq_some_iff]
      constructor
      · rintro ⟨hs', rfl⟩
        rcases h.mem_set hs hs' with rfl | ⟨hmem, -⟩
        · exact absurd hid hother
        · exact ⟨hmem, rfl⟩
      · -- a slot of another identity is at another position, and stays there
        rintro ⟨hmem, rfl⟩
        obtain ⟨j, hj⟩ := List.mem_iff_getElem?.mp hmem
        have hij : i ≠ j := by
          rintro rfl
          rw [hs, Option.some.injEq] at hj
          exact hother (hj ▸ hid)
        rw [← List.getElem?_set_ne hij (a := { before with lastRuntime := task.runtime })] at hj
        exact ⟨List.mem_of_getElem? hj, rfl⟩
    · rw [h'.count_eq, h.count_eq, List.length_set, newcomers, List.countP_singleton, hknown]
      rfl
    · rw [h'.capacity_eq, h.capacity_eq, List.length_set]
  | @placed budget rest hnew hbudget hfree =>
    have hknown : r.known? task.id = none := (h.known?_eq_none_iff _).mpr hnew
    refine ⟨?_, (h'.known?_eq_some_iff _ _).mpr ⟨by simp, rfl⟩, ?_, ?_, ?_⟩
    · rw [slotFor?, hknown, Option.none_or, hbudget, Option.map_some]
    · intro id hother
      refine Option.ext fun s => ?_
      rw [h'.known?_eq_some_iff, h.known?_eq_some_iff, List.mem_append, List.mem_singleton]
      constructor
      · rintro ⟨hmem | rfl, hid⟩
        · exact ⟨hmem, hid⟩
        · exact absurd hid.symm hother
      · rintro ⟨hmem, hid⟩
        exact ⟨Or.inl hmem, hid⟩
    · rw [h'.count_eq, h.count_eq, List.length_append, newcomers, List.countP_singleton, hknown]
      rfl
    · rw [h'.capacity_eq, h.capacity_eq, List.length_append, List.length_singleton, hfree]
      omega

/-- Two tasks with different identities do not see each other's entries. -/
theorem Seated.slotFor?_of_ne {task other : TaskStatus} {before : Slot}
    (h : Seated r budgets task before r') (hother : other.id ≠ task.id) :
    r'.slotFor? budgets other = r.slotFor? budgets other := by
  rw [slotFor?, slotFor?, h.others _ hother]

theorem Seated.newcomers_of_ne {task : TaskStatus} {before : Slot} {tasks : List TaskStatus}
    (h : Seated r budgets task before r') (hother : ∀ t ∈ tasks, t.id ≠ task.id) :
    r'.newcomers tasks = r.newcomers tasks := by
  refine List.countP_congr fun t ht => ?_
  rw [h.others _ (hother t ht)]

/-! ### All tasks of a snapshot -/

/-- Every task has a slot or a budget to get one with, and there is room for those without. -/
structure Accountable (r : Registry) (budgets : StackBudgets) (tasks : List TaskStatus) :
    Prop where
  slots : ∀ task ∈ tasks, (r.slotFor? budgets task).isSome
  room : r.count + r.newcomers tasks ≤ r.capacity

/-- The record of a task by its own entry. -/
def recordOf? (r : Registry) (budgets : StackBudgets) (deltaTotal : ℕ) (task : TaskStatus) :
    Option Record :=
  (r.slotFor? budgets task).map (record · task deltaTotal)

/-- What accounting distinct tasks leads to: `r` becomes `r'`, with these records. -/
structure Settled (r : Registry) (budgets : StackBudgets) (deltaTotal : ℕ)
    (tasks : List TaskStatus) (records : List Record) (r' : Registry) : Prop where
  records_eq : ∀ i : ℕ, records[i]? = tasks[i]?.bind (r.recordOf? budgets deltaTotal)
  listed : ∀ task ∈ tasks, r'.known? task.id =
    (r.slotFor? budgets task).map fun s => { s with lastRuntime := task.runtime }
  unlisted : ∀ id, (∀ task ∈ tasks, task.id ≠ id) → r'.known? id = r.known? id
  count : r'.count = r.count + r.newcomers tasks
  capacity : r'.capacity = r.capacity

variable {task : TaskStatus} {rest : List TaskStatus} {before : Slot} {r₁ : Registry}

theorem newcomers_cons (r : Registry) (task : TaskStatus) (rest : List TaskStatus) :
    r.newcomers (task :: rest) = r.newcomers [task] + r.newcomers rest := by
  rw [newcomers, newcomers, newcomers, ← List.countP_append, List.singleton_append]

/-- After its first task has been accounted, the others of a list are as accountable as all
were. -/
theorem Seated.accountable_iff (h : Seated r budgets task before r₁)
    (hother : ∀ t ∈ rest, t.id ≠ task.id) :
    r.Accountable budgets (task :: rest) ↔ r₁.Accountable budgets rest := by
  have hroom : r.count + r.newcomers (task :: rest) ≤ r.capacity ↔
      r₁.count + r₁.newcomers rest ≤ r₁.capacity := by
    rw [h.count, h.capacity, h.newcomers_of_ne hother, newcomers_cons]
    omega
  constructor
  · intro haccountable
    refine ⟨fun t ht => ?_, hroom.mp haccountable.room⟩
    rw [h.slotFor?_of_ne (hother t ht)]
    exact haccountable.slots t (List.mem_cons_of_mem _ ht)
  · intro haccountable
    refine ⟨fun t ht => ?_, hroom.mpr haccountable.room⟩
    rcases List.mem_cons.mp ht with rfl | ht
    · rw [h.slot]
      rfl
    · rw [← h.slotFor?_of_ne (hother t ht)]
      exact haccountable.slots t ht

/-- One task, and then others of other identities. -/
theorem Seated.settled {deltaTotal : ℕ} {records : List Record}
    (h : Seated r budgets task before r₁) (hother : ∀ t ∈ rest, t.id ≠ task.id)
    (hrest : Settled r₁ budgets deltaTotal rest records r') :
    Settled r budgets deltaTotal (task :: rest) (record before task deltaTotal :: records) r' := by
  refine ⟨?_, ?_, ?_, ?_, hrest.capacity.trans h.capacity⟩
  · intro i
    cases i with
    | zero =>
      rw [List.getElem?_cons_zero, List.getElem?_cons_zero, Option.bind_some, recordOf?, h.slot]
      rfl
    | succ i =>
      rw [List.getElem?_cons_succ, List.getElem?_cons_succ, hrest.records_eq]
      rcases ht : rest[i]? with _ | t
      · rfl
      · rw [Option.bind_some, Option.bind_some, recordOf?, recordOf?,
          h.slotFor?_of_ne (hother t (List.mem_of_getElem? ht))]
  · intro t ht
    rcases List.mem_cons.mp ht with rfl | ht
    · rw [hrest.unlisted t.id hother, h.own, h.slot]
      rfl
    · rw [hrest.listed t ht, h.slotFor?_of_ne (hother t ht)]
  · intro id hunlisted
    rw [hrest.unlisted id fun t ht => hunlisted t (List.mem_cons_of_mem _ ht),
      h.others id (hunlisted task List.mem_cons_self).symm]
  · rw [hrest.count, h.count, h.newcomers_of_ne hother, newcomers_cons r task rest,
      Nat.add_assoc]

/-- A task that cannot be resolved is not accountable, whatever comes after it. -/
theorem Layout.not_accountable (h : Layout r held free) {e : MonitorError}
    (herror : (r.resolve budgets task).answer = .error e) :
    ¬ r.Accountable budgets (task :: rest) := by
  intro haccountable
  obtain ⟨held', free', hresolved, -⟩ := h.resolve_resolved budgets task
  generalize r.resolve budgets task = resolved at hresolved herror
  cases hresolved with
  | known => cases herror
  | placed => cases herror
  | unconfigured hnew hbudget =>
    have hslot := haccountable.slots task List.mem_cons_self
    rw [slotFor?, (h.known?_eq_none_iff _).mpr hnew, hbudget] at hslot
    cases hslot
  | full hnew hbudget hfree =>
    have hroom := haccountable.room
    have hone : r.newcomers [task] = 1 := by
      rw [newcomers, List.countP_singleton, (h.known?_eq_none_iff _).mpr hnew]
      rfl
    rw [newcomers_cons, h.count_eq, h.capacity_eq, hone, hfree] at hroom
    omega

/-- Tasks of distinct identities are accounted if they are accountable, and each by its own
entry. -/
theorem account_distinct (budgets : StackBudgets) (deltaTotal : ℕ) (tasks : List TaskStatus) :
    ∀ {r : Registry} {held : List Slot} {free : ℕ}, Layout r held free →
    (tasks.map (·.id)).Nodup →
    (∃ e, (account budgets deltaTotal tasks r).answer = .error e ∧
      ¬ r.Accountable budgets tasks) ∨
    ∃ records, (account budgets deltaTotal tasks r).answer = .ok records ∧
      r.Accountable budgets tasks ∧
      Settled r budgets deltaTotal tasks records (account budgets deltaTotal tasks r).state ∧
      ∃ held' free', Layout (account budgets deltaTotal tasks r).state held' free' := by
  -- on the tasks: what is known of the registry behind the first of them is said of the
  -- registry in front of it, since the others have other identities
  induction tasks with
  | nil =>
    intro r held free h _
    have hroom : r.count ≤ r.capacity := by
      rw [h.count_eq, h.capacity_eq]
      exact Nat.le_add_right _ _
    exact Or.inr ⟨[], rfl, ⟨nofun, hroom⟩,
      ⟨fun _ => rfl, nofun, fun _ _ => rfl, rfl, rfl⟩, held, free, h⟩
  | cons task rest ih =>
    intro r held free h hdistinct
    rw [List.map_cons, List.nodup_cons] at hdistinct
    have hother : ∀ t ∈ rest, t.id ≠ task.id := fun t ht hid =>
      hdistinct.1 (List.mem_map.mpr ⟨t, ht, hid⟩)
    rcases h.account_cons budgets deltaTotal task rest with
      ⟨e, hresolve, herror, -⟩ | ⟨before, held₁, free₁, r₁, haccounted, h₁, hanswer, hstate⟩
    · exact Or.inl ⟨e, herror, h.not_accountable hresolve⟩
    · have hseated := haccounted.seated h h₁
      have hiff := hseated.accountable_iff hother
      rw [hanswer, hstate, hiff]
      rcases ih h₁ hdistinct.2 with
        ⟨e, herror, hnot⟩ | ⟨records, hok, haccountable, hsettled, hlayout⟩
      · refine Or.inl ⟨e, ?_, hnot⟩
        rw [herror]
        rfl
      · refine Or.inr ⟨record before task deltaTotal :: records, ?_, haccountable,
          hseated.settled hother hsettled, hlayout⟩
        rw [hok]
        rfl

/-! ### Two registries -/

/-- The list `ys` is `xs` with its places permuted: the one at `i` was at `σ i`. -/
def Shuffled {α : Type} (σ : Equiv.Perm ℕ) (xs ys : List α) : Prop :=
  ∀ i, ys[i]? = xs[σ i]?

theorem Shuffled.mem_iff {α : Type} {σ : Equiv.Perm ℕ} {xs ys : List α} (h : Shuffled σ xs ys)
    (a : α) : a ∈ ys ↔ a ∈ xs := by
  rw [List.mem_iff_getElem?, List.mem_iff_getElem?]
  constructor
  · rintro ⟨i, hi⟩
    exact ⟨σ i, (h i).symm.trans hi⟩
  · rintro ⟨i, hi⟩
    refine ⟨σ.symm i, ?_⟩
    rw [h, Equiv.apply_symm_apply, hi]

theorem Shuffled.map {α β : Type} {σ : Equiv.Perm ℕ} {xs ys : List α} (h : Shuffled σ xs ys)
    (f : α → β) : Shuffled σ (xs.map f) (ys.map f) := by
  intro i
  rw [List.getElem?_map, List.getElem?_map, h]

theorem Shuffled.nodup {α : Type} {σ : Equiv.Perm ℕ} {xs ys : List α} (h : Shuffled σ xs ys)
    (hxs : xs.Nodup) : ys.Nodup := by
  rw [List.nodup_iff_getElem?_ne_getElem?]
  intro i j hij hj heq
  rw [h, h] at heq
  have hget := List.getElem?_eq_getElem hj
  rw [h, ← heq] at hget
  have hi : σ i < xs.length := (List.getElem?_eq_some_iff.mp hget).1
  have hsame := σ.injective ((List.getElem?_inj hi hxs).mp heq)
  omega

/-- Without repetition, a shuffled list is a permutation. -/
theorem Shuffled.perm {α : Type} {σ : Equiv.Perm ℕ} {xs ys : List α} (h : Shuffled σ xs ys)
    (hxs : xs.Nodup) : xs.Perm ys :=
  (List.perm_ext_iff_of_nodup hxs (h.nodup hxs)).mpr fun a => (h.mem_iff a).symm

/-- What recording a snapshot of distinct tasks does: it fails, or each task is accounted by its
own entry. -/
theorem recordEpoch_distinct (h : Layout r held free) (snapshot : Snapshot)
    (budgets : StackBudgets) (threshold : ℕ) (hdistinct : (snapshot.tasks.map (·.id)).Nodup) :
    (∃ e, (r.recordEpoch snapshot budgets threshold).answer = .error e ∧
      ¬ (snapshot.tasks.length ≤ r.capacity ∧ r.Accountable budgets snapshot.tasks)) ∨
    ∃ records, (r.recordEpoch snapshot budgets threshold).answer =
        .ok (if threshold ≤ snapshot.total - r.lastTotal then records else []) ∧
      (snapshot.tasks.length ≤ r.capacity ∧ r.Accountable budgets snapshot.tasks) ∧
      Settled r budgets (snapshot.total - r.lastTotal) snapshot.tasks records
        (r.recordEpoch snapshot budgets threshold).state ∧
      (r.recordEpoch snapshot budgets threshold).state.lastTotal = snapshot.total ∧
      ∃ held' free', Layout (r.recordEpoch snapshot budgets threshold).state held' free' := by
  by_cases hcapacity : r.capacity < snapshot.tasks.length
  · refine Or.inl ⟨.capacityExceeded snapshot.tasks.length r.capacity, ?_, ?_⟩
    · rw [recordEpoch, if_pos hcapacity]
    · rintro ⟨hfits, -⟩
      omega
  · rw [recordEpoch, if_neg hcapacity]
    simp only
    rcases account_distinct budgets (snapshot.total - r.lastTotal) snapshot.tasks h hdistinct with
      ⟨e, herror, hnot⟩ | ⟨records, hok, haccountable, hsettled, held', free', hlayout⟩
    · rw [herror]
      exact Or.inl ⟨e, rfl, fun hboth => hnot hboth.2⟩
    · -- the total is written besides, and no entry depends on it
      rw [hok]
      exact Or.inr ⟨records, rfl, ⟨Nat.le_of_not_lt hcapacity, haccountable⟩,
        ⟨hsettled.records_eq, hsettled.listed, hsettled.unlisted, hsettled.count,
          hsettled.capacity⟩, rfl, held', free', hlayout.slots_eq, hlayout.distinct⟩

/-- Registries of one size that have the same entries for all identities, at one total. -/
structure Alike (r r' : Registry) : Prop where
  layout : ∃ held free, Layout r held free
  layout' : ∃ held free, Layout r' held free
  known : ∀ id, r.known? id = r'.known? id
  count : r.count = r'.count
  capacity : r.capacity = r'.capacity
  lastTotal : r.lastTotal = r'.lastTotal

theorem create_alike (capacity : ℕ) : Alike (create capacity) (create capacity) :=
  ⟨⟨[], capacity, create_layout capacity⟩, ⟨[], capacity, create_layout capacity⟩,
    fun _ => rfl, rfl, rfl, rfl⟩

namespace Alike

variable {σ : Equiv.Perm ℕ} {tasks tasks' : List TaskStatus}

theorem slotFor? (h : Alike r r') (budgets : StackBudgets) (task : TaskStatus) :
    r.slotFor? budgets task = r'.slotFor? budgets task := by
  rw [Registry.slotFor?, Registry.slotFor?, h.known]

theorem newcomers (h : Alike r r') (htasks : tasks.Perm tasks') :
    r.newcomers tasks = r'.newcomers tasks' := by
  rw [Registry.newcomers, Registry.newcomers, htasks.countP_eq]
  refine List.countP_congr fun task _ => ?_
  rw [h.known]

theorem accountable_iff (h : Alike r r') (htasks : tasks.Perm tasks') :
    r.Accountable budgets tasks ↔ r'.Accountable budgets tasks' := by
  have hslots : (∀ task ∈ tasks, (r.slotFor? budgets task).isSome) ↔
      ∀ task ∈ tasks', (r'.slotFor? budgets task).isSome := by
    simp only [h.slotFor?, htasks.mem_iff]
  have hroom : r.count + r.newcomers tasks ≤ r.capacity ↔
      r'.count + r'.newcomers tasks' ≤ r'.capacity := by
    rw [h.count, h.capacity, h.newcomers htasks]
  exact ⟨fun ⟨hs, hr⟩ => ⟨hslots.mp hs, hroom.mp hr⟩, fun ⟨hs, hr⟩ => ⟨hslots.mpr hs, hroom.mpr hr⟩⟩

/-- Records of tasks in another order are the same records in that order. -/
theorem shuffled (h : Alike r r') (hσ : Shuffled σ tasks tasks') {deltaTotal : ℕ}
    {records records' : List Record} {r₁ r₁' : Registry}
    (hsettled : Settled r budgets deltaTotal tasks records r₁)
    (hsettled' : Settled r' budgets deltaTotal tasks' records' r₁') :
    Shuffled σ records records' := by
  intro i
  rw [hsettled.records_eq, hsettled'.records_eq, hσ]
  rcases tasks[σ i]? with _ | task
  · rfl
  · rw [Option.bind_some, Option.bind_some, recordOf?, recordOf?, h.slotFor?]

/-- Tasks in another order leave the same entries. -/
theorem settled (h : Alike r r') (htasks : tasks.Perm tasks') {deltaTotal : ℕ}
    {records records' : List Record} {r₁ r₁' : Registry}
    (hsettled : Settled r budgets deltaTotal tasks records r₁)
    (hsettled' : Settled r' budgets deltaTotal tasks' records' r₁')
    (hlayout : ∃ held free, Layout r₁ held free) (hlayout' : ∃ held free, Layout r₁' held free)
    (htotal : r₁.lastTotal = r₁'.lastTotal) : Alike r₁ r₁' := by
  refine ⟨hlayout, hlayout', ?_, ?_, ?_, htotal⟩
  · intro id
    by_cases hlisted : ∃ task ∈ tasks, task.id = id
    · obtain ⟨task, htask, rfl⟩ := hlisted
      rw [hsettled.listed task htask, hsettled'.listed task (htasks.mem_iff.mp htask), h.slotFor?]
    · have hunlisted : ∀ task ∈ tasks, task.id ≠ id := fun task htask hid =>
        hlisted ⟨task, htask, hid⟩
      rw [hsettled.unlisted id hunlisted,
        hsettled'.unlisted id fun task htask => hunlisted task (htasks.mem_iff.mpr htask),
        h.known]
  · rw [hsettled.count, hsettled'.count, h.count, h.newcomers htasks]
  · rw [hsettled.capacity, hsettled'.capacity, h.capacity]

end Alike

/-! ### Calls -/

/-- The calls of two runs: in each of the second the tasks are permuted. -/
inductive Reordered : List (Equiv.Perm ℕ) → List Epoch → List Epoch → Prop
  | nil : Reordered [] [] []
  | cons {σ : Equiv.Perm ℕ} {σs : List (Equiv.Perm ℕ)} {call : Epoch} {tasks : List TaskStatus}
      {calls calls' : List Epoch} (htasks : Shuffled σ call.snapshot.tasks tasks)
      (h : Reordered σs calls calls') :
      Reordered (σ :: σs) (call :: calls)
        (⟨⟨tasks, call.snapshot.total⟩, call.budgets, call.threshold⟩ :: calls')

/-- The registry after calls made one after the other, whether or not they succeed. -/
def after (r : Registry) : List Epoch → Registry
  | [] => r
  | call :: rest => after (r.recordEpoch call.snapshot call.budgets call.threshold).state rest

/-- Whether an answer is an error. -/
def isFailure {ε α : Type} : Except ε α → Bool
  | .ok _ => false
  | .error _ => true

/-- Alike registries fail together at a call, or give the same records in the order of the
tasks and stay alike. -/
theorem Alike.recordEpoch (h : Alike r r') {σ : Equiv.Perm ℕ} (call : Epoch)
    {tasks : List TaskStatus} (hσ : Shuffled σ call.snapshot.tasks tasks)
    (hdistinct : (call.snapshot.tasks.map (·.id)).Nodup) :
    let done := r.recordEpoch call.snapshot call.budgets call.threshold
    let done' := r'.recordEpoch ⟨tasks, call.snapshot.total⟩ call.budgets call.threshold
    (∃ e e', done.answer = .error e ∧ done'.answer = .error e') ∨
    ∃ records records', done.answer = .ok records ∧ done'.answer = .ok records' ∧
      Shuffled σ records records' ∧ Alike done.state done'.state := by
  intro done done'
  have hperm : call.snapshot.tasks.Perm tasks := hσ.perm (List.Nodup.of_map _ hdistinct)
  have hdistinct' : (tasks.map (·.id)).Nodup := (hσ.map (·.id)).nodup hdistinct
  obtain ⟨held, free, hlayout⟩ := h.layout
  obtain ⟨held', free', hlayout'⟩ := h.layout'
  have hiff : (call.snapshot.tasks.length ≤ r.capacity ∧
        r.Accountable call.budgets call.snapshot.tasks) ↔
      (tasks.length ≤ r'.capacity ∧ r'.Accountable call.budgets tasks) := by
    rw [hperm.length_eq, h.capacity, h.accountable_iff hperm]
  rcases recordEpoch_distinct hlayout call.snapshot call.budgets call.threshold hdistinct with
    ⟨e, herror, hnot⟩ | ⟨records, hok, haccountable, hsettled, htotal, hkept⟩
  · rcases recordEpoch_distinct hlayout' ⟨tasks, call.snapshot.total⟩ call.budgets call.threshold
      hdistinct' with ⟨e', herror', -⟩ | ⟨-, -, haccountable', -⟩
    · exact Or.inl ⟨e, e', herror, herror'⟩
    · exact absurd (hiff.mpr haccountable') hnot
  · rcases recordEpoch_distinct hlayout' ⟨tasks, call.snapshot.total⟩ call.budgets call.threshold
      hdistinct' with ⟨-, -, hnot'⟩ | ⟨records', hok', -, hsettled', htotal', hkept'⟩
    · exact absurd (hiff.mp haccountable) hnot'
    · rw [← h.lastTotal] at hok' hsettled'
      have hshuffled := h.shuffled hσ hsettled hsettled'
      refine Or.inr ⟨_, _, hok, hok', ?_,
        h.settled hperm hsettled hsettled' hkept hkept' (htotal.trans htotal'.symm)⟩
      -- an epoch is long enough for both registries or for neither
      by_cases hlong : call.threshold ≤ call.snapshot.total - r.lastTotal
      · rw [if_pos hlong, if_pos hlong]
        exact hshuffled
      · rw [if_neg hlong, if_neg hlong]
        intro i
        rfl

/-- Runs of alike registries over reordered calls. -/
theorem Alike.answers {σs : List (Equiv.Perm ℕ)} {calls calls' : List Epoch}
    (hcalls : Reordered σs calls calls') : ∀ {r r' : Registry}, Alike r r' →
    (∀ call ∈ calls, (call.snapshot.tasks.map (·.id)).Nodup) →
    (r.answers calls).findIdx? isFailure = (r'.answers calls').findIdx? isFailure ∧
    ∀ k σ, σs[k]? = some σ →
      (∀ i, (r.answers calls).findIdx? isFailure = some i → k < i) →
      ∃ records records', (r.answers calls)[k]? = some (.ok records) ∧
        (r'.answers calls')[k]? = some (.ok records') ∧ Shuffled σ records records' ∧
        Alike (r.after (calls.take (k + 1))) (r'.after (calls'.take (k + 1))) := by
  induction hcalls with
  | nil =>
    intro r r' _ _
    refine ⟨rfl, ?_⟩
    intro k σ hσ
    simp at hσ
  | @cons σ₀ σs call tasks calls calls' htasks _ ih =>
    intro r r' h hdistinct
    have hstep := h.recordEpoch call htasks (hdistinct call List.mem_cons_self)
    rw [Registry.answers, Registry.answers]
    rcases hstep with ⟨e, e', herror, herror'⟩ | ⟨records, records', hok, hok', hshuffled, halike⟩
    · -- nothing comes before the first call
      simp only [List.findIdx?_cons, herror, herror', isFailure, if_true]
      refine ⟨trivial, ?_⟩
      intro k σ _ hbefore
      exact absurd (hbefore 0 rfl) (Nat.not_lt_zero k)
    · obtain ⟨hfirst, hall⟩ := ih halike fun c hc => hdistinct c (List.mem_cons_of_mem _ hc)
      simp only [List.findIdx?_cons, hok, hok', isFailure, Bool.false_eq_true, if_false, hfirst]
      refine ⟨trivial, ?_⟩
      intro k σ hσ hbefore
      cases k with
      | zero =>
        obtain rfl : σ₀ = σ := Option.some.inj hσ
        exact ⟨records, records', rfl, rfl, hshuffled, halike⟩
      | succ k =>
        refine hall k σ hσ fun i hi => ?_
        rw [hfirst] at hi
        have := hbefore (i + 1) (by rw [hi]; rfl)
        omega

/-- **Order.** On registries that were empty, calls and the same calls with each snapshot in
another order fail first at the same place. In each call before it the records are permuted like
the tasks, and after it both registries have the same total and know the same of every identity,
in whatever slot. -/
theorem answers_reordered {capacity : ℕ} {σs : List (Equiv.Perm ℕ)} {calls calls' : List Epoch}
    (h : Reordered σs calls calls')
    (hdistinct : ∀ call ∈ calls, (call.snapshot.tasks.map (·.id)).Nodup) :
    let r := create capacity
    (r.answers calls).findIdx? isFailure = (r.answers calls').findIdx? isFailure ∧
    ∀ k σ, σs[k]? = some σ →
      (∀ i, (r.answers calls).findIdx? isFailure = some i → k < i) →
      ∃ records records', (r.answers calls)[k]? = some (.ok records) ∧
        (r.answers calls')[k]? = some (.ok records') ∧ Shuffled σ records records' ∧
        (∀ id, (r.after (calls.take (k + 1))).known? id =
          (r.after (calls'.take (k + 1))).known? id) ∧
        (r.after (calls.take (k + 1))).lastTotal = (r.after (calls'.take (k + 1))).lastTotal := by
  obtain ⟨hfirst, hall⟩ := (create_alike capacity).answers h hdistinct
  refine ⟨hfirst, fun k σ hσ hbefore => ?_⟩
  obtain ⟨records, records', hrecords, hrecords', hshuffled, halike⟩ := hall k σ hσ hbefore
  exact ⟨records, records', hrecords, hrecords', hshuffled, halike.known, halike.lastTotal⟩

/-- Three calls on a registry of two slots: the second is short, and in the last one task has no
budget and the other finds no slot. -/
def crowded : List Epoch :=
  let budgets : StackBudgets := ⟨[("relay", 8), ("probe", 9)]⟩
  [⟨⟨[⟨⟨1⟩, "relay", 1, 40, 100⟩, ⟨⟨2⟩, "probe", 1, 10, 90⟩], 100⟩, budgets, 10⟩,
    ⟨⟨[⟨⟨2⟩, "probe", 1, 12, 90⟩, ⟨⟨1⟩, "relay", 1, 43, 99⟩], 105⟩, budgets, 10⟩,
    ⟨⟨[⟨⟨3⟩, "spare", 1, 0, 50⟩, ⟨⟨4⟩, "relay", 1, 0, 50⟩], 200⟩, budgets, 10⟩]

/-- The same calls with the two tasks of each the other way round. -/
def crossed : List Epoch :=
  crowded.map fun call =>
    ⟨⟨call.snapshot.tasks.reverse, call.snapshot.total⟩, call.budgets, call.threshold⟩

theorem shuffled_pair {α : Type} (a b : α) : Shuffled (Equiv.swap 0 1) [a, b] [b, a] := by
  intro i
  rcases i with _ | _ | i
  · rw [Equiv.swap_apply_left]
    rfl
  · rw [Equiv.swap_apply_right]
    rfl
  · rw [Equiv.swap_apply_of_ne_of_ne (by omega) (by omega)]
    rfl

/-- The last call fails in both orders, though for another reason, and the first is answered with
the same records. -/
theorem answers_crossed :
    ((create 2).answers crowded)[2]? = some (.error (.unconfigured ⟨3⟩ "spare")) ∧
    ((create 2).answers crossed)[2]? = some (.error (.capacityExceeded 3 2)) ∧
    ((create 2).answers crossed).findIdx? isFailure = some 2 ∧
    ∃ records records', ((create 2).answers crowded)[0]? = some (.ok records) ∧
      ((create 2).answers crossed)[0]? = some (.ok records') ∧
      Shuffled (Equiv.swap 0 1) records records' := by
  have hreordered : Reordered (List.replicate 3 (Equiv.swap 0 1)) crowded crossed :=
    .cons (shuffled_pair _ _) (.cons (shuffled_pair _ _) (.cons (shuffled_pair _ _) .nil))
  have hdistinct : ∀ call ∈ crowded, (call.snapshot.tasks.map (·.id)).Nodup := by decide
  have hfails : ((create 2).answers crowded).findIdx? isFailure = some 2 := by rfl
  obtain ⟨hfirst, hall⟩ := @answers_reordered 2 _ _ _ hreordered hdistinct
  obtain ⟨records, records', hrecords, hrecords', hshuffled, -⟩ :=
    hall 0 (Equiv.swap 0 1) rfl fun i hi => by
      obtain rfl : 2 = i := Option.some.inj (hfails.symm.trans hi)
      exact Nat.two_pos
  exact ⟨rfl, rfl, hfirst.symm.trans hfails, records, records', hrecords, hrecords', hshuffled⟩

end Registry

end Telemetry
