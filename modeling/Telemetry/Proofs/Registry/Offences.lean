/-
Snapshots that cannot be accounted, and what they leave behind.

An entry offends if its identity is new, to the registry and among the entries before it, and
has no budget or finds no free slot. The first entry that offends decides the error of an epoch,
and the entries before it have been accounted all the same.

* `Registry.offence?` — why an entry offends behind others, from identities, budgets and numbers
  alone;
* `Registry.Blameless` — no entry of a list offends behind those before it;
* `exists_first_offence` — in any other list one entry offends first;
* `account_append` — accounting a list is accounting its two parts one after the other;
* `account_isOk_iff` — accounting succeeds exactly on blameless lists;
* `recordEpoch_of_offence` — what the first entry that offends makes of an epoch.
-/
import Mathlib.Data.Finset.Dedup
import Mathlib.Data.Finset.Card
import Telemetry.Proofs.Monitor.Poll
import Telemetry.Proofs.Registry.Arena

namespace Telemetry

namespace Registry

/-- The identities that have a slot. -/
def identities (r : Registry) : Finset TaskId := (r.occupied.map (·.id)).toFinset

/-- The identities that have a slot or come in the entries `earlier`. -/
def identitiesBehind (r : Registry) (earlier : List TaskStatus) : Finset TaskId :=
  r.identities ∪ (earlier.map (·.id)).toFinset

/-- Why an entry cannot be accounted behind the entries `earlier`, if it cannot: its identity is
new, and a budget is missing or else a slot. -/
def offence? (r : Registry) (budgets : StackBudgets) (earlier : List TaskStatus)
    (task : TaskStatus) : Option MonitorError :=
  if task.id ∈ r.identitiesBehind earlier then none
  else
    match budgets.get? task.name with
    | none => some (.unconfigured task.id task.name)
    | some _ =>
      if r.capacity ≤ (r.identitiesBehind earlier).card then
        some (.capacityExceeded (r.capacity + 1) r.capacity)
      else none

/-- No entry offends behind the entries before it. -/
def Blameless (r : Registry) (budgets : StackBudgets) (tasks : List TaskStatus) : Prop :=
  ∀ earlier task later, tasks = earlier ++ task :: later →
    r.offence? budgets earlier task = none

variable {r r' : Registry} {held held' : List Slot} {free free' : ℕ} {budgets : StackBudgets}
  {task : TaskStatus}

/-! ### Identities and slots -/

namespace Layout

theorem identities_eq (h : Layout r held free) : r.identities = (held.map (·.id)).toFinset := by
  rw [identities, h.occupied_eq]

theorem mem_identities (h : Layout r held free) (id : TaskId) :
    id ∈ r.identities ↔ ∃ s ∈ held, s.id = id := by
  rw [h.identities_eq, List.mem_toFinset, List.mem_map]

theorem notMem_identities (h : Layout r held free) {id : TaskId} (hnew : ∀ s ∈ held, s.id ≠ id) :
    id ∉ r.identities := by
  rw [h.mem_identities]
  rintro ⟨s, hs, hid⟩
  exact hnew s hs hid

/-- There are as many identities as slots held, since no two slots hold the same. -/
theorem card_identities (h : Layout r held free) : r.identities.card = held.length := by
  rw [h.identities_eq, List.toFinset_card_of_nodup h.distinct, List.length_map]

end Layout

/-- Accounting a task makes its identity a known one, and no other. -/
theorem Layout.Accounted.identities_eq {before : Slot}
    (haccounted : Layout.Accounted held free budgets task before held' free')
    (h : Layout r held free) (h' : Layout r' held' free') :
    r'.identities = r.identitiesBehind [task] := by
  have hids : (held'.map (·.id)).toFinset =
      (held.map (·.id)).toFinset ∪ ([task].map (·.id)).toFinset := by
    cases haccounted with
    | @known i _ hs hid =>
      have hmem : task.id ∈ (held.map (·.id)).toFinset := by
        rw [List.mem_toFinset, List.mem_map]
        exact ⟨before, List.mem_of_getElem? hs, hid⟩
      have hsame : (held.set i { before with lastRuntime := task.runtime }).map (·.id) =
          held.map (·.id) := map_set_of_eq hs rfl
      rw [hsame, eq_comm, Finset.union_eq_left]
      simpa using hmem
    | placed => rw [List.map_append, List.toFinset_append]; rfl
  rw [h'.identities_eq, hids, ← h.identities_eq]
  rfl

theorem Layout.Accounted.capacity_eq {before : Slot}
    (haccounted : Layout.Accounted held free budgets task before held' free')
    (h : Layout r held free) (h' : Layout r' held' free') : r'.capacity = r.capacity := by
  rw [h'.capacity_eq, h.capacity_eq]
  exact (Kept.of_accounted haccounted).room

/-! ### One entry -/

theorem identitiesBehind_nil (r : Registry) : r.identitiesBehind [] = r.identities :=
  Finset.union_empty _

theorem identitiesBehind_append (r : Registry) (earlier more : List TaskStatus) :
    r.identitiesBehind (earlier ++ more) =
      r.identitiesBehind earlier ∪ (more.map (·.id)).toFinset := by
  rw [identitiesBehind, identitiesBehind, List.map_append, List.toFinset_append,
    Finset.union_assoc]

/-- What an entry offends by depends on a registry only through its identities and its size. -/
theorem offence?_congr {earlier more : List TaskStatus}
    (hids : r'.identities = r.identitiesBehind earlier) (hcapacity : r'.capacity = r.capacity)
    (task : TaskStatus) :
    r'.offence? budgets more task = r.offence? budgets (earlier ++ more) task := by
  have hbehind : r'.identitiesBehind more = r.identitiesBehind (earlier ++ more) := by
    rw [identitiesBehind_append, identitiesBehind, hids]
  rw [offence?, offence?, hbehind, hcapacity]

/-- A task that cannot be resolved offends, by the error it is answered with. -/
theorem Layout.offence?_of_error (h : Layout r held free) {e : MonitorError}
    (herror : (r.resolve budgets task).answer = .error e) :
    r.offence? budgets [] task = some e := by
  obtain ⟨held', free', hresolved, -⟩ := h.resolve_resolved budgets task
  generalize r.resolve budgets task = resolved at hresolved herror
  rw [offence?, identitiesBehind_nil]
  cases hresolved with
  | known => cases herror
  | placed => cases herror
  | unconfigured hnew hbudget =>
    rw [if_neg (h.notMem_identities hnew), hbudget]
    exact congrArg some (Except.error.inj herror)
  | full hnew hbudget hfree =>
    -- without a free slot every slot has an identity, so the known ones are as many as there
    -- are slots
    have hcapacity : r.capacity = held.length := by rw [h.capacity_eq, hfree, Nat.add_zero]
    rw [if_neg (h.notMem_identities hnew), hbudget]
    simp only [h.card_identities, hcapacity, le_refl, if_true]
    exact congrArg some (Except.error.inj herror)

/-- A task that is accounted does not offend. -/
theorem Layout.Accounted.offence?_eq_none {before : Slot}
    (haccounted : Layout.Accounted held free budgets task before held' free')
    (h : Layout r held free) : r.offence? budgets [] task = none := by
  rw [offence?, identitiesBehind_nil]
  cases haccounted with
  | known hs hid =>
    exact if_pos ((h.mem_identities task.id).mpr ⟨before, List.mem_of_getElem? hs, hid⟩)
  | placed hnew hbudget hfree =>
    have hroom : ¬ r.capacity ≤ r.identities.card := by
      rw [h.card_identities, h.capacity_eq, hfree]
      omega
    rw [if_neg (h.notMem_identities hnew), hbudget]
    exact if_neg hroom

/-! ### All entries -/

theorem blameless_cons_iff (r : Registry) (budgets : StackBudgets) (task : TaskStatus)
    (rest : List TaskStatus) :
    r.Blameless budgets (task :: rest) ↔ r.offence? budgets [] task = none ∧
      ∀ earlier t later, rest = earlier ++ t :: later →
        r.offence? budgets (task :: earlier) t = none := by
  constructor
  · intro h
    exact ⟨h [] task rest rfl, fun earlier t later heq =>
      h (task :: earlier) t later (congrArg (task :: ·) heq)⟩
  · rintro ⟨hfirst, hlater⟩ earlier t later heq
    rcases earlier with _ | ⟨t₀, earlier⟩
    · obtain ⟨rfl, -⟩ := List.cons.inj heq
      exact hfirst
    · obtain ⟨rfl, hrest⟩ := List.cons.inj heq
      exact hlater earlier t later hrest

theorem blameless_concat {earlier : List TaskStatus} (h : r.Blameless budgets earlier)
    (hlast : r.offence? budgets earlier task = none) :
    r.Blameless budgets (earlier ++ [task]) := by
  intro front t back heq
  rcases List.eq_nil_or_concat back with rfl | ⟨back, last, rfl⟩
  · obtain ⟨rfl, hsame⟩ := List.append_inj' heq rfl
    obtain ⟨rfl, -⟩ := List.cons.inj hsame
    exact hlast
  · rw [List.concat_eq_append, ← List.cons_append, ← List.append_assoc] at heq
    exact h front t back (List.append_inj_left' heq rfl)

/-- Entries that are not blameless have a first one that offends. -/
theorem exists_first_offence {tasks : List TaskStatus} (h : ¬ r.Blameless budgets tasks) :
    ∃ earlier task later e, tasks = earlier ++ task :: later ∧ r.Blameless budgets earlier ∧
      r.offence? budgets earlier task = some e := by
  -- on the entries from the last one, since what offends depends on all before
  induction tasks using List.reverseRecOn with
  | nil => exact absurd (fun earlier task later heq => by simp at heq) h
  | append_singleton tasks last ih =>
    by_cases hbefore : r.Blameless budgets tasks
    · rcases hlast : r.offence? budgets tasks last with _ | e
      · exact absurd (blameless_concat hbefore hlast) h
      · exact ⟨tasks, last, [], e, rfl, hbefore, hlast⟩
    · obtain ⟨earlier, task, later, e, rfl, hearlier, hoffence⟩ := ih hbefore
      exact ⟨earlier, task, later ++ [last], e, List.append_assoc _ _ _, hearlier, hoffence⟩

theorem account_append (budgets : StackBudgets) (deltaTotal : ℕ) (tasks more : List TaskStatus) :
    ∀ {r : Registry} {records : List Record},
    (account budgets deltaTotal tasks r).answer = .ok records →
    (account budgets deltaTotal (tasks ++ more) r).answer =
      (account budgets deltaTotal more (account budgets deltaTotal tasks r).state).answer.map
        (records ++ ·) ∧
    (account budgets deltaTotal (tasks ++ more) r).state =
      (account budgets deltaTotal more (account budgets deltaTotal tasks r).state).state := by
  induction tasks with
  | nil =>
    intro r records hok
    obtain rfl : [] = records := Except.ok.inj hok
    refine ⟨?_, rfl⟩
    show (account budgets deltaTotal more r).answer =
      (account budgets deltaTotal more r).answer.map id
    cases (account budgets deltaTotal more r).answer <;> rfl
  | cons task rest ih =>
    intro r records hok
    rw [List.cons_append, account, account]
    rw [account] at hok
    generalize r.resolve budgets task = resolved at hok ⊢
    obtain ⟨answer, r', notices⟩ := resolved
    rcases answer with e | i
    · cases hok
    · simp only at hok ⊢
      generalize r'.remember i task.runtime = remembered at hok ⊢
      rcases hrest : (account budgets deltaTotal rest remembered.2).answer with e | later
      · rw [hrest] at hok
        cases hok
      · rw [hrest] at hok
        obtain rfl := Except.ok.inj hok
        obtain ⟨hanswer, hstate⟩ := ih hrest
        rw [hanswer, hstate]
        refine ⟨?_, rfl⟩
        generalize (account budgets deltaTotal more _).answer = last
        cases last with
        | error e => rfl
        | ok records => exact congrArg Except.ok (List.append_assoc _ _ _).symm

theorem lastTotal_resolve (r : Registry) (budgets : StackBudgets) (task : TaskStatus) :
    (r.resolve budgets task).state.lastTotal = r.lastTotal := by
  rw [resolve]
  split
  · rfl
  · split
    · rfl
    · rw [allocate]
      split <;> rfl

theorem lastTotal_remember (r : Registry) (i runtime : ℕ) :
    (r.remember i runtime).2.lastTotal = r.lastTotal := by
  rw [remember]
  split <;> rfl

theorem lastTotal_account (budgets : StackBudgets) (deltaTotal : ℕ) (tasks : List TaskStatus) :
    ∀ r : Registry, (account budgets deltaTotal tasks r).state.lastTotal = r.lastTotal := by
  induction tasks with
  | nil => exact fun _ => rfl
  | cons task rest ih =>
    intro r
    have hresolved := r.lastTotal_resolve budgets task
    rw [account]
    generalize r.resolve budgets task = resolved at hresolved ⊢
    obtain ⟨answer, r', notices⟩ := resolved
    rcases answer with e | i
    · exact hresolved
    · exact (ih _).trans ((r'.lastTotal_remember i task.runtime).trans hresolved)

/-- Accounting succeeds exactly if no entry offends, and then the identities of all entries are
known. -/
theorem account_isOk_iff (budgets : StackBudgets) (deltaTotal : ℕ) (tasks : List TaskStatus) :
    ∀ {r : Registry} {held : List Slot} {free : ℕ}, Layout r held free →
    ((∃ records, (account budgets deltaTotal tasks r).answer = .ok records) ↔
      r.Blameless budgets tasks) := by
  -- on the entries: what the later ones offend by behind the first is what they offend by in the
  -- registry that has accounted it
  induction tasks with
  | nil =>
    intro r held free _
    refine ⟨fun _ earlier task later heq => ?_, fun _ => ⟨[], rfl⟩⟩
    simp at heq
  | cons task rest ih =>
    intro r held free h
    rw [blameless_cons_iff]
    rcases h.account_cons budgets deltaTotal task rest with
      ⟨e, hresolve, herror, -⟩ | ⟨before, held₁, free₁, r₁, haccounted, h₁, hanswer, -⟩
    · rw [herror, h.offence?_of_error hresolve]
      simp
    · have hrest : r₁.Blameless budgets rest ↔ ∀ earlier t later, rest = earlier ++ t :: later →
          r.offence? budgets (task :: earlier) t = none := by
        simp only [Blameless, offence?_congr (haccounted.identities_eq h h₁)
          (haccounted.capacity_eq h h₁), List.singleton_append]
      rw [hanswer, haccounted.offence?_eq_none h, ← hrest, ← ih h₁]
      cases (account budgets deltaTotal rest r₁).answer with
      | error e => simp [Except.map]
      | ok records => simp [Except.map]

/-- What is known after a list has been accounted. -/
theorem account_identities (budgets : StackBudgets) (deltaTotal : ℕ) (tasks : List TaskStatus) :
    ∀ {r : Registry} {held : List Slot} {free : ℕ} {records : List Record}, Layout r held free →
    (account budgets deltaTotal tasks r).answer = .ok records →
    (account budgets deltaTotal tasks r).state.identities = r.identitiesBehind tasks := by
  induction tasks with
  | nil =>
    intro r held free records _ _
    exact r.identitiesBehind_nil.symm
  | cons task rest ih =>
    intro r held free records h hok
    rcases h.account_cons budgets deltaTotal task rest with
      ⟨e, -, herror, -⟩ | ⟨before, held₁, free₁, r₁, haccounted, h₁, hanswer, hstate⟩
    · rw [herror] at hok
      cases hok
    · rw [hanswer] at hok
      rcases hrest : (account budgets deltaTotal rest r₁).answer with e | later
      · rw [hrest] at hok
        cases hok
      · rw [hstate, ih h₁ hrest, ← List.singleton_append, identitiesBehind_append,
          ← haccounted.identities_eq h h₁, identitiesBehind]

/-- The first entry that offends stops the accounting, and everything before it is accounted. -/
theorem account_of_offence (h : Layout r held free) (deltaTotal : ℕ) {earlier : List TaskStatus}
    (later : List TaskStatus) {e : MonitorError} (hearlier : r.Blameless budgets earlier)
    (hoffence : r.offence? budgets earlier task = some e) :
    (∃ records, (account budgets deltaTotal earlier r).answer = .ok records) ∧
    (account budgets deltaTotal (earlier ++ task :: later) r).answer = .error e ∧
    (account budgets deltaTotal (earlier ++ task :: later) r).state =
      (account budgets deltaTotal earlier r).state := by
  obtain ⟨records, hok⟩ := (account_isOk_iff budgets deltaTotal earlier h).mpr hearlier
  obtain ⟨hanswer, hstate⟩ := account_append budgets deltaTotal earlier (task :: later) hok
  obtain ⟨held₁, free₁, h₁, -⟩ := account_kept budgets deltaTotal earlier h
  have hoffence₁ : (account budgets deltaTotal earlier r).state.offence? budgets [] task =
      some e := by
    rw [offence?_congr (account_identities budgets deltaTotal earlier h hok)
      (capacity_account budgets deltaTotal earlier r), List.append_nil]
    exact hoffence
  rcases h₁.account_cons budgets deltaTotal task later with
    ⟨e', hresolve, herror, hstays⟩ | ⟨before, held₂, free₂, r₂, haccounted, -⟩
  · obtain rfl : e' = e := Option.some.inj ((h₁.offence?_of_error hresolve).symm.trans hoffence₁)
    refine ⟨⟨records, hok⟩, ?_, ?_⟩
    · rw [hanswer, herror]
      rfl
    · rw [hstate, hstays]
  · rw [haccounted.offence?_eq_none h₁] at hoffence₁
    cases hoffence₁

/-! ### Epochs -/

theorem recordEpoch_isOk_iff (h : Layout r held free) {snapshot : Snapshot}
    (hsize : snapshot.tasks.length ≤ r.capacity) (budgets : StackBudgets) (threshold : ℕ) :
    (∃ records, (r.recordEpoch snapshot budgets threshold).answer = .ok records) ↔
      r.Blameless budgets snapshot.tasks := by
  rw [← account_isOk_iff budgets (snapshot.total - r.lastTotal) snapshot.tasks h]
  rcases r.recordEpoch_cases snapshot budgets threshold with
    ⟨hlarge, -⟩ | ⟨e, herror, haccount, -⟩ | ⟨records, haccount, hok, -⟩
  · exact absurd hsize (Nat.not_le_of_lt hlarge)
  · simp [herror, haccount]
  · simp [hok, haccount]

/-- An epoch whose entries stop at an offence leaves what the epoch of the entries before it
leaves, but for the total. -/
theorem recordEpoch_of_offence (h : Layout r held free) {earlier later : List TaskStatus}
    {total : ℕ} (hsize : (earlier ++ task :: later).length ≤ r.capacity) (threshold : ℕ)
    {e : MonitorError} (hearlier : r.Blameless budgets earlier)
    (hoffence : r.offence? budgets earlier task = some e) :
    let failed := r.recordEpoch ⟨earlier ++ task :: later, total⟩ budgets threshold
    let cut := r.recordEpoch ⟨earlier, total⟩ budgets threshold
    failed.answer = .error e ∧ failed.state.lastTotal = r.lastTotal ∧
    (∃ records, cut.answer = .ok records) ∧ failed.state.slots = cut.state.slots := by
  obtain ⟨⟨records, hcut⟩, hfailed, hstate⟩ :=
    account_of_offence h (total - r.lastTotal) later hearlier hoffence
  have hsizeCut : earlier.length ≤ r.capacity := by
    rw [List.length_append] at hsize
    omega
  intro failed cut
  have hfailedEq : failed.answer = .error e ∧ failed.state =
      (account budgets (total - r.lastTotal) (earlier ++ task :: later) r).state := by
    rcases r.recordEpoch_cases ⟨earlier ++ task :: later, total⟩ budgets threshold with
      ⟨hlarge, -⟩ | ⟨e', herror, haccount, hleft⟩ | ⟨_, haccount, -⟩
    · exact absurd hsize (Nat.not_le_of_lt hlarge)
    · obtain rfl : e = e' := Except.error.inj (hfailed.symm.trans haccount)
      exact ⟨herror, hleft⟩
    · cases hfailed.symm.trans haccount
  have hcutEq : (∃ records, cut.answer = .ok records) ∧
      cut.state.slots = (account budgets (total - r.lastTotal) earlier r).state.slots := by
    rcases r.recordEpoch_cases ⟨earlier, total⟩ budgets threshold with
      ⟨hlarge, -⟩ | ⟨e', -, haccount, -⟩ | ⟨_, -, hok, hleft⟩
    · exact absurd hsizeCut (Nat.not_le_of_lt hlarge)
    · cases hcut.symm.trans haccount
    · refine ⟨⟨_, hok⟩, ?_⟩
      show (r.recordEpoch ⟨earlier, total⟩ budgets threshold).state.slots = _
      rw [hleft]
  refine ⟨hfailedEq.1, ?_, hcutEq.1, ?_⟩
  · rw [hfailedEq.2, lastTotal_account]
  · rw [hfailedEq.2, hcutEq.2, hstate]

/-- **Failures.** On every registry that operations reach from an empty one, an epoch of more
entries than there are slots is refused for its size and changes nothing. Any other succeeds
exactly if no entry offends; and else there is a first that does, which decides the error, while
the total stays, and the slots are left as the epoch of the entries before it leaves them. -/
theorem failure_at_first_offence {capacity : ℕ} {r : Registry}
    (h : Reaches (create capacity) r) (snapshot : Snapshot) (budgets : StackBudgets)
    (threshold : ℕ) :
    let done := r.recordEpoch snapshot budgets threshold
    (capacity < snapshot.tasks.length →
      done.answer = .error (.capacityExceeded snapshot.tasks.length capacity) ∧
      done.state = r) ∧
    (snapshot.tasks.length ≤ capacity →
      ((∃ records, done.answer = .ok records) ↔ r.Blameless budgets snapshot.tasks) ∧
      (¬ r.Blameless budgets snapshot.tasks → ∃ earlier task later e,
        snapshot.tasks = earlier ++ task :: later ∧ r.Blameless budgets earlier ∧
        r.offence? budgets earlier task = some e) ∧
      ∀ earlier task later e, snapshot.tasks = earlier ++ task :: later →
        r.Blameless budgets earlier → r.offence? budgets earlier task = some e →
        let cut := r.recordEpoch ⟨earlier, snapshot.total⟩ budgets threshold
        done.answer = .error e ∧ done.state.lastTotal = r.lastTotal ∧
        (∃ records, cut.answer = .ok records) ∧ done.state.slots = cut.state.slots) := by
  obtain ⟨held, free, hlayout, hkept⟩ := reaches_kept (create_layout capacity) h
  have hcapacity : r.capacity = capacity := by
    rw [hlayout.capacity_eq, hkept.room, List.length_nil, Nat.zero_add]
  intro done
  refine ⟨fun hlarge => ?_, fun hsize => ⟨?_, exists_first_offence, ?_⟩⟩
  · rw [← hcapacity] at hlarge ⊢
    have hrefused : done = ⟨.error (.capacityExceeded snapshot.tasks.length r.capacity), r, []⟩ :=
      if_pos hlarge
    rw [hrefused]
    exact ⟨rfl, rfl⟩
  · rw [← hcapacity] at hsize
    exact recordEpoch_isOk_iff hlayout hsize budgets threshold
  · obtain ⟨tasks, total⟩ := snapshot
    intro earlier task later e htasks hearlier hoffence
    obtain rfl : tasks = _ := htasks
    rw [← hcapacity] at hsize
    exact recordEpoch_of_offence hlayout hsize threshold hearlier hoffence

/-- A registry of two slots after one epoch, with one slot left. -/
def halfFull : Operation :=
  .recordEpoch ⟨[⟨⟨1⟩, "relay", 1, 40, 100⟩], 100⟩ ⟨[("relay", 8)]⟩ 10

/-- A first task takes the last slot and a second has neither a slot nor a budget: it is reported
for its budget, and the first keeps its slot. -/
theorem failure_at_overflow :
    let r := (create 2).perform halfFull
    let budgets : StackBudgets := ⟨[("relay", 8), ("probe", 9)]⟩
    let done := r.recordEpoch ⟨[⟨⟨2⟩, "probe", 1, 7, 90⟩, ⟨⟨3⟩, "spare", 1, 5, 80⟩], 300⟩ budgets 10
    done.answer = .error (.unconfigured ⟨3⟩ "spare") ∧ done.state.lastTotal = 100 ∧
    done.state.slots = [some ⟨⟨1⟩, "relay", 8, 40⟩, some ⟨⟨2⟩, "probe", 9, 7⟩] := by
  intro r budgets done
  have hreaches : Reaches (create 2) r := .step halfFull .refl trivial
  obtain ⟨-, hfits⟩ := failure_at_first_offence hreaches
    ⟨[⟨⟨2⟩, "probe", 1, 7, 90⟩, ⟨⟨3⟩, "spare", 1, 5, 80⟩], 300⟩ budgets 10
  obtain ⟨hanswer, htotal, -, hslots⟩ := (hfits (by decide)).2.2 [⟨⟨2⟩, "probe", 1, 7, 90⟩]
    ⟨⟨3⟩, "spare", 1, 5, 80⟩ [] (.unconfigured ⟨3⟩ "spare") rfl (by
      rw [blameless_cons_iff]
      refine ⟨by decide, ?_⟩
      intro earlier t later heq
      simp at heq) (by decide)
  exact ⟨hanswer, htotal.trans (by decide), hslots.trans (by decide)⟩

end Registry

end Telemetry
