/-
Records against the epochs they are shares of.

The program's own scheduler reads a total at the moment of a snapshot, but the runtime of a
task only as far as the task has folded it in. What a task has not folded in yet is its
backlog, and it is credited with a later snapshot. So a record can exceed its epoch, by what
was left over from the epochs before it and by no more than that.

* `Hosted` — what the program's own scheduler guarantees about its snapshots;
* `backlog` — how much of the last total an identity has not been credited with;
* `lagging_exceeds` — a record that exceeds its epoch;
* `runtimeBefore_le_totalBefore`, `runtimeBefore_le_runtime` — how the last runtime of an
  identity lies between the last total and its next runtime;
* `deltas_within_backlog` — the bound on every record, and when it stays within its epoch.
-/
import Telemetry.Proofs.Registry.History

namespace Telemetry

namespace Registry

/-- What the program's own scheduler guarantees about the snapshots of calls: totals do not go
back, and neither does the runtime of an identity; no runtime exceeds the total read after it;
no identity comes twice in a snapshot, or belongs to one task first and then to another. -/
structure Hosted (calls : List Epoch) : Prop where
  totals : (calls.map (·.snapshot.total)).Pairwise (· ≤ ·)
  progress : (sightings calls).Pairwise fun s t =>
    s.task.id = t.task.id → s.task.runtime ≤ t.task.runtime
  bounded : ∀ call ∈ calls, ∀ task ∈ call.snapshot.tasks, task.runtime ≤ call.snapshot.total
  distinct : ∀ call ∈ calls, (call.snapshot.tasks.map (·.id)).Nodup
  named : (sightings calls).Pairwise fun s t =>
    s.task.id = t.task.id → s.task.name = t.task.name

/-- How much of the last total an identity has not been credited with. -/
def backlog (calls : List Epoch) (id : TaskId) : ℕ :=
  totalBefore calls - runtimeBefore (sightings calls) id

/-- Two calls half a second apart; the one task has folded in nothing before the first of them,
and all of its time before the second. -/
def lagging : List Epoch :=
  [⟨⟨[⟨⟨1⟩, "Sensor", 4, 0, 1000⟩], 500000⟩, StackBudgets.ofTaskKinds, 100⟩,
    ⟨⟨[⟨⟨1⟩, "Sensor", 4, 1000000, 1000⟩], 1000000⟩, StackBudgets.ofTaskKinds, 100⟩]

theorem lagging_hosted : Hosted lagging :=
  ⟨by decide, by simp [lagging, sightings, Epoch.sightings], by simp [lagging], by simp [lagging],
    by simp [lagging, sightings, Epoch.sightings]⟩

/-- The records of a task that lags behind; the second is twice its epoch. -/
def laggingRecords : List (List Record) :=
  [[⟨1, "Sensor", 262144, 1000, 0, 500000⟩], [⟨1, "Sensor", 262144, 1000, 1000000, 500000⟩]]

theorem lagging_answers : (create 12).answers lagging = laggingRecords.map .ok := by rfl

/-- What is guaranteed about snapshots does not keep every record within its epoch. -/
theorem lagging_exceeds :
    ¬ ∀ (capacity : ℕ) (calls : List Epoch) (outs : List (List Record)),
      (create capacity).answers calls = outs.map .ok → Hosted calls →
      ∀ records ∈ outs, ∀ r ∈ records, r.deltaRuntime ≤ r.deltaTotal := by
  intro hall
  have hsecond := hall 12 lagging laggingRecords lagging_answers lagging_hosted
    [⟨1, "Sensor", 262144, 1000, 1000000, 500000⟩] (by simp [laggingRecords])
    ⟨1, "Sensor", 262144, 1000, 1000000, 500000⟩ (List.mem_singleton.mpr rfl)
  exact absurd hsecond (by decide)

/-! ### The last runtime of an identity -/

variable {calls earlier : List Epoch} {past more : List Sighting} {id : TaskId}

theorem runtimeBefore_append_of_unseen (h : ∀ s ∈ more, s.task.id ≠ id) :
    runtimeBefore (past ++ more) id = runtimeBefore past id := by
  have hnone : more.reverse.find? (·.task.id = id) = none := by
    rw [List.find?_eq_none]
    intro s hs
    simpa using h s (List.mem_reverse.mp hs)
  rw [runtimeBefore, List.reverse_append, List.find?_append, hnone, Option.none_or]
  rfl

theorem mem_sightings {s : Sighting} :
    s ∈ sightings calls ↔
      ∃ call ∈ calls, ∃ task ∈ call.snapshot.tasks, s = ⟨task, call.budgets⟩ := by
  simp [sightings, Epoch.sightings, eq_comm]

/-- No total is above the last one. -/
theorem Hosted.total_le (h : Hosted calls) {call : Epoch} (hcall : call ∈ calls) :
    call.snapshot.total ≤ totalBefore calls := by
  rcases List.eq_nil_or_concat calls with rfl | ⟨init, last, rfl⟩
  · cases hcall
  · rw [List.concat_eq_append, totalBefore_concat]
    have htotals := h.totals
    rw [List.concat_eq_append, List.map_append, List.pairwise_append] at htotals
    rw [List.concat_eq_append, List.mem_append, List.mem_singleton] at hcall
    rcases hcall with hinit | rfl
    · exact htotals.2.2 _ (List.mem_map_of_mem hinit) _ (List.mem_singleton.mpr rfl)
    · exact Nat.le_refl _

/-- An identity is never credited with more than the last total. -/
theorem Hosted.runtimeBefore_le_totalBefore (h : Hosted calls) (id : TaskId) :
    runtimeBefore (sightings calls) id ≤ totalBefore calls := by
  refine runtimeBefore_le fun s hs _ => ?_
  obtain ⟨call, hcall, task, htask, rfl⟩ := mem_sightings.mp hs
  exact Nat.le_trans (h.bounded call hcall task htask) (h.total_le hcall)

/-- What is guaranteed about calls is guaranteed about those they begin with. -/
theorem Hosted.of_append {later : List Epoch} (h : Hosted (earlier ++ later)) :
    Hosted earlier := by
  obtain ⟨htotals, hprogress, hbounded, hdistinct, hnamed⟩ := h
  rw [List.map_append, List.pairwise_append] at htotals
  rw [sightings, List.flatMap_append, List.pairwise_append] at hprogress hnamed
  exact ⟨htotals.1, hprogress.1, fun call hcall => hbounded call (List.mem_append_left _ hcall),
    fun call hcall => hdistinct call (List.mem_append_left _ hcall), hnamed.1⟩

variable {call : Epoch} {later : List Epoch}

/-- A call comes with at least the total of the one before it. -/
theorem Hosted.totalBefore_le (h : Hosted (earlier ++ call :: later)) :
    totalBefore earlier ≤ call.snapshot.total :=
  Registry.totalBefore_le h.totals

/-- An identity comes back with at least the runtime it had when it was last seen. -/
theorem Hosted.runtimeBefore_le_runtime (h : Hosted (earlier ++ call :: later))
    {task : TaskStatus} (htask : task ∈ call.snapshot.tasks) :
    runtimeBefore (sightings earlier) task.id ≤ task.runtime := by
  have hprogress := h.progress
  rw [sightings, List.flatMap_append, List.pairwise_append] at hprogress
  have hnow : (⟨task, call.budgets⟩ : Sighting) ∈ (call :: later).flatMap Epoch.sightings :=
    mem_sightings.mpr ⟨call, List.mem_cons_self, task, htask, rfl⟩
  exact runtimeBefore_le fun s hs hid => hprogress.2.2 s hs _ hnow hid

/-! ### Records -/

/-- Every record of a call is that of one of its entries. -/
theorem Accounts.of_mem {records : List Record} (h : Accounts earlier call records) {r : Record}
    (hr : r ∈ records) :
    ∃ j, ∃ task ∈ call.snapshot.tasks, call.sightings[j]? = some ⟨task, call.budgets⟩ ∧
      Explains (sightings earlier ++ call.sightings.take j) ⟨task, call.budgets⟩
        (call.snapshot.total - totalBefore earlier) r := by
  obtain ⟨hshort, hlong⟩ := h
  by_cases hthreshold : call.threshold ≤ call.snapshot.total - totalBefore earlier
  · obtain ⟨hsize, hexplained⟩ := hlong hthreshold
    obtain ⟨j, hj⟩ := List.mem_iff_getElem?.mp hr
    have hbelow : j < call.sightings.length := by
      rw [← hsize]
      exact (List.getElem?_eq_some_iff.mp hj).1
    have hs := List.getElem?_eq_getElem hbelow
    obtain ⟨task, htask, heq⟩ := List.mem_map.mp (List.getElem_mem hbelow)
    rw [← heq] at hs
    exact ⟨j, task, htask, hs, hexplained j _ r hs hj⟩
  · -- a short epoch has no records
    rw [hshort (Nat.lt_of_not_le hthreshold)] at hr
    cases hr

/-- In a snapshot without repetition, the progress of an entry is counted from the calls before,
whatever comes before it in the snapshot. -/
theorem Hosted.deltaRuntime_eq (h : Hosted (earlier ++ call :: later)) {j : ℕ}
    {task : TaskStatus} (hs : call.sightings[j]? = some ⟨task, call.budgets⟩) {deltaTotal : ℕ}
    {r : Record} (hexplains : Explains (sightings earlier ++ call.sightings.take j)
      ⟨task, call.budgets⟩ deltaTotal r) :
    r.deltaRuntime = task.runtime - runtimeBefore (sightings earlier) task.id := by
  have hdistinct : (call.sightings.map (·.task.id)).Nodup := by
    have := h.distinct call (List.mem_append_right _ List.mem_cons_self)
    rwa [Epoch.sightings, List.map_map]
  -- an entry of the same identity further up would be at the same position
  have hunseen : ∀ t ∈ call.sightings.take j, t.task.id ≠ task.id := by
    intro t ht hid
    obtain ⟨i, hi⟩ := List.mem_iff_getElem?.mp ht
    rw [List.getElem?_take] at hi
    split at hi
    · rename_i hij
      have hlength : i < (call.sightings.map (·.task.id)).length := by
        rw [List.length_map]
        exact (List.getElem?_eq_some_iff.mp hi).1
      have hsame : i = j := by
        refine (List.getElem?_inj hlength hdistinct).mp ?_
        rw [List.getElem?_map, List.getElem?_map, hi, hs, Option.map_some, Option.map_some, hid]
      omega
    · cases hi
  rw [hexplains.deltaRuntime, runtimeBefore_append_of_unseen hunseen]

/-- **Shares.** With the snapshots of the program's own scheduler, a record exceeds its epoch by
the backlog its identity had at the call before, at most; and it stays within the epoch exactly
if at least as much is left over after it. -/
theorem deltas_within_backlog {capacity : ℕ} {calls : List Epoch} {outs : List (List Record)}
    (h : (create capacity).answers calls = outs.map .ok) (hosted : Hosted calls) :
    outs.length = calls.length ∧
    ∀ k call records, calls[k]? = some call → outs[k]? = some records → ∀ r ∈ records,
      ∃ task ∈ call.snapshot.tasks, r.id = task.id.number ∧ r.name = task.name ∧
        r.deltaRuntime ≤ r.deltaTotal + backlog (calls.take k) task.id ∧
        (r.deltaRuntime ≤ r.deltaTotal ↔
          backlog (calls.take k) task.id ≤ call.snapshot.total - task.runtime) := by
  obtain ⟨hlength, hall⟩ := (create_keeps capacity).answers calls h
  simp only [List.nil_append] at hall
  refine ⟨hlength, fun k call records hcall hrecords r hr => ?_⟩
  obtain ⟨j, task, htask, hs, hexplains⟩ := (hall k call records hcall hrecords).of_mem hr
  obtain ⟨hk, hget⟩ := List.getElem?_eq_some_iff.mp hcall
  have hsplit : calls.take k ++ call :: calls.drop (k + 1) = calls := by
    rw [← hget, ← List.drop_eq_getElem_cons hk, List.take_append_drop]
  have hosted' : Hosted (calls.take k ++ call :: calls.drop (k + 1)) := by
    rw [hsplit]
    exact hosted
  have hdelta := hosted'.deltaRuntime_eq hs hexplains
  have hcredited := hosted'.of_append.runtimeBefore_le_totalBefore task.id
  have hprogress := hosted'.runtimeBefore_le_runtime htask
  have hbounded := hosted.bounded call (List.mem_of_getElem? hcall) task htask
  have htotal := hosted'.totalBefore_le
  refine ⟨task, htask, hexplains.id, hexplains.name, ?_, ?_⟩
  · rw [hdelta, hexplains.deltaTotal, backlog]
    omega
  · rw [hdelta, hexplains.deltaTotal, backlog]
    omega

/-- The second record of the task that lags behind uses up all of its backlog. -/
theorem deltas_within_lagging :
    Hosted lagging ∧ (create 12).answers lagging = laggingRecords.map .ok ∧
    backlog (lagging.take 1) ⟨1⟩ = 500000 ∧
    ∃ task ∈ (lagging[1]).snapshot.tasks, 1 = task.id.number ∧ "Sensor" = task.name ∧
      1000000 ≤ 500000 + backlog (lagging.take 1) task.id ∧
      (1000000 ≤ 500000 ↔ backlog (lagging.take 1) task.id ≤ 1000000 - task.runtime) := by
  obtain ⟨-, hall⟩ := deltas_within_backlog lagging_answers lagging_hosted
  exact ⟨lagging_hosted, lagging_answers, by decide,
    hall 1 _ _ rfl rfl _ (List.mem_singleton.mpr rfl)⟩

end Registry

end Telemetry
