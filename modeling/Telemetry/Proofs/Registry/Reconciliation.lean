/-
Reported figures against the counters of the scheduler.

A registry reports differences, and only for epochs that are long enough. Added up over a run,
what it has reported and what it has withheld make up the counters again: the total, and the
runtime of each identity. So no tick is reported twice, and a tick that is never reported was
accounted in an epoch that was too short.

* `Turn`, `turns` — the calls of a run, each with the registry it meets;
* `Turn.credited` — the runtime that the records of a call report for an identity;
* `Turn.totalGrowth`, `Turn.runtimeGrowth` — how far the counters went in the snapshot of a call;
* `Turn.Faithful` — a call reports the growth of the counters, or nothing;
* `sum_totalGrowth`, `sum_runtimeGrowth` — growth adds up to the counters that were seen last;
* `figures_reconcile` — reported and withheld figures make up the counters.
-/
import Mathlib.Algebra.BigOperators.Group.List.Basic
import Mathlib.Algebra.GroupWithZero.Nat
import Telemetry.Proofs.Registry.History

namespace Telemetry

namespace Registry

/-- A call of a run: the registry it meets, the calls before it, and its arguments. -/
structure Turn where
  registry : Registry
  earlier : List Epoch
  call : Epoch

/-- The calls of a run, one after the other. -/
def turns (r : Registry) (earlier : List Epoch) : List Epoch → List Turn
  | [] => []
  | call :: rest =>
    ⟨r, earlier, call⟩ ::
      turns (r.recordEpoch call.snapshot call.budgets call.threshold).state (earlier ++ [call]) rest

/-- How far an identity gets in the entries `now`, each against the one before it. -/
def growth (past : List Sighting) (id : TaskId) : List Sighting → ℕ
  | [] => 0
  | s :: rest =>
    (if s.task.id = id then s.task.runtime - runtimeBefore past id else 0) +
      growth (past ++ [s]) id rest

/-- The runtime that records report for an identity. -/
def credit (id : TaskId) (records : List Record) : ℕ :=
  ((records.filter (·.id = id.number)).map (·.deltaRuntime)).sum

namespace Turn

/-- The difference of totals that the registry makes of the call. -/
def deltaTotal (t : Turn) : ℕ := t.call.snapshot.total - t.registry.lastTotal

/-- Whether the epoch of a call is long enough to be reported. -/
def emits (t : Turn) : Bool := t.call.threshold ≤ t.deltaTotal

/-- The records of a call, if it succeeds. -/
def records (t : Turn) : List Record :=
  match (t.registry.recordEpoch t.call.snapshot t.call.budgets t.call.threshold).answer with
  | .ok records => records
  | .error _ => []

/-- The runtime that a call reports for an identity. -/
def credited (id : TaskId) (t : Turn) : ℕ := credit id t.records

/-- How far the total gets between the snapshot before and that of the call. -/
def totalGrowth (t : Turn) : ℕ := t.call.snapshot.total - totalBefore t.earlier

/-- How far the runtime of an identity gets in the snapshot of a call. -/
def runtimeGrowth (id : TaskId) (t : Turn) : ℕ :=
  growth (sightings t.earlier) id t.call.sightings

/-- A call reports what its snapshot shows, or nothing at all. -/
structure Faithful (t : Turn) : Prop where
  deltaTotal : t.deltaTotal = t.totalGrowth
  credited : ∀ id, t.credited id = if t.emits then t.runtimeGrowth id else 0
  total : ∀ record ∈ t.records, record.deltaTotal = t.deltaTotal
  withheld : t.emits = false → t.records = []

end Turn

variable {r : Registry} {earlier : List Epoch} {past : List Sighting}

/-! ### What a call reports -/

theorem Explained.uncons {now : Sighting} {later : List Sighting} {deltaTotal : ℕ}
    {records : List Record} (h : Explained past (now :: later) deltaTotal records) :
    ∃ first rest, records = first :: rest ∧ Explains past now deltaTotal first ∧
      Explained (past ++ [now]) later deltaTotal rest := by
  obtain ⟨hlength, hexplains⟩ := h
  rcases records with _ | ⟨first, rest⟩
  · cases hlength
  · refine ⟨first, rest, rfl, ?_, Nat.succ.inj hlength, ?_⟩
    · have hfirst := hexplains 0 now first rfl rfl
      rwa [List.take_zero, List.append_nil] at hfirst
    · intro j s record hs hrecord
      have hlater := hexplains (j + 1) s record hs hrecord
      rwa [List.take_succ_cons, ← List.singleton_append, ← List.append_assoc] at hlater

theorem credit_cons (id : TaskId) (first : Record) (rest : List Record) :
    credit id (first :: rest) =
      (if first.id = id.number then first.deltaRuntime else 0) + credit id rest := by
  rw [credit, credit, List.filter_cons]
  by_cases hid : first.id = id.number
  · rw [if_pos hid, if_pos (decide_eq_true hid), List.map_cons, List.sum_cons]
  · rw [if_neg hid, if_neg (by simpa using hid), Nat.zero_add]

/-- Records that are explained by their entries report how far the entries get. -/
theorem Explained.credit (id : TaskId) {deltaTotal : ℕ} (now : List Sighting) :
    ∀ {past : List Sighting} {records : List Record}, Explained past now deltaTotal records →
    Registry.credit id records = growth past id now := by
  induction now with
  | nil =>
    rintro past records ⟨hlength, -⟩
    rw [List.length_eq_zero_iff.mp hlength]
    rfl
  | cons s later ih =>
    intro past records h
    obtain ⟨first, rest, rfl, hfirst, hrest⟩ := h.uncons
    have hid : first.id = id.number ↔ s.task.id = id := by
      rw [hfirst.id]
      constructor
      · intro hnumber
        exact congrArg TaskId.mk hnumber
      · rintro rfl
        rfl
    rw [credit_cons, ih hrest, growth]
    by_cases hsame : s.task.id = id
    · rw [if_pos (hid.mpr hsame), if_pos hsame, hfirst.deltaRuntime, hsame]
    · rw [if_neg (hid.not.mpr hsame), if_neg hsame]

theorem Explained.deltaTotal_eq {now : List Sighting} {deltaTotal : ℕ} {records : List Record}
    (h : Explained past now deltaTotal records) :
    ∀ record ∈ records, record.deltaTotal = deltaTotal := by
  intro record hrecord
  obtain ⟨hlength, hexplains⟩ := h
  obtain ⟨j, hj⟩ := List.mem_iff_getElem?.mp hrecord
  have hbelow : j < now.length := hlength ▸ (List.getElem?_eq_some_iff.mp hj).1
  exact (hexplains j _ record (List.getElem?_eq_getElem hbelow) hj).deltaTotal

/-- A call that succeeds on a registry that remembers the calls before it is faithful. -/
theorem Keeps.faithful {call : Epoch} {records : List Record} (h : Keeps earlier r)
    (hanswer : (r.recordEpoch call.snapshot call.budgets call.threshold).answer = .ok records) :
    Turn.records ⟨r, earlier, call⟩ = records ∧ Turn.Faithful ⟨r, earlier, call⟩ := by
  have hrecords : Turn.records ⟨r, earlier, call⟩ = records := by
    rw [Turn.records, hanswer]
  have hdelta : Turn.deltaTotal ⟨r, earlier, call⟩ = Turn.totalGrowth ⟨r, earlier, call⟩ := by
    rw [Turn.deltaTotal, Turn.totalGrowth, h.1]
  have hemits : Turn.emits ⟨r, earlier, call⟩ =
      decide (call.threshold ≤ call.snapshot.total - totalBefore earlier) := by
    rw [Turn.emits, hdelta, Turn.totalGrowth]
  obtain ⟨⟨hshort, hlong⟩, -⟩ := h.recordEpoch call hanswer
  refine ⟨hrecords, ?_⟩
  by_cases hreport : call.threshold ≤ call.snapshot.total - totalBefore earlier
  · rw [decide_eq_true hreport] at hemits
    refine ⟨hdelta, ?_, ?_, ?_⟩
    · intro id
      rw [Turn.credited, hrecords, if_pos hemits]
      exact (hlong hreport).credit id
    · rw [hrecords, hdelta]
      exact (hlong hreport).deltaTotal_eq
    · intro hnot
      exact absurd (hemits.symm.trans hnot) Bool.noConfusion
  · rw [decide_eq_false hreport] at hemits
    have hnone : records = [] := hshort (Nat.lt_of_not_le hreport)
    refine ⟨hdelta, ?_, ?_, ?_⟩
    · intro id
      rw [Turn.credited, hrecords, hnone, if_neg (by rw [hemits]; exact Bool.noConfusion)]
      rfl
    · rw [hrecords, hnone]
      exact nofun
    · intro _
      rw [hrecords, hnone]

/-- The calls of a run that succeeds are faithful, and their records are its answers. -/
theorem Keeps.turns (calls : List Epoch) : ∀ {r : Registry} {earlier : List Epoch}
    {outs : List (List Record)}, Keeps earlier r → r.answers calls = outs.map .ok →
    (r.turns earlier calls).map Turn.records = outs ∧
    ∀ t ∈ r.turns earlier calls, t.Faithful := by
  induction calls with
  | nil =>
    intro r earlier outs _ houts
    rw [List.map_eq_nil_iff.mp houts.symm]
    exact ⟨rfl, nofun⟩
  | cons call rest ih =>
    intro r earlier outs h houts
    rcases outs with _ | ⟨records, later⟩
    · cases houts
    · rw [Registry.answers, List.map_cons, List.cons.injEq] at houts
      obtain ⟨hanswer, hlater⟩ := houts
      obtain ⟨hrecords, hfaithful⟩ := h.faithful hanswer
      obtain ⟨hall, hrest⟩ := ih (h.recordEpoch call hanswer).2 hlater
      rw [Registry.turns, List.map_cons, hrecords, hall]
      refine ⟨rfl, ?_⟩
      intro t ht
      rcases List.mem_cons.mp ht with rfl | ht
      · exact hfaithful
      · exact hrest t ht

/-! ### Growth -/

/-- The growth of a total that does not go back adds up to the last one. -/
theorem sum_totalGrowth (calls : List Epoch) : ∀ (r : Registry) (earlier : List Epoch),
    ((earlier ++ calls).map (·.snapshot.total)).Pairwise (· ≤ ·) →
    totalBefore earlier + ((r.turns earlier calls).map Turn.totalGrowth).sum =
      totalBefore (earlier ++ calls) := by
  -- on the calls: the total of each is the last one for those behind it
  induction calls with
  | nil =>
    intro r earlier _
    rw [turns, List.map_nil, List.sum_nil, Nat.add_zero, List.append_nil]
  | cons call rest ih =>
    intro r earlier htotals
    have hle := totalBefore_le htotals
    have hrest := ih (r.recordEpoch call.snapshot call.budgets call.threshold).state
      (earlier ++ [call])
    rw [List.append_assoc, List.singleton_append, totalBefore_concat] at hrest
    rw [turns, List.map_cons, List.sum_cons, ← hrest htotals, Turn.totalGrowth]
    show totalBefore earlier + (call.snapshot.total - totalBefore earlier + _) = _
    omega

/-- The growth of a runtime over entries in which it does not go back leads to the last of
them. -/
theorem runtimeBefore_add_growth (id : TaskId) (now : List Sighting) :
    ∀ past : List Sighting, ((past ++ now).Pairwise fun s t =>
      s.task.id = t.task.id → s.task.runtime ≤ t.task.runtime) →
    runtimeBefore past id + growth past id now = runtimeBefore (past ++ now) id := by
  induction now with
  | nil =>
    intro past _
    rw [growth, Nat.add_zero, List.append_nil]
  | cons s rest ih =>
    intro past hprogress
    have hrest := ih (past ++ [s])
    rw [List.append_assoc, List.singleton_append, runtimeBefore_append] at hrest
    rw [growth, ← hrest hprogress]
    by_cases hid : s.task.id = id
    · have hle : runtimeBefore past id ≤ s.task.runtime := by
        refine runtimeBefore_le fun t ht htid => ?_
        exact (List.pairwise_append.mp hprogress).2.2 t ht s List.mem_cons_self
          (htid.trans hid.symm)
      rw [if_pos hid, if_pos hid]
      omega
    · rw [if_neg hid, if_neg hid, Nat.zero_add]

theorem sightings_cons (earlier : List Epoch) (call : Epoch) (rest : List Epoch) :
    sightings (earlier ++ call :: rest) =
      (sightings earlier ++ call.sightings) ++ sightings rest := by
  rw [sightings, sightings, sightings, List.flatMap_append, List.flatMap_cons, List.append_assoc]

/-- The growth of a runtime that does not go back adds up to the last one. -/
theorem sum_runtimeGrowth (id : TaskId) (calls : List Epoch) :
    ∀ (r : Registry) (earlier : List Epoch),
    ((sightings (earlier ++ calls)).Pairwise fun s t =>
      s.task.id = t.task.id → s.task.runtime ≤ t.task.runtime) →
    runtimeBefore (sightings earlier) id +
        ((r.turns earlier calls).map (Turn.runtimeGrowth id)).sum =
      runtimeBefore (sightings (earlier ++ calls)) id := by
  induction calls with
  | nil =>
    intro r earlier _
    rw [turns, List.map_nil, List.sum_nil, Nat.add_zero, List.append_nil]
  | cons call rest ih =>
    intro r earlier hprogress
    have hrest := ih (r.recordEpoch call.snapshot call.budgets call.threshold).state
      (earlier ++ [call])
    rw [List.append_assoc, List.singleton_append] at hrest
    have hcall : sightings (earlier ++ [call]) = sightings earlier ++ call.sightings := by
      rw [sightings_cons]
      exact List.append_nil _
    have hfirst := runtimeBefore_add_growth id call.sightings (sightings earlier) (by
      rw [sightings_cons] at hprogress
      exact (List.pairwise_append.mp hprogress).1)
    rw [turns, List.map_cons, List.sum_cons, ← hrest hprogress, hcall, ← hfirst]
    exact (Nat.add_assoc _ _ _).symm

/-! ### Reported and withheld -/

theorem sum_filter_add (p : Turn → Bool) (f : Turn → ℕ) (run : List Turn) :
    ((run.filter p).map f).sum + ((run.filter fun t => !p t).map f).sum = (run.map f).sum := by
  rw [← List.sum_append, ← List.map_append]
  exact ((List.filter_append_perm p run).map f).sum_eq

/-- What faithful calls report for an identity is the growth in those that report. -/
theorem sum_credited (id : TaskId) {run : List Turn} (h : ∀ t ∈ run, t.Faithful) :
    (run.map (Turn.credited id)).sum =
      ((run.filter Turn.emits).map (Turn.runtimeGrowth id)).sum := by
  induction run with
  | nil => rfl
  | cons t rest ih =>
    have hrest := ih fun u hu => h u (List.mem_cons_of_mem _ hu)
    rw [List.map_cons, List.sum_cons, hrest, (h t List.mem_cons_self).credited, List.filter_cons]
    by_cases hemits : t.emits = true
    · rw [if_pos hemits, if_pos hemits, List.map_cons, List.sum_cons]
    · rw [if_neg hemits, if_neg hemits, Nat.zero_add]

/-- **Reconciliation.** In a run of calls that all succeed, and in which neither the total nor
the runtime of an identity goes back, the differences of totals in the calls that report and the
growth of the total in those that do not add up to the last total. For each identity, the
runtime in all its records and its growth in the calls that do not report add up to the runtime
it was last seen with. -/
theorem figures_reconcile {capacity : ℕ} {calls : List Epoch} {outs : List (List Record)}
    (h : (create capacity).answers calls = outs.map .ok)
    (htotals : (calls.map (·.snapshot.total)).Pairwise (· ≤ ·))
    (hprogress : (sightings calls).Pairwise fun s t =>
      s.task.id = t.task.id → s.task.runtime ≤ t.task.runtime) :
    let run := (create capacity).turns [] calls
    run.map Turn.records = outs ∧
    (∀ t ∈ run, (∀ record ∈ t.records, record.deltaTotal = t.deltaTotal) ∧
      (t.emits = false → t.records = [])) ∧
    ((run.filter Turn.emits).map Turn.deltaTotal).sum +
        ((run.filter fun t => !t.emits).map Turn.totalGrowth).sum = totalBefore calls ∧
    ∀ id, (run.map (Turn.credited id)).sum +
        ((run.filter fun t => !t.emits).map (Turn.runtimeGrowth id)).sum =
      runtimeBefore (sightings calls) id := by
  intro run
  obtain ⟨hrecords, hfaithful⟩ := (create_keeps capacity).turns calls h
  refine ⟨hrecords, fun t ht => ⟨(hfaithful t ht).total, (hfaithful t ht).withheld⟩, ?_, ?_⟩
  · have hdelta : (run.filter Turn.emits).map Turn.deltaTotal =
        (run.filter Turn.emits).map Turn.totalGrowth :=
      List.map_congr_left fun t ht => (hfaithful t (List.mem_of_mem_filter ht)).deltaTotal
    rw [hdelta, sum_filter_add, ← Nat.zero_add (List.sum _)]
    exact sum_totalGrowth calls (create capacity) [] htotals
  · intro id
    rw [sum_credited id hfaithful, sum_filter_add, ← Nat.zero_add (List.sum _)]
    exact sum_runtimeGrowth id calls (create capacity) [] hprogress

/-- Four calls, of which the second and the last are short: `relay` is away in both of them, and
`probe` is new in the second. -/
def fitful : List Epoch :=
  let budgets : StackBudgets := ⟨[("relay", 8), ("probe", 9)]⟩
  [⟨⟨[⟨⟨1⟩, "relay", 1, 40, 100⟩], 100⟩, budgets, 10⟩,
    ⟨⟨[⟨⟨2⟩, "probe", 1, 3, 90⟩], 105⟩, budgets, 10⟩,
    ⟨⟨[⟨⟨2⟩, "probe", 1, 20, 90⟩, ⟨⟨1⟩, "relay", 1, 90, 99⟩], 250⟩, budgets, 10⟩,
    ⟨⟨[⟨⟨2⟩, "probe", 1, 22, 90⟩], 255⟩, budgets, 10⟩]

/-- Of the runtime of `probe`, the records have what it gained in the third call alone. -/
theorem figures_reconcile_fitful :
    let run := (create 2).turns [] fitful
    (create 2).answers fitful =
      [[⟨1, "relay", 8, 100, 40, 100⟩], [], [⟨2, "probe", 9, 90, 17, 145⟩,
        ⟨1, "relay", 8, 99, 50, 145⟩], []].map .ok ∧
    (run.map (Turn.credited ⟨2⟩)).sum = 17 ∧
    ((run.filter fun t => !t.emits).map (Turn.runtimeGrowth ⟨2⟩)).sum = 3 + 2 ∧
    (run.map (Turn.credited ⟨2⟩)).sum +
        ((run.filter fun t => !t.emits).map (Turn.runtimeGrowth ⟨2⟩)).sum =
      runtimeBefore (sightings fitful) ⟨2⟩ := by
  have hanswers : (create 2).answers fitful =
      [[⟨1, "relay", 8, 100, 40, 100⟩], [], [⟨2, "probe", 9, 90, 17, 145⟩,
        ⟨1, "relay", 8, 99, 50, 145⟩], []].map .ok := by rfl
  have htotals : (fitful.map (·.snapshot.total)).Pairwise (· ≤ ·) := by decide
  have hprogress : (sightings fitful).Pairwise fun s t =>
      s.task.id = t.task.id → s.task.runtime ≤ t.task.runtime := by decide
  obtain ⟨-, -, -, hruntimes⟩ := figures_reconcile hanswers htotals hprogress
  exact ⟨hanswers, rfl, rfl, hruntimes ⟨2⟩⟩

end Registry

end Telemetry
