/-
The identities of tasks, in every order of spawns, ends and readings.

* `Roster.over_unlisted` — a task that is over is in no reading that begins afterwards;
* `Roster.live_listed` — a task that has its entry and lives is in every reading that begins
  afterwards;
* `TaskTable.keys`, `Roster.quiet_keys` — what a reading can depend on, and that only new entries,
  ends and withdrawals change it;
* `Roster.identities_unique` — all of it, for the spawns as their callers see them.

Design notes: a reading takes as long as it takes. It begins afterwards when all of it comes after;
for a task that must be in it the spawn has returned before it begins, and the end is not there
when it is complete; and two readings must agree when nothing happens to the entries from the
beginning of the first to the end of the second.
-/
import Telemetry.Proofs.Task.Roster

namespace Telemetry

namespace TaskTable

/-- What a reading can see of each entry. -/
def keys (t : TaskTable) : List (TaskId × Bool) := t.entries.map fun e => (e.id, e.alive)

theorem ids_filter_alive (entries : List TaskEntry) :
    (entries.filter (·.alive)).map (·.id) =
      ((entries.map fun e => (e.id, e.alive)).filter (·.2)).map (·.1) := by
  rw [List.filter_map, List.map_map]
  rfl

/-- A snapshot lists as many tasks as a count counts. -/
theorem length_snapshot (t : TaskTable) (total : ℕ) : (t.snapshot total).tasks.length = t.count :=
  List.length_map _

theorem count_eq (t : TaskTable) : t.count = (t.keys.filter (·.2)).length := by
  rw [keys, List.filter_map, List.length_map]
  rfl

theorem keys_update (t : TaskTable) (id : TaskId) (clock : BusyClock) (stackDepth : ℕ) :
    (t.update id clock stackDepth).keys = t.keys := by
  rw [keys, keys, update, List.map_map]
  exact List.map_congr_left fun e _ => by dsimp only [Function.comp_apply]; split <;> rfl

end TaskTable

namespace Roster

/-! ### Tasks that are over -/

/-- A task that is over is in no reading that begins afterwards. -/
theorem over_unlisted {before later : List Move} (hfew : draws (before ++ later) < 2 ^ 32) {k : ℕ}
    {p : Spawn} (hp : (run before).spawns[k]? = some p) (hover : p.stage.alive? = some false)
    {r : ℕ} (hr : (run before).readings.length ≤ r) {q : Reading}
    (hq : (run (before ++ later)).readings[r]? = some q) : p.id ∉ q.ids := by
  induction later using List.reverseRecOn generalizing q with
  | nil =>
    rw [List.append_nil] at hq
    exact absurd (List.getElem?_eq_some_iff.mp hq).1 (Nat.not_lt.mpr hr)
  | append_singleton later m ih =>
    rw [← List.append_assoc] at hfew hq
    have hfew' := Nat.lt_of_le_of_lt (draws_append_le (before ++ later) [m]) hfew
    rw [run_concat] at hq
    rcases step_readings hq with hq | ⟨-, rfl⟩ | ⟨q₀, hq₀, -, rfl⟩
    · exact ih hfew' hq
    · exact List.not_mem_nil
    · have hkept := kept _ hfew'
      obtain ⟨p', hp', hadv⟩ := run_advanced before later hp
      have hdead := hkept.matched p' (List.mem_of_getElem? hp')
      rw [hadv.id, hadv.dead hover] at hdead
      rw [Reading.ids_look, List.mem_append, not_or]
      refine ⟨ih hfew' hq₀, fun hmem => ?_⟩
      -- an entry of the task that is seen alive would be an entry that is alive
      obtain ⟨e, he, hid⟩ := List.mem_map.mp hmem
      obtain ⟨he, halive⟩ := List.mem_filter.mp he
      have hentry : e ∈ (run (before ++ later)).table.entries :=
        List.mem_of_getElem? (Option.mem_toList.mp he)
      have hlive := TaskTable.alive?_of_mem hkept.nodup hentry
      rw [hid, hdead, halive] at hlive
      cases hlive

/-! ### Tasks that live -/

/-- A reading has met the entry at place `j` alive, or has not come to it, or the task is over. -/
def Met (t : TaskTable) (id : TaskId) (j : ℕ) (q : Reading) : Prop :=
  j < q.extent ∧ (j < q.seen → id ∈ q.ids ∨ t.alive? id = some false)

/-- A task with an entry is met by every reading that begins afterwards. -/
theorem met {before later : List Move} (hfew : draws (before ++ later) < 2 ^ 32) {k : ℕ}
    {p : Spawn} (hp : (run before).spawns[k]? = some p) {j : ℕ}
    (hj : (run before).table.ids[j]? = some p.id) {r : ℕ}
    (hr : (run before).readings.length ≤ r) {q : Reading}
    (hq : (run (before ++ later)).readings[r]? = some q) :
    Met (run (before ++ later)).table p.id j q := by
  induction later using List.reverseRecOn generalizing q with
  | nil =>
    rw [List.append_nil] at hq
    exact absurd (List.getElem?_eq_some_iff.mp hq).1 (Nat.not_lt.mpr hr)
  | append_singleton later m ih =>
    rw [← List.append_assoc] at hfew hq ⊢
    have hfew' := Nat.lt_of_le_of_lt (draws_append_le (before ++ later) [m]) hfew
    have hkept := kept _ hfew'
    -- the entry is still at its place, and once dead it stays dead
    have hplace : (run (before ++ later)).table.ids[j]? = some p.id := by
      obtain ⟨rest, hrest⟩ := run_ids before later
      rw [← hrest, List.getElem?_append_left (List.getElem?_eq_some_iff.mp hj).1, hj]
    have hdead : (run (before ++ later)).table.alive? p.id = some false →
        (run ((before ++ later) ++ [m])).table.alive? p.id = some false := by
      obtain ⟨p₁, hp₁, hadv₁⟩ := run_advanced before later hp
      obtain ⟨p₂, hp₂, hadv₂⟩ := run_advanced (before ++ later) [m] hp₁
      have h₁ := hkept.matched p₁ (List.mem_of_getElem? hp₁)
      have h₂ := (kept _ hfew).matched p₂ (List.mem_of_getElem? hp₂)
      rw [hadv₁.id] at h₁
      rw [hadv₂.id, hadv₁.id] at h₂
      rw [h₁, h₂]
      exact hadv₂.dead
    rw [run_concat] at hq
    rcases step_readings hq with hq | ⟨-, rfl⟩ | ⟨q₀, hq₀, hseen, rfl⟩
    · exact ⟨(ih hfew' hq).1, fun hjseen => ((ih hfew' hq).2 hjseen).imp_right hdead⟩
    · refine ⟨?_, fun hjseen => absurd hjseen (Nat.not_lt_zero j)⟩
      rw [← TaskTable.length_ids]
      exact (List.getElem?_eq_some_iff.mp hplace).1
    · obtain ⟨hextent, hmet⟩ := ih hfew' hq₀
      refine ⟨hextent, fun hjseen => ?_⟩
      rw [Reading.ids_look, List.mem_append]
      rcases Nat.lt_succ_iff_lt_or_eq.mp hjseen with hjseen | rfl
      · exact (hmet hjseen).imp .inl hdead
      · -- the entry is the one that is looked at
        rw [TaskTable.ids, List.getElem?_map] at hplace
        obtain ⟨e, he, hid⟩ := Option.map_eq_some_iff.mp hplace
        have halive := TaskTable.alive?_of_mem hkept.nodup (List.mem_of_getElem? he)
        rw [hid] at halive
        cases hcase : e.alive with
        | true =>
          refine .inl (.inr (List.mem_map.mpr ⟨e, List.mem_filter.mpr ⟨?_, hcase⟩, hid⟩))
          rw [he]
          exact List.mem_singleton_self e
        | false => exact .inr (hdead (hcase ▸ halive))

/-- A task that has its entry and lives is in every complete reading that begins afterwards. -/
theorem live_listed {before later : List Move} (hfew : draws (before ++ later) < 2 ^ 32) {k : ℕ}
    {p p' : Spawn} (hp : (run before).spawns[k]? = some p) (hentered : p.stage.alive? ≠ none)
    (hp' : (run (before ++ later)).spawns[k]? = some p') (hlive : p'.stage.alive? = some true)
    {r : ℕ} (hr : (run before).readings.length ≤ r) {q : Reading}
    (hq : (run (before ++ later)).readings[r]? = some q) (hcomplete : q.Complete) :
    p.id ∈ q.ids := by
  have hkept := kept before (Nat.lt_of_le_of_lt (draws_append_le before later) hfew)
  have hin : p.id ∈ (run before).table.ids := by
    by_contra hnot
    rw [← TaskTable.alive?_eq_none_iff, hkept.matched p (List.mem_of_getElem? hp)] at hnot
    exact hentered hnot
  obtain ⟨j, hj⟩ := List.mem_iff_getElem?.mp hin
  obtain ⟨hextent, hmet⟩ := met hfew hp hj hr hq
  refine (hmet (hcomplete ▸ hextent)).resolve_right fun hdead => ?_
  obtain ⟨p'', hp'', hadv⟩ := run_advanced before later hp
  obtain rfl : p'' = p' := Option.some.inj (hp''.symm.trans hp')
  have hmatched := (kept _ hfew).matched p'' (List.mem_of_getElem? hp'')
  rw [hadv.id, hdead, hlive] at hmatched
  cases hmatched

/-! ### When nothing happens to the entries -/

theorem keys_advance {s : Roster} {k : ℕ} {ok : Spawn → Bool} {p' : Spawn → Spawn}
    {effect : Spawn → TaskTable → TaskTable}
    (heffect : ∀ (p : Spawn) (t : TaskTable), (effect p t).keys = t.keys) :
    (s.advance k ok p' effect).table.keys = s.table.keys := by
  rcases advance_cases (s := s) with heq | ⟨p, -, -, heq⟩
  · rw [heq]
  · rw [heq]
    exact heffect p s.table

/-- Quiet moves change nothing that a reading can see. -/
theorem quiet_keys {s : Roster} {m : Move} (hquiet : m.quiet = true) :
    (s.step m).table.keys = s.table.keys := by
  cases m with
  | draw name priority stackSize => rfl
  | enlist k now => cases hquiet
  | withdraw k => cases hquiet
  | finish k panicked => cases hquiet
  | read => rfl
  | look r =>
    rcases look_cases s r with heq | ⟨q, -, -, heq⟩
    · rw [heq]
    · rw [heq]
  | work k clock stackDepth => exact keys_advance fun p t => t.keys_update p.id clock stackDepth
  | _ => exact keys_advance fun p t => rfl

theorem quiet_run_keys {before later : List Move} (hquiet : ∀ m ∈ later, m.quiet = true) :
    (run (before ++ later)).table.keys = (run before).table.keys := by
  induction later using List.reverseRecOn with
  | nil => rw [List.append_nil]
  | append_singleton later m ih =>
    rw [← List.append_assoc, run_concat, quiet_keys (hquiet m (by simp)),
      ih fun m' hm' => hquiet m' (List.mem_append_left _ hm')]

/-- A reading has seen entries with the keys `keys`. -/
structure Faithful (keys : List (TaskId × Bool)) (q : Reading) : Prop where
  extent : q.extent = keys.length
  ids : q.ids = ((keys.take q.seen).filter (·.2)).map (·.1)

theorem Faithful.look {t : TaskTable} {q : Reading} (h : Faithful t.keys q) :
    Faithful t.keys (q.look t) := by
  refine ⟨h.extent, ?_⟩
  have htake : t.keys.take (q.seen + 1) =
      t.keys.take q.seen ++ t.entries[q.seen]?.toList.map fun e => (e.id, e.alive) := by
    rw [List.take_add_one, TaskTable.keys, List.getElem?_map]
    cases t.entries[q.seen]? <;> rfl
  show (q.look t).ids = ((t.keys.take (q.seen + 1)).filter (·.2)).map (·.1)
  rw [Reading.ids_look, htake, List.filter_append, List.map_append, h.ids,
    TaskTable.ids_filter_alive]

/-- Readings that begin when nothing happens to the entries see them as they are. -/
theorem faithful {before later : List Move} (hquiet : ∀ m ∈ later, m.quiet = true) {r : ℕ}
    (hr : (run before).readings.length ≤ r) {q : Reading}
    (hq : (run (before ++ later)).readings[r]? = some q) :
    Faithful (run before).table.keys q := by
  induction later using List.reverseRecOn generalizing q with
  | nil =>
    rw [List.append_nil] at hq
    exact absurd (List.getElem?_eq_some_iff.mp hq).1 (Nat.not_lt.mpr hr)
  | append_singleton later m ih =>
    have hquiet' : ∀ m ∈ later, m.quiet = true := fun m' hm' =>
      hquiet m' (List.mem_append_left _ hm')
    rw [← List.append_assoc, run_concat] at hq
    rcases step_readings hq with hq | ⟨-, rfl⟩ | ⟨q₀, hq₀, -, rfl⟩
    · exact ih hquiet' hq
    · rw [← quiet_run_keys hquiet']
      exact ⟨(List.length_map _).symm, rfl⟩
    · have hfaithful := ih hquiet' hq₀
      rw [← quiet_run_keys hquiet'] at hfaithful ⊢
      exact hfaithful.look

/-- Two complete readings list the same tasks when nothing happens to the entries from the
beginning of the first to the end of the second. -/
theorem quiet_agree {before later : List Move} (hquiet : ∀ m ∈ later, m.quiet = true) {r r' : ℕ}
    (hr : (run before).readings.length ≤ r) (hr' : (run before).readings.length ≤ r')
    {q q' : Reading} (hq : (run (before ++ later)).readings[r]? = some q)
    (hq' : (run (before ++ later)).readings[r']? = some q') (hcomplete : q.Complete)
    (hcomplete' : q'.Complete) : q.ids = q'.ids := by
  have h := faithful hquiet hr hq
  have h' := faithful hquiet hr' hq'
  rw [h.ids, h'.ids, hcomplete, hcomplete', h.extent, h'.extent]

/-! ### As callers see it -/

/-- The readings of `s'` that have begun since `s`. -/
def since (s s' : Roster) : List Reading := s'.readings.drop s.readings.length

theorem mem_since {s s' : Roster} {q : Reading} (hq : q ∈ s.since s') :
    ∃ r, s.readings.length ≤ r ∧ s'.readings[r]? = some q := by
  obtain ⟨i, hi⟩ := List.mem_iff_getElem?.mp hq
  rw [since, List.getElem?_drop] at hi
  exact ⟨_, Nat.le_add_right _ _, hi⟩

/-- A spawn that has returned an error, or whose task has ended, has left no task that lives. -/
theorem Spawn.Honest.over {p : Spawn} (h : p.Honest)
    (hover : p.Ended ∨ ∃ e, p.outcome = some (.error e)) : p.stage.alive? = some false := by
  rcases hover with ⟨panicked, hstage⟩ | ⟨e, he⟩
  · rw [hstage]
    rfl
  · rcases h _ he with ⟨hok, -⟩ | ⟨-, hstage⟩
    · cases hok
    · rw [hstage]
      rfl

/-- The task of a thread that was created lives until it ends. -/
theorem Spawn.alive?_of_launched {p : Spawn} (hlaunched : p.stage.launched = true)
    (hrunning : ¬ p.Ended) : p.stage.alive? = some true := by
  cases hstage : p.stage with
  | running => rfl
  | ended panicked => exact absurd ⟨panicked, hstage⟩ hrunning
  | _ => rw [hstage] at hlaunched; cases hlaunched

/-- Whatever has happened, the identities drawn are distinct, every entry has one of them to
itself, none is that of detached work, and no reading lists one twice. A reading that begins after
`before` does not list a task that had ended or whose spawn had returned an error; when it is
complete it lists every task that a spawn had returned and that has not ended; and when after
`before` no entry was made and no task ended, any two that are complete count and list the same
number. A reading that nothing interrupts is a snapshot and counts as the table does. -/
theorem identities_unique (before later : List Move) (hfew : draws (before ++ later) < 2 ^ 32) :
    let s := run before
    let s' := run (before ++ later)
    ((s'.spawns.map (·.id)).Nodup ∧ s'.table.ids.Nodup ∧ s'.table.ids ⊆ s'.spawns.map (·.id)) ∧
    (∀ name stackSize now,
      (TaskEntry.detached name stackSize now).id ∉ s'.spawns.map (·.id)) ∧
    (∀ q ∈ s'.readings, q.ids.Nodup) ∧
    (∀ p ∈ s.spawns, (p.Ended ∨ ∃ e, p.outcome = some (.error e)) →
      ∀ q ∈ s.since s', p.id ∉ q.ids) ∧
    (∀ p ∈ s.spawns, ∀ id, p.outcome = some (.ok id) →
      (∀ p' ∈ s'.spawns, p'.id = id → ¬ p'.Ended) →
        ∀ q ∈ s.since s', q.Complete → id ∈ q.ids) ∧
    ((∀ m ∈ later, m.quiet = true) → ∀ q ∈ s.since s', ∀ q' ∈ s.since s',
      q.Complete → q'.Complete → q.count = q'.listed.length) ∧
    ∀ total, ∃ q : Reading, s'.readWhole = { s' with readings := s'.readings ++ [q] } ∧
      q.Complete ∧ q.listed = (s'.table.snapshot total).tasks ∧ q.count = s'.table.count := by
  intro s s'
  have hkept : Kept s := kept _ (Nat.lt_of_le_of_lt (draws_append_le before later) hfew)
  have hkept' : Kept s' := kept _ hfew
  have hfew' : s'.spawns.length < 2 ^ 32 := length_spawns (before ++ later) ▸ hfew
  refine ⟨⟨hkept'.distinct hfew', hkept'.nodup, hkept'.known⟩, ?_, ?_, ?_, ?_, ?_, ?_⟩
  · intro name stackSize now hin
    obtain ⟨p, hp, hid⟩ := List.mem_map.mp hin
    exact hkept'.ne_zero hfew' hp hid
  · intro q hq
    exact (hkept'.walked q hq).sublist.nodup (hkept'.nodup.sublist (List.take_sublist _ _))
  · intro p hp hover q hq
    obtain ⟨k, hk⟩ := List.mem_iff_getElem?.mp hp
    obtain ⟨r, hr, hq⟩ := mem_since hq
    exact over_unlisted hfew hk ((hkept.honest p hp).over hover) hr hq
  · intro p hp id hok hrunning q hq hcomplete
    obtain ⟨k, hk⟩ := List.mem_iff_getElem?.mp hp
    obtain ⟨r, hr, hq⟩ := mem_since hq
    obtain ⟨p', hp', hadv⟩ := run_advanced before later hk
    rcases hkept.honest p hp _ hok with ⟨hid, hlaunched⟩ | ⟨herror, -⟩
    · obtain rfl : id = p.id := Except.ok.inj hid
      have hlive := Spawn.alive?_of_launched (hadv.launched hlaunched)
        (hrunning p' (List.mem_of_getElem? hp') hadv.id)
      refine live_listed hfew hk ?_ hp' hlive hr hq hcomplete
      exact p.stage.alive?_ne_none_of_launched hlaunched
    · cases herror
  · intro hquiet q hq q' hq' hcomplete hcomplete'
    obtain ⟨r, hr, hq⟩ := mem_since hq
    obtain ⟨r', hr', hq'⟩ := mem_since hq'
    have hids := quiet_agree hquiet hr hr' hq hq' hcomplete hcomplete'
    have hlength := congrArg List.length hids
    rwa [Reading.ids, Reading.ids, List.length_map, List.length_map] at hlength
  · intro total
    exact ⟨_, readWhole_eq s' total, rfl, rfl, s'.table.length_snapshot total⟩

/-- Two spawns: the identities are drawn in one order and the entries made in the other, and the
second thread is refused. -/
def crossed : List Move :=
  [.draw "a" 1 1024, .draw "b" 1 2048, .enlist 1 0, .enlist 0 0, .launch 0, .refuse 1, .answer 0,
    .withdraw 1, .answer 1]

/-- A reading of the two entries. -/
def walk : List Move := [.read, .look 0, .look 0]

theorem spawns_crossed : (run crossed).spawns =
    [⟨⟨1⟩, "a", 1, 1024, .running, some (.ok ⟨1⟩)⟩,
      ⟨⟨2⟩, "b", 1, 2048, .withdrawn, some (.error (TaskTable.refusal "b"))⟩] := rfl

/-- The reading lists the first of them and not the second. -/
theorem identities_unique_crossed :
    draws (crossed ++ walk) < 2 ^ 32 ∧
    ∃ q : Reading, (run crossed).since (run (crossed ++ walk)) = [q] ∧ q.Complete ∧
      ⟨1⟩ ∈ q.ids ∧ ⟨2⟩ ∉ q.ids := by
  have hfew : draws (crossed ++ walk) < 2 ^ 32 := by decide
  have hsince : (run crossed).since (run (crossed ++ walk)) = [⟨2, 2, [⟨⟨1⟩, "a", 1, 0, 1024⟩]⟩] :=
    rfl
  obtain ⟨-, -, -, hover, hlive, -⟩ := identities_unique crossed walk hfew
  refine ⟨hfew, _, hsince, rfl, ?_, ?_⟩
  · refine hlive _ (spawns_crossed ▸ List.mem_cons_self) ⟨1⟩ rfl ?_ _ ?_ rfl
    · rintro p hp - ⟨panicked, hstage⟩
      rw [show (run (crossed ++ walk)).spawns = (run crossed).spawns from rfl, spawns_crossed] at hp
      rcases List.mem_pair.mp hp with rfl | rfl
      · cases hstage
      · cases hstage
    · rw [hsince]
      exact List.mem_singleton_self _
  · refine hover ⟨⟨2⟩, "b", 1, 2048, .withdrawn, some (.error (TaskTable.refusal "b"))⟩ ?_
      (.inr ⟨_, rfl⟩) _ ?_
    · rw [spawns_crossed]
      exact List.mem_cons_of_mem _ List.mem_cons_self
    · rw [hsince]
      exact List.mem_singleton_self _

end Roster

end Telemetry
