/-
Runtimes in snapshots, in every order of calls, spawns and snapshots.

The counter of a task is the time since it began, up to its last fold, without the calls that were
over before. All readings of the clock come after the making of the table, so the counter is at
most the time since then, and what a snapshot has listed when it reads its total is at most that
total. Counters only grow, so a snapshot that comes to a task later reads no smaller figure:

* `Worker.Fair`, `Timesheet.fair` — a counter is what the calls of its task make of their readings,
  and these are in the order of all readings;
* `Timesheet.Grows`, `Timesheet.grows_run` — no counter is set back and no entry changes its place;
* `Timesheet.lists_le`, `Timesheet.le_runtime_of_later` — figures that a snapshot has read lie
  between those that the entry had before and those that it has now;
* `Survey.Bounded`, `Timesheet.bounded` — no runtime exceeds the total;
* `Timesheet.runtimes_accounted` — all of it.

Design notes: two snapshots may overlap. The one that comes to an entry second is the later one for
that task, whichever began first; of two that do not overlap it is always the second. Across
snapshots a task is known by its identity, and there are 2 ^ 32 of them.
-/
import Telemetry.Proofs.Task.Roster
import Telemetry.Proofs.Task.Timesheet

namespace Telemetry

open BusyClock (Nondecreasing timeline lastFold)

namespace Timesheet

/-! ### Counters and calls -/

namespace Worker

variable {w w' : Worker} {d : Deed} {began : Instant} {heard : List Instant}

/-- The counter of a task is what its calls make of their readings, and these are some of the
readings `heard` of the clock, in order. -/
structure Fair (began : Instant) (heard : List Instant) (w : Worker) : Prop where
  fresh : w.doing = .waiting → w.calls = []
  clock : w.entry.clock = (BusyClock.start w.entered).after w.history
  heard : (w.readings began).Sublist heard

/-- No step sets a counter back or changes the identity of a task. -/
theorem Did.grows (h : w.Did d w') :
    w'.entry.id = w.entry.id ∧ w.entry.clock.busy ≤ w'.entry.clock.busy := by
  cases h with
  | stay now h => exact ⟨rfl, w.entry.clock.busy_le_checkpoint now⟩
  | leave now h => exact ⟨rfl, w.entry.clock.busy_le_checkpoint now⟩
  | _ => exact ⟨rfl, Nat.le_refl _⟩

/-- A step adds its own reading to those of the task, or none. -/
theorem Did.readings (h : w.Did d w') (hfresh : w.doing = .waiting → w.calls = []) :
    (w'.readings began).Sublist (w.readings began ++ d.reading?.toList) := by
  cases h with
  | enter now h =>
    -- all that came before the beginning is forgotten
    simp only [Worker.readings, history, hfresh h]
    exact (List.sublist_append_right _ [now]).cons_cons began
  | read d now leaving h hd => simp [Worker.readings, history, h, hd]
  | stay now h => simp [Worker.readings, history, h]
  | leave now h => simp [Worker.readings, history, h]
  | back before now h => simp [Worker.readings, history, h, Deed.reading?]
  | probe depth => exact List.sublist_append_left _ _
  | finish =>
    -- a reading in hand is lost
    simp [Worker.readings, history]
  | idle d => exact List.sublist_append_left _ _

theorem Did.clock (h : w.Did d w') (hfresh : w.doing = .waiting → w.calls = [])
    (hclock : w.entry.clock = (BusyClock.start w.entered).after w.history) :
    w'.entry.clock = (BusyClock.start w'.entered).after w'.history := by
  cases h with
  | enter now h =>
    rw [hclock]
    simp [history, h, hfresh h, BusyClock.after, BusyClock.resume, BusyClock.start]
  | read d now leaving h hd => simpa [history, h] using hclock
  | stay now h => simp [history, h, hclock, BusyClock.Call.apply]
  | leave now h => simp [history, h, hclock, BusyClock.Call.apply]
  | back before now h =>
    -- the checkpoint of the call has been folded in when it began
    simp [history, h, hclock, BusyClock.Call.apply, BusyClock.block_eq]
  | probe depth => exact hclock
  | finish => simpa [history] using hclock
  | idle d => exact hclock

/-- A step of a task keeps its counter fair. -/
theorem Fair.step (h : w.Fair began heard) (d : Deed) :
    (w.step d).Fair began (heard ++ d.reading?.toList) := by
  have hdid := w.did_step d
  refine ⟨?_, hdid.clock h.fresh h.clock,
    (hdid.readings h.fresh).trans (h.heard.append_right _)⟩
  generalize w.step d = w' at hdid
  cases hdid with
  | probe depth => exact h.fresh
  | idle d => exact h.fresh
  | _ => exact nofun

/-- While other steps read the clock, nothing is lost. -/
theorem Fair.later (h : w.Fair began heard) (more : List Instant) :
    w.Fair began (heard ++ more) :=
  ⟨h.fresh, h.clock, h.heard.trans (List.sublist_append_left _ _)⟩

/-- A task has not been busy for longer than the time since the table was made. -/
theorem Fair.busy_le (h : w.Fair began heard) {now : Instant}
    (hclock : Nondecreasing (heard ++ [now])) : w.entry.clock.busy ≤ (now - began).toNat := by
  have hreadings : Nondecreasing (w.readings began ++ [now]) :=
    hclock.sublist (h.heard.append_right [now])
  have htimeline : Nondecreasing (timeline w.entered w.history ++ [now]) := by
    refine hreadings.sublist (List.Sublist.append_right ?_ [now])
    exact (List.sublist_append_left _ _).cons began
  have hbegan : began ≤ w.entered :=
    (List.pairwise_cons.mp hreadings).1 _ (by simp [timeline])
  have hpast : began ≤ now := (List.pairwise_cons.mp hreadings).1 _ (by simp)
  have hbusy := BusyClock.busy_le htimeline
  rw [h.clock, Int.le_toNat (sub_nonneg.mpr hpast)]
  linarith

end Worker

variable {began : Instant} {s : Timesheet} {m : Move} {moves before later : List Move} {r j : ℕ}
  {x y : TaskStatus}

/-- Every task is fair, whatever the clock reads. -/
theorem fair (began : Instant) (moves : List Move) :
    ∀ w ∈ (run began moves).workers, w.Fair began (heard began moves) := by
  -- by the moves: the one task that a move concerns takes a step, the others only hear of it
  induction moves using List.reverseRecOn with
  | nil => exact nofun
  | append_singleton moves m ih =>
    intro w' hw'
    rw [run_concat] at hw'
    rw [heard_concat]
    rcases step_workers hw' with ⟨id, name, priority, stackSize, now, hnow, rfl⟩ |
      ⟨w, hw, j, d, rfl, rfl⟩ | hw
    · -- a new task has made no calls, and its only reading is that of the move
      refine ⟨fun _ => rfl, rfl, ?_⟩
      rw [hnow]
      exact ((List.nil_sublist _).append_right [now]).cons_cons began
    · exact (ih w hw).step d
    · exact (ih w' hw).later _

/-! ### Counters only grow -/

/-- Every entry of `t` is in its place in `t'`, with the same identity and at least the same busy
time. -/
def Grows (t t' : TaskTable) : Prop :=
  ∀ (j : ℕ) (e : TaskEntry), t.entries[j]? = some e →
    ∃ e', t'.entries[j]? = some e' ∧ e'.id = e.id ∧ e.clock.busy ≤ e'.clock.busy

theorem Grows.refl (t : TaskTable) : Grows t t := fun _ e he => ⟨e, he, rfl, Nat.le_refl _⟩

theorem Grows.trans {t t' t'' : TaskTable} (h : Grows t t') (h' : Grows t' t'') : Grows t t'' := by
  intro j e he
  obtain ⟨e', he', hid, hbusy⟩ := h j e he
  obtain ⟨e'', he'', hid', hbusy'⟩ := h' j e' he'
  exact ⟨e'', he'', hid'.trans hid, Nat.le_trans hbusy hbusy'⟩

/-- No move sets a counter back. -/
theorem grows_step (s : Timesheet) (m : Move) : Grows s.table (s.step m).table := by
  cases m with
  | enlist i name priority stackSize now =>
    rw [step]
    split
    · intro j e he
      obtain ⟨w, hw, rfl⟩ := exists_worker he
      refine ⟨w.entry, ?_, rfl, Nat.le_refl _⟩
      rw [getElem?_entries, List.getElem?_append_left (List.getElem?_eq_some_iff.mp hw).1, hw]
      rfl
    · exact .refl _
  | task j d =>
    intro i e he
    obtain ⟨w, hw, rfl⟩ := exists_worker he
    rw [getElem?_entries, step, List.getElem?_modify, hw]
    by_cases hij : j = i
    · have hgrows := (w.did_step d).grows
      exact ⟨(w.step d).entry, by simp [hij], hgrows.1, hgrows.2⟩
    · exact ⟨w.entry, by simp [hij], rfl, Nat.le_refl _⟩
  | _ => exact .refl _

theorem grows_run (began : Instant) (before later : List Move) :
    Grows (run began before).table (run began (before ++ later)).table := by
  induction later using List.reverseRecOn with
  | nil => exact (List.append_nil before).symm ▸ .refl _
  | append_singleton later m ih =>
    rw [← List.append_assoc, run_concat]
    exact ih.trans (grows_step _ m)

/-! ### Identities -/

/-- How many identities are drawn. -/
def draws (moves : List Move) : ℕ := moves.countP fun | .draw => true | _ => false

/-- The identities of the entries, with those that have no entry yet, are the first `n`. -/
structure Drawn (n : ℕ) (s : Timesheet) : Prop where
  next : s.nextId = UInt32.ofNat (n + 1)
  perm : (s.table.ids ++ s.drawn).Perm (Roster.identities n)

theorem ids_task (s : Timesheet) (j : ℕ) (d : Deed) :
    (s.step (.task j d)).table.ids = s.table.ids := by
  refine List.ext_getElem? fun i => ?_
  rw [TaskTable.ids, TaskTable.ids, List.getElem?_map, List.getElem?_map, getElem?_entries,
    getElem?_entries, step, List.getElem?_modify]
  rcases s.workers[i]? with _ | w
  · rfl
  by_cases hij : j = i
  · simp [hij, (w.did_step d).grows.1]
  · simp [hij]

theorem Drawn.step {n : ℕ} (h : Drawn n s) (m : Move) : Drawn (n + draws [m]) (s.step m) := by
  cases m with
  | draw =>
    refine ⟨?_, ?_⟩
    · show s.nextId + 1 = UInt32.ofNat (n + 1 + 1)
      rw [h.next, UInt32.ofNat_add (n + 1)]
      rfl
    · have hid : s.table.draw.1 = ⟨UInt32.ofNat (n + 1)⟩ := congrArg TaskId.mk h.next
      show (s.table.ids ++ (s.drawn ++ [s.table.draw.1])).Perm (Roster.identities (n + 1))
      rw [← List.append_assoc, hid, Roster.identities, List.range_succ, List.map_append]
      exact h.perm.append_right _
  | enlist i name priority stackSize now =>
    rw [Timesheet.step]
    split
    · next id hid =>
      -- an identity goes from those drawn to those of the entries
      obtain ⟨hi, rfl⟩ := List.getElem?_eq_some_iff.mp hid
      refine ⟨h.next, ?_⟩
      refine .trans ?_ h.perm
      rw [TaskTable.ids, table, List.map_append, List.map_append, List.append_assoc]
      exact (List.getElem_cons_eraseIdx_perm hi).append_left _
    · exact h
  | task j d =>
    refine ⟨h.next, ?_⟩
    rw [ids_task]
    exact h.perm
  | _ => exact ⟨h.next, h.perm⟩

theorem drawn_run (began : Instant) (moves : List Move) :
    Drawn (draws moves) (run began moves) := by
  induction moves using List.reverseRecOn with
  | nil => exact ⟨rfl, .refl _⟩
  | append_singleton moves m ih =>
    rw [run_concat, draws, List.countP_append]
    exact ih.step m

/-- No two tasks have one identity, until all have been drawn. -/
theorem nodup_ids (hfew : draws moves < 2 ^ 32) : (run began moves).table.ids.Nodup :=
  ((drawn_run began moves).perm.nodup_iff.mpr (Roster.nodup_identities hfew)).of_append_left

/-! ### What snapshots list -/

theorem micros_le {b b' : BusyClock} (h : b.busy ≤ b'.busy) : b.micros ≤ b'.micros :=
  Nat.div_le_div_right h

/-- Figures that are listed were listed before, or are those of the entry at this moment. -/
theorem lists_step (h : (s.step m).Lists r j x) :
    s.Lists r j x ∨ ∃ e, s.table.entries[j]? = some e ∧ x = e.status := by
  obtain ⟨q', hq', hx⟩ := h
  rcases step_surveys hq' with hq | rfl | ⟨q, hq, rfl | rfl | ⟨now, -, rfl⟩⟩
  · exact .inl ⟨q', hq, hx⟩
  · cases hx
  · exact .inl ⟨q, hq, (q.look_keeps s.table).1 ▸ hx⟩
  · rcases Survey.mem_listed_note hx with hx | hnew
    · exact .inl ⟨q, hq, hx⟩
    · exact .inr hnew
  · exact .inl ⟨q, hq, Survey.listed_close q s.began now ▸ hx⟩

/-- Figures that a snapshot has read belong to the entry, whose counter has only grown since. -/
theorem lists_le (h : (run began moves).Lists r j x) :
    ∃ e, (run began moves).table.entries[j]? = some e ∧ e.id = x.id ∧
      x.runtime ≤ e.clock.micros := by
  -- by the moves: when the figures are read they are equal, and after that the counter grows
  induction moves using List.reverseRecOn with
  | nil =>
    obtain ⟨q, hq, -⟩ := h
    cases hq
  | append_singleton moves m ih =>
    rw [run_concat] at h ⊢
    have hread : ∃ e, (run began moves).table.entries[j]? = some e ∧ e.id = x.id ∧
        x.runtime ≤ e.clock.micros := by
      rcases lists_step h with h | ⟨e, he, rfl⟩
      · exact ih h
      · exact ⟨e, he, rfl, Nat.le_refl _⟩
    obtain ⟨e, he, hid, hruntime⟩ := hread
    obtain ⟨e', he', hid', hbusy⟩ := grows_step _ m j e he
    exact ⟨e', he', hid'.trans hid, Nat.le_trans hruntime (micros_le hbusy)⟩

/-- Figures that are read later are at least those that the entry had. -/
theorem le_runtime_of_later {e : TaskEntry} (he : (run began before).table.entries[j]? = some e)
    (hnew : ∀ z, ¬ (run began before).Lists r j z)
    (hy : (run began (before ++ later)).Lists r j y) :
    y.id = e.id ∧ e.clock.micros ≤ y.runtime := by
  -- by the later moves, back to the one at which the figures are read
  induction later using List.reverseRecOn with
  | nil =>
    rw [List.append_nil] at hy
    exact absurd hy (hnew y)
  | append_singleton later m ih =>
    rw [← List.append_assoc, run_concat] at hy
    rcases lists_step hy with hy | ⟨e', he', rfl⟩
    · exact ih hy
    · obtain ⟨e'', he'', hid, hbusy⟩ := grows_run began before later j e he
      obtain rfl : e'' = e' := Option.some.inj (he''.symm.trans he')
      exact ⟨hid, micros_le hbusy⟩

/-- A snapshot that comes to a task after another one has read its figures reads no smaller
runtime. -/
theorem runtime_le_of_later {r' : ℕ} (hx : (run began before).Lists r j x)
    (hnew : ∀ z, ¬ (run began before).Lists r' j z)
    (hy : (run began (before ++ later)).Lists r' j y) : x.id = y.id ∧ x.runtime ≤ y.runtime := by
  obtain ⟨e, he, hid, hruntime⟩ := lists_le hx
  obtain ⟨hid', hlater⟩ := le_runtime_of_later he hnew hy
  exact ⟨hid.symm.trans hid'.symm, Nat.le_trans hruntime hlater⟩

/-- A task that two snapshots list, one of which began when the other had read its figures of it,
has no smaller runtime in the second. -/
theorem runtime_le_of_id_eq (hfew : draws (before ++ later) < 2 ^ 32) {q q' : Survey} {r' : ℕ}
    (hq : q ∈ (run began before).surveys) (hr' : (run began before).surveys.length ≤ r')
    (hq' : (run began (before ++ later)).surveys[r']? = some q') (hx : x ∈ q.listed.map (·.2))
    (hy : y ∈ q'.listed.map (·.2)) (hid : x.id = y.id) : x.runtime ≤ y.runtime := by
  obtain ⟨⟨j, x⟩, hxq, rfl⟩ := List.mem_map.mp hx
  obtain ⟨⟨i, y⟩, hyq, rfl⟩ := List.mem_map.mp hy
  obtain ⟨r, hr⟩ := List.mem_iff_getElem?.mp hq
  have hxlists : (run began before).Lists r j x := ⟨q, hr, hxq⟩
  have hylists : (run began (before ++ later)).Lists r' i y := ⟨q', hq', hyq⟩
  -- both list the same entry
  obtain ⟨e₀, he₀, hid₀, -⟩ := lists_le hxlists
  obtain ⟨e, he, hide, -⟩ := grows_run began before later j e₀ he₀
  obtain ⟨e', he', hide', -⟩ := lists_le hylists
  have hsame : (run began (before ++ later)).table.ids[j]? =
      (run began (before ++ later)).table.ids[i]? := by
    rw [TaskTable.ids, List.getElem?_map, List.getElem?_map, he, he', Option.map_some,
      Option.map_some, hide, hid₀, hide']
    exact congrArg some hid
  have hj : j < (run began (before ++ later)).table.ids.length := by
    rw [TaskTable.length_ids]
    exact (List.getElem?_eq_some_iff.mp he).1
  obtain rfl : j = i := (List.getElem?_inj hj (nodup_ids hfew)).mp hsame
  refine (runtime_le_of_later hxlists (fun z hz => ?_) hylists).2
  obtain ⟨q₀, hq₀, -⟩ := hz
  rw [List.getElem?_eq_none hr'] at hq₀
  cases hq₀

/-! ### Totals -/

namespace Survey

variable {q : Survey}

/-- All that a snapshot with its total has listed is at most the total. -/
structure Bounded (q : Survey) : Prop where
  closed : q.total ≠ none → q.seen = q.extent ∧ q.alive = false
  le_total : ∀ total, q.total = some total → ∀ j x, (j, x) ∈ q.listed → x.runtime ≤ total

theorem Bounded.of_open (h : q.total = none) : q.Bounded :=
  ⟨fun htotal => absurd h htotal, fun _ htotal => nomatch h.symm.trans htotal⟩

/-- A snapshot that has its total goes on to no entry. -/
theorem Bounded.look (h : q.Bounded) (t : TaskTable) : (q.look t).Bounded := by
  by_cases htotal : q.total = none
  · exact .of_open ((q.look_keeps t).2.trans htotal)
  · rwa [Survey.look, if_neg fun hnext => Nat.ne_of_lt hnext.1 (h.closed htotal).1]

theorem Bounded.note (h : q.Bounded) (t : TaskTable) : (q.note t).Bounded := by
  by_cases htotal : q.total = none
  · exact .of_open ((q.total_note t).trans htotal)
  · rwa [Survey.note, (h.closed htotal).2]

/-- The total bounds the figures when it does so at the moment at which it is read. -/
theorem Bounded.close (h : q.Bounded) (began now : Instant)
    (hbound : ∀ j x, (j, x) ∈ q.listed → x.runtime ≤ elapsed began now) :
    (q.close began now).Bounded := by
  unfold Survey.close
  split
  · next hdone =>
    refine ⟨fun _ => ⟨hdone.1, hdone.2.1⟩, fun total htotal => ?_⟩
    obtain rfl : elapsed began now = total := Option.some.inj htotal
    exact hbound
  · exact h

end Survey

/-- No runtime exceeds the total that is read after it. -/
theorem bounded (hclock : Nondecreasing (heard began moves)) {q : Survey}
    (hq : (run began moves).surveys[r]? = some q) : q.Bounded := by
  -- by the moves: only the reading of the total is not kept by the snapshot alone
  induction moves using List.reverseRecOn generalizing q with
  | nil => cases hq
  | append_singleton moves m ih =>
    rw [heard_concat] at hclock
    have hearlier : Nondecreasing (heard began moves) :=
      hclock.sublist (List.sublist_append_left _ _)
    rw [run_concat] at hq
    rcases step_surveys hq with hold | rfl | ⟨q₀, hold, rfl | rfl | ⟨now, hnow, rfl⟩⟩
    · exact ih hearlier hold
    · exact .of_open rfl
    · exact (ih hearlier hold).look _
    · exact (ih hearlier hold).note _
    · -- what is listed has been folded in before this reading of the clock
      refine (ih hearlier hold).close _ _ fun j x hx => ?_
      obtain ⟨e, he, -, hruntime⟩ := lists_le ⟨q₀, hold, hx⟩
      obtain ⟨w, hw, rfl⟩ := exists_worker he
      rw [hnow] at hclock
      rw [began_run]
      exact Nat.le_trans hruntime
        (Nat.div_le_div_right ((fair began moves w (List.mem_of_getElem? hw)).busy_le hclock))

/-! ### All of it -/

/-- **A task's time is accounted for.** In every course of moves, on every clock that does not go
back:

* after any calls of a task, its counter is the time from its beginning to its last fold, without
  the calls that were over before, from their own checkpoint to the reading after them;
* so it is for every task of the table, whose readings are some of those of the course, in order;
* no snapshot lists a runtime above its total;
* a snapshot that reads the figures of an entry after another one has read them reads the same
  identity and no smaller runtime, whatever else the two do at the same time;
* the task with the same identity in a snapshot that begins later has no smaller runtime;
* a snapshot that nothing interrupts is that of the table. -/
theorem runtimes_accounted (began : Instant) (before later : List Move)
    (hclock : Nondecreasing (heard began (before ++ later))) :
    let s := run began before
    let s' := run began (before ++ later)
    (∀ (entered : Instant) (calls : List BusyClock.Call), Nondecreasing (timeline entered calls) →
      (((BusyClock.start entered).after calls).busy : ℤ) =
        lastFold entered calls - entered - (calls.dropLast.map BusyClock.Call.away).sum) ∧
    (∀ w ∈ s'.workers,
      (timeline w.entered w.history).Sublist (heard began (before ++ later)) ∧
      w.entry.clock = (BusyClock.start w.entered).after w.history ∧
      (w.entry.clock.busy : ℤ) =
        lastFold w.entered w.history - w.entered -
          (w.history.dropLast.map BusyClock.Call.away).sum) ∧
    (∀ q ∈ s'.surveys, ∀ snapshot, q.snapshot? = some snapshot →
      ∀ x ∈ snapshot.tasks, x.runtime ≤ snapshot.total) ∧
    (∀ r r' j x y, s.Lists r j x → (∀ z, ¬ s.Lists r' j z) → s'.Lists r' j y →
      x.id = y.id ∧ x.runtime ≤ y.runtime) ∧
    (draws (before ++ later) < 2 ^ 32 →
      ∀ q ∈ s.surveys, ∀ r' ≥ s.surveys.length, ∀ q', s'.surveys[r']? = some q' →
        ∀ earlier snapshot, q.snapshot? = some earlier → q'.snapshot? = some snapshot →
          ∀ x ∈ earlier.tasks, ∀ y ∈ snapshot.tasks, x.id = y.id → x.runtime ≤ y.runtime) ∧
    ∀ now, ∃ q : Survey,
      (s'.surveyMoves now).foldl step s' = { s' with surveys := s'.surveys ++ [q] } ∧
        q.snapshot? = some (s'.table.snapshot (elapsed s'.began now)) := by
  intro s s'
  refine ⟨fun _ _ => BusyClock.busy_after, fun w hw => ?_, fun q hq snapshot hsnapshot x hx => ?_,
    fun _ _ _ _ _ => runtime_le_of_later, ?_, s'.surveyMoves_eq⟩
  · have hfair := fair began (before ++ later) w hw
    have hsub : (timeline w.entered w.history).Sublist (heard began (before ++ later)) :=
      .trans ((List.sublist_append_left _ _).cons began) hfair.heard
    refine ⟨hsub, hfair.clock, ?_⟩
    rw [hfair.clock]
    exact BusyClock.busy_after (hclock.sublist hsub)
  · obtain ⟨r, hr⟩ := List.mem_iff_getElem?.mp hq
    obtain ⟨total, htotal, rfl⟩ := Option.map_eq_some_iff.mp hsnapshot
    obtain ⟨⟨j, x⟩, hxq, rfl⟩ := List.mem_map.mp hx
    exact (bounded hclock hr).le_total total htotal j x hxq
  · intro hfew q hq r' hr' q' hq' earlier snapshot hearlier hsnapshot x hx y hy
    obtain ⟨_, -, rfl⟩ := Option.map_eq_some_iff.mp hearlier
    obtain ⟨_, -, rfl⟩ := Option.map_eq_some_iff.mp hsnapshot
    exact runtime_le_of_id_eq hfew hq hr' hq' hx hy

/-- A task begins and goes into a call that may block; a snapshot sees it there. -/
def leaving : List Move :=
  [.draw, .enlist 0 "Sensor" 4 262144 1000, .task 0 (.enter 2000), .task 0 (.leave 5000),
    .task 0 .fold, .survey, .look 0, .note 0, .close 0 7000]

/-- The task is back, and folds its time in while another snapshot is looking at it. -/
def returning : List Move :=
  [.task 0 (.back 9000), .survey, .task 0 (.checkpoint 12500), .look 1, .task 0 .fold, .note 1,
    .close 1 12500]

theorem runtimes_accounted_returning :
    Nondecreasing (heard 0 (leaving ++ returning)) ∧
    draws (leaving ++ returning) < 2 ^ 32 ∧
    ∃ (w : Worker) (q q' : Survey) (a b : TaskStatus),
      (run 0 (leaving ++ returning)).workers = [w] ∧
      w.history = [.block 5000 9000, .checkpoint 12500] ∧
      (w.entry.clock.busy : ℤ) = 12500 - 2000 - (9000 - 5000) ∧
      (run 0 leaving).surveys = [q] ∧
      (run 0 (leaving ++ returning)).surveys = [q, q'] ∧
      q.snapshot? = some ⟨[a], 7⟩ ∧ q'.snapshot? = some ⟨[b], 12⟩ ∧ a.id = b.id ∧
      b.runtime ≤ 12 ∧ a.runtime ≤ b.runtime := by
  have hclock : Nondecreasing (heard 0 (leaving ++ returning)) := by
    show ([0, 1000, 2000, 5000, 7000, 9000, 12500, 12500] : List ℤ).Pairwise (· ≤ ·)
    decide
  have hfew : draws (leaving ++ returning) < 2 ^ 32 := by decide
  obtain ⟨-, hcounter, hbound, -, hlater, -⟩ := runtimes_accounted 0 leaving returning hclock
  refine ⟨hclock, hfew, _, _, _, _, _, rfl, rfl, ?_, rfl, rfl, rfl, rfl, rfl, ?_, ?_⟩
  · rw [(hcounter _ (List.mem_singleton_self _)).2.2]
    rfl
  · exact hbound _ (List.mem_cons_of_mem _ (List.mem_singleton_self _)) _ rfl _
      (List.mem_singleton_self _)
  · exact hlater hfew _ (List.mem_singleton_self _) 1 (le_refl 1) _ rfl _ _ rfl rfl _
      (List.mem_singleton_self _) _ (List.mem_singleton_self _) rfl

end Timesheet

end Telemetry
