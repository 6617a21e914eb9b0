/-
A table of tasks that account for their time, with the snapshots of it, all under way at once.

Any number of tasks are under way, each between two of its steps: a task reads the clock before it
folds its time in, and it may be in a call that blocks. Any number of snapshots are under way as
well, each between two entries: a snapshot sees that a task is alive before it reads its figures,
and reads the clock for the total when it has gone through all entries. One move is one step of
one of them.

* `Worker`, `Worker.step`, `Worker.Did` — a task with what it has done so far, and what a step does;
* `Survey` — a snapshot under way;
* `Timesheet`, `Timesheet.step`, `Timesheet.run` — all of them, and the moves;
* `Timesheet.step_workers`, `Timesheet.step_surveys` — what a move makes of a task or a snapshot;
* `Worker.checkpoint_whole`, `Worker.block_whole`, `Timesheet.spawnMoves_table`,
  `Timesheet.surveyMoves_eq` — calls, spawns and snapshots that nothing interrupts are those of the
  table.

Design notes: a task is its entry, which stays in its place, and not its identity, so nothing here
depends on how many tasks there are. A move that does not apply changes nothing. That a snapshot
goes through the entries there were when it began, and that a task may end at any moment, allows
more than can happen.
-/
import Telemetry.Proofs.Task.Busy
import Telemetry.Task.Table

namespace Telemetry

open BusyClock (Nondecreasing timeline lastFold)

namespace Timesheet

/-! ### Tasks -/

/-- What the thread of a task is doing: it has not begun; it runs; it has read the clock and is
about to fold its time in, perhaps to leave for a call that may block; it is in such a call, begun
at `before`; it is over, or was never created. -/
inductive Doing where
  | waiting
  | working
  | folding (now : Instant) (leaving : Bool)
  | away (before : Instant)
  | over
deriving DecidableEq

/-- The reading that a task has in hand. -/
@[simp]
def Doing.inHand : Doing → List Instant
  | .folding now _ => [now]
  | _ => []

/-- The checkpoint of a call that has not returned. -/
@[simp]
def Doing.begun : Doing → List BusyClock.Call
  | .away before => [.checkpoint before]
  | _ => []

/-- A task: its entry in the table, when it began, the calls that have returned, and what it is
doing. -/
structure Worker where
  entry : TaskEntry
  entered : Instant
  calls : List BusyClock.Call := []
  doing : Doing := .waiting

/-- One step of a task. -/
inductive Deed where
  | enter (now : Instant)
  | checkpoint (now : Instant)
  | leave (now : Instant)
  | fold
  | back (now : Instant)
  | probe (depth : ℕ)
  | finish

/-- The reading of the clock in a step. -/
def Deed.reading? : Deed → Option Instant
  | .enter now | .checkpoint now | .leave now | .back now => some now
  | .fold | .probe _ | .finish => none

namespace Worker

/-- The calls so far, with the one that has not returned. -/
def history (w : Worker) : List BusyClock.Call := w.calls ++ w.doing.begun

/-- The readings so far, from the beginning of the table on. -/
def readings (began : Instant) (w : Worker) : List Instant :=
  began :: (timeline w.entered w.history ++ w.doing.inHand)

/-- A task after one step. -/
def step (w : Worker) (d : Deed) : Worker :=
  match w.doing, d with
  | .waiting, .enter now =>
    { w with
      entry := { w.entry with clock := w.entry.clock.resume now }, entered := now,
      doing := .working }
  | .working, .checkpoint now => { w with doing := .folding now false }
  | .working, .leave now => { w with doing := .folding now true }
  | .folding now true, .fold =>
    { w with
      entry := { w.entry with clock := w.entry.clock.checkpoint now }, doing := .away now }
  | .folding now false, .fold =>
    { w with
      entry := { w.entry with clock := w.entry.clock.checkpoint now },
      calls := w.calls ++ [.checkpoint now], doing := .working }
  | .away before, .back now =>
    { w with
      entry := { w.entry with clock := w.entry.clock.resume now },
      calls := w.calls ++ [.block before now], doing := .working }
  | _, .probe depth => { w with entry := w.entry.probe depth }
  | _, .finish =>
    { w with entry := { w.entry with alive := false }, calls := w.history, doing := .over }
  | _, _ => w

/-- What a step does to a task: it begins; it reads the clock for a checkpoint; it folds in what
it has read, and stays or leaves; it is back from a call; its stack is probed; it ends; nothing. -/
inductive Did : Worker → Deed → Worker → Prop
  | enter (w : Worker) (now : Instant) (h : w.doing = .waiting) :
      Did w (.enter now) { w with
        entry := { w.entry with clock := w.entry.clock.resume now }, entered := now,
        doing := .working }
  | read (w : Worker) (d : Deed) (now : Instant) (leaving : Bool) (h : w.doing = .working)
      (hd : d.reading? = some now) : Did w d { w with doing := .folding now leaving }
  | stay (w : Worker) (now : Instant) (h : w.doing = .folding now false) :
      Did w .fold { w with
        entry := { w.entry with clock := w.entry.clock.checkpoint now },
        calls := w.calls ++ [.checkpoint now], doing := .working }
  | leave (w : Worker) (now : Instant) (h : w.doing = .folding now true) :
      Did w .fold { w with
        entry := { w.entry with clock := w.entry.clock.checkpoint now }, doing := .away now }
  | back (w : Worker) (before now : Instant) (h : w.doing = .away before) :
      Did w (.back now) { w with
        entry := { w.entry with clock := w.entry.clock.resume now },
        calls := w.calls ++ [.block before now], doing := .working }
  | probe (w : Worker) (depth : ℕ) : Did w (.probe depth) { w with entry := w.entry.probe depth }
  | finish (w : Worker) :
      Did w .finish { w with
        entry := { w.entry with alive := false }, calls := w.history, doing := .over }
  | idle (w : Worker) (d : Deed) : Did w d w

theorem did_step (w : Worker) (d : Deed) : w.Did d (w.step d) := by
  unfold step
  split
  · next h => exact .enter w _ h
  · next h => exact .read w _ _ _ h rfl
  · next h => exact .read w _ _ _ h rfl
  · next h => exact .leave w _ h
  · next h => exact .stay w _ h
  · next h => exact .back w _ _ h
  · exact .probe w _
  · exact .finish w
  · exact .idle w _

/-- A task may end whatever it is doing. -/
theorem step_finish (w : Worker) : w.step .finish =
    { w with entry := { w.entry with alive := false }, calls := w.history, doing := .over } := by
  obtain ⟨entry, entered, calls, doing⟩ := w
  cases doing with
  | folding now leaving => cases leaving <;> rfl
  | _ => rfl

/-- A checkpoint that nothing interrupts. -/
theorem checkpoint_whole {w : Worker} (h : w.doing = .working) (now : Instant) :
    (w.step (.checkpoint now)).step .fold = { w with
      entry := { w.entry with clock := w.entry.clock.checkpoint now },
      calls := w.calls ++ [.checkpoint now] } := by
  obtain ⟨entry, entered, calls, doing⟩ := w
  obtain rfl : doing = .working := h
  rfl

/-- A call that may block, when nothing interrupts it. -/
theorem block_whole {w : Worker} (h : w.doing = .working) (before after : Instant) :
    ((w.step (.leave before)).step .fold).step (.back after) = { w with
      entry := { w.entry with clock := w.entry.clock.block before after },
      calls := w.calls ++ [.block before after] } := by
  obtain ⟨entry, entered, calls, doing⟩ := w
  obtain rfl : doing = .working := h
  rfl

end Worker

/-! ### Snapshots -/

/-- A snapshot under way: how many entries there were when it began, how many of them it has gone
through, whether it has seen that the next one is alive, the figures it has read, each with the
place of its entry, and the total. -/
structure Survey where
  extent : ℕ
  seen : ℕ := 0
  alive : Bool := false
  listed : List (ℕ × TaskStatus) := []
  total : Option ℕ := none

/-- Whole microseconds from the beginning. -/
def elapsed (began now : Instant) : ℕ := (now - began).toNat / 1000

namespace Survey

/-- Sees whether the next entry is alive, and goes on when it is not. -/
def look (q : Survey) (t : TaskTable) : Survey :=
  if q.seen < q.extent ∧ q.alive = false then
    match t.entries[q.seen]? with
    | some e => if e.alive then { q with alive := true } else { q with seen := q.seen + 1 }
    | none => q
  else q

/-- Reads the figures of an entry that was seen alive. -/
def note (q : Survey) (t : TaskTable) : Survey :=
  if q.alive then
    match t.entries[q.seen]? with
    | some e =>
      { q with seen := q.seen + 1, alive := false, listed := q.listed ++ [(q.seen, e.status)] }
    | none => q
  else q

/-- Reads the total, when all entries have been gone through. -/
def close (q : Survey) (began now : Instant) : Survey :=
  if q.seen = q.extent ∧ q.alive = false ∧ q.total = none then
    { q with total := some (elapsed began now) }
  else q

/-- The snapshot, when it is complete. -/
def snapshot? (q : Survey) : Option Snapshot := q.total.map fun total => ⟨q.listed.map (·.2), total⟩

variable {q : Survey} {t : TaskTable} {j : ℕ} {x : TaskStatus}

/-- Looking at an entry reads neither figures nor the total. -/
theorem look_keeps (q : Survey) (t : TaskTable) :
    (q.look t).listed = q.listed ∧ (q.look t).total = q.total := by
  unfold look
  split
  · split
    · split <;> exact ⟨rfl, rfl⟩
    · exact ⟨rfl, rfl⟩
  · exact ⟨rfl, rfl⟩

/-- Figures that are read are those of the next entry. -/
theorem note_cases (q : Survey) (t : TaskTable) :
    q.note t = q ∨ ∃ e, t.entries[q.seen]? = some e ∧ q.note t = { q with
      seen := q.seen + 1, alive := false, listed := q.listed ++ [(q.seen, e.status)] } := by
  unfold note
  split
  · split
    · next e he => exact .inr ⟨e, he, rfl⟩
    · exact .inl rfl
  · exact .inl rfl

/-- What is listed was listed before, or has just been read. -/
theorem mem_listed_note (h : (j, x) ∈ (q.note t).listed) :
    (j, x) ∈ q.listed ∨ ∃ e, t.entries[j]? = some e ∧ x = e.status := by
  rcases q.note_cases t with heq | ⟨e, he, heq⟩ <;> rw [heq] at h
  · exact .inl h
  · rcases List.mem_append.mp h with h | h
    · exact .inl h
    · obtain ⟨rfl, rfl⟩ := Prod.mk.inj (List.mem_singleton.mp h)
      exact .inr ⟨e, he, rfl⟩

theorem total_note (q : Survey) (t : TaskTable) : (q.note t).total = q.total := by
  rcases q.note_cases t with heq | ⟨e, -, heq⟩ <;> rw [heq]

theorem listed_close (q : Survey) (began now : Instant) :
    (q.close began now).listed = q.listed := by
  unfold close
  split <;> rfl

/-- Looking at an entry and reading its figures when it is alive. -/
theorem note_look {e : TaskEntry} (hseen : q.seen < q.extent) (halive : q.alive = false)
    (he : t.entries[q.seen]? = some e) :
    (q.look t).note t = { q with
      seen := q.seen + 1
      listed := q.listed ++ if e.alive then [(q.seen, e.status)] else [] } := by
  obtain ⟨extent, seen, alive, listed, total⟩ := q
  obtain rfl : alive = false := halive
  have hseen : seen < extent := hseen
  have he : t.entries[seen]? = some e := he
  cases hdead : e.alive <;> simp [look, note, hseen, he, hdead]

end Survey

/-! ### The moves -/

/-- One step of a spawn, of a task or of a snapshot. -/
inductive Move where
  | draw
  | enlist (i : ℕ) (name : String) (priority : UInt8) (stackSize : ℕ) (now : Instant)
  | task (j : ℕ) (d : Deed)
  | survey
  | look (r : ℕ)
  | note (r : ℕ)
  | close (r : ℕ) (now : Instant)

/-- The reading of the clock in a move. -/
def Move.reading? : Move → Option Instant
  | .enlist _ _ _ _ now | .close _ now => some now
  | .task _ d => d.reading?
  | .draw | .survey | .look _ | .note _ => none

end Timesheet

/-- When the table was made, the next identity, the identities drawn that have no entry yet, the
tasks in the order of their entries, and the snapshots in the order in which they began. -/
structure Timesheet where
  began : Instant
  nextId : UInt32 := TaskTable.empty.nextId
  drawn : List TaskId := []
  workers : List Timesheet.Worker := []
  surveys : List Timesheet.Survey := []

namespace Timesheet

/-- The table of the tasks. -/
def table (s : Timesheet) : TaskTable := ⟨s.nextId, s.workers.map (·.entry)⟩

/-- One move. -/
def step (s : Timesheet) : Move → Timesheet
  | .draw => { s with nextId := s.table.draw.2.nextId, drawn := s.drawn ++ [s.table.draw.1] }
  | .enlist i name priority stackSize now =>
    match s.drawn[i]? with
    | some id =>
      { s with
        drawn := s.drawn.eraseIdx i
        workers := s.workers ++
          [{ entry := TaskEntry.create id name priority stackSize now, entered := now }] }
    | none => s
  | .task j d => { s with workers := s.workers.modify j (·.step d) }
  | .survey => { s with surveys := s.surveys ++ [{ extent := s.workers.length }] }
  | .look r => { s with surveys := s.surveys.modify r (·.look s.table) }
  | .note r => { s with surveys := s.surveys.modify r (·.note s.table) }
  | .close r now => { s with surveys := s.surveys.modify r (·.close s.began now) }

/-- The moves one after the other, on a table made at `began`. -/
def run (began : Instant) (moves : List Move) : Timesheet := moves.foldl step { began }

/-- The readings of the clock in a course of moves, from the making of the table on. -/
def heard (began : Instant) (moves : List Move) : List Instant :=
  began :: moves.filterMap Move.reading?

/-- A snapshot has read the figures `x` of the task at place `j`. -/
def Lists (s : Timesheet) (r j : ℕ) (x : TaskStatus) : Prop :=
  ∃ q, s.surveys[r]? = some q ∧ (j, x) ∈ q.listed

variable {began : Instant} {s : Timesheet} {m : Move} {moves before later : List Move} {r j : ℕ}
  {x y : TaskStatus}

/-- Of a list with one member changed, a member was there before, or is the one that changed. -/
theorem getElem?_modify_cases {α : Type} {l : List α} {f : α → α} {i j : ℕ} {a' : α}
    (h : (l.modify i f)[j]? = some a') :
    l[j]? = some a' ∨ ∃ a, l[j]? = some a ∧ i = j ∧ a' = f a := by
  rw [List.getElem?_modify] at h
  obtain ⟨a, ha, rfl⟩ := Option.map_eq_some_iff.mp h
  by_cases hij : i = j
  · exact .inr ⟨a, ha, hij, if_pos hij⟩
  · exact .inl (by rw [ha, if_neg hij])

theorem getElem?_entries (s : Timesheet) (j : ℕ) :
    s.table.entries[j]? = s.workers[j]?.map (·.entry) := List.getElem?_map

/-- Every entry is that of a task. -/
theorem exists_worker {e : TaskEntry} (he : s.table.entries[j]? = some e) :
    ∃ w, s.workers[j]? = some w ∧ w.entry = e :=
  Option.map_eq_some_iff.mp ((s.getElem?_entries j).symm.trans he)

theorem run_concat (began : Instant) (moves : List Move) (m : Move) :
    run began (moves ++ [m]) = (run began moves).step m := by
  rw [run, List.foldl_append]
  rfl

theorem heard_concat (began : Instant) (moves : List Move) (m : Move) :
    heard began (moves ++ [m]) = heard began moves ++ m.reading?.toList := by
  have hlast : [m].filterMap Move.reading? = m.reading?.toList := by
    rw [List.filterMap_cons]
    cases m.reading? <;> rfl
  rw [heard, List.filterMap_append, hlast]
  rfl

@[simp]
theorem began_step (s : Timesheet) (m : Move) : (s.step m).began = s.began := by
  cases m with
  | enlist i name priority stackSize now =>
    rw [step]
    split <;> rfl
  | _ => rfl

@[simp]
theorem began_run (began : Instant) (moves : List Move) : (run began moves).began = began := by
  induction moves using List.reverseRecOn with
  | nil => rfl
  | append_singleton moves m ih => rw [run_concat, began_step, ih]

/-- What a move makes of a task: a new one, or one that was there, after a step or as it was. -/
theorem step_workers {w' : Worker} (hw : w' ∈ (s.step m).workers) :
    (∃ id name priority stackSize now, m.reading? = some now ∧
      w' = { entry := TaskEntry.create id name priority stackSize now, entered := now }) ∨
    (∃ w ∈ s.workers, ∃ j d, m = .task j d ∧ w' = w.step d) ∨ w' ∈ s.workers := by
  cases m with
  | enlist i name priority stackSize now =>
    rw [step] at hw
    split at hw
    · next id _ =>
      rcases List.mem_append.mp hw with hw | hw
      · exact .inr (.inr hw)
      · exact .inl ⟨id, name, priority, stackSize, now, rfl, List.mem_singleton.mp hw⟩
    · exact .inr (.inr hw)
  | task j d =>
    obtain ⟨i, hi⟩ := List.mem_iff_getElem?.mp hw
    rcases getElem?_modify_cases hi with hi | ⟨w, hget, -, rfl⟩
    · exact .inr (.inr (List.mem_of_getElem? hi))
    · exact .inr (.inl ⟨w, List.mem_of_getElem? hget, j, d, rfl, rfl⟩)
  | _ => exact .inr (.inr hw)

/-- What a move makes of a snapshot: nothing; it has begun; it has looked at an entry, read its
figures, or read the total. -/
theorem step_surveys {q' : Survey} (hq : (s.step m).surveys[r]? = some q') :
    s.surveys[r]? = some q' ∨ q' = { extent := s.workers.length } ∨
    ∃ q, s.surveys[r]? = some q ∧
      (q' = q.look s.table ∨ q' = q.note s.table ∨
        ∃ now, m.reading? = some now ∧ q' = q.close s.began now) := by
  cases m with
  | enlist i name priority stackSize now =>
    rw [step] at hq
    split at hq <;> exact .inl hq
  | survey =>
    rw [step, List.getElem?_append] at hq
    split at hq
    · exact .inl hq
    · exact .inr (.inl (List.mem_singleton.mp (List.mem_of_getElem? hq)))
  | look r' =>
    rcases getElem?_modify_cases hq with hq | ⟨q, hget, -, rfl⟩
    · exact .inl hq
    · exact .inr (.inr ⟨q, hget, .inl rfl⟩)
  | note r' =>
    rcases getElem?_modify_cases hq with hq | ⟨q, hget, -, rfl⟩
    · exact .inl hq
    · exact .inr (.inr ⟨q, hget, .inr (.inl rfl)⟩)
  | close r' now =>
    rcases getElem?_modify_cases hq with hq | ⟨q, hget, -, rfl⟩
    · exact .inl hq
    · exact .inr (.inr ⟨q, hget, .inr (.inr ⟨now, rfl, rfl⟩)⟩)
  | _ => exact .inl hq

/-! ### Spawns and snapshots that nothing interrupts -/

/-- With distinct identities, a task that ends is retired from the table. -/
theorem table_finish {e : TaskEntry} (he : s.table.entries[j]? = some e)
    (hids : (s.table.entries.map (·.id)).Nodup) :
    (s.step (.task j .finish)).table = s.table.retire e.id := by
  refine congrArg (TaskTable.mk s.nextId) (List.ext_getElem? fun i => ?_)
  have hj : j < (s.table.entries.map (·.id)).length := by
    rw [List.length_map]
    exact (List.getElem?_eq_some_iff.mp he).1
  show (s.step (.task j .finish)).table.entries[i]? = _
  rw [List.getElem?_map, getElem?_entries, getElem?_entries, step, List.getElem?_modify]
  rcases hw : s.workers[i]? with _ | w
  · rfl
  have hi : s.table.entries[i]? = some w.entry := by
    rw [getElem?_entries, hw]
    rfl
  by_cases hij : j = i
  · subst hij
    obtain rfl : e = w.entry := Option.some.inj (he.symm.trans hi)
    simp [Worker.step_finish]
  · -- another entry has another identity
    have hid : w.entry.id ≠ e.id := by
      intro hid
      refine hij ((List.getElem?_inj hj hids).mp ?_)
      rw [List.getElem?_map, List.getElem?_map, he, hi, Option.map_some, Option.map_some, hid]
    simp [hij, hid]

/-- The moves of a spawn from beginning to end, as far as it gets. -/
def spawnMoves (s : Timesheet) (name : String) (priority : UInt8) (stackSize : ℕ) (now : Instant) :
    List Move :=
  .draw :: .enlist s.drawn.length name priority stackSize now ::
    match TaskTable.startFault? name stackSize with
    | some .refused => [.task s.workers.length .finish]
    | _ => []

/-- A spawn that nothing interrupts is one step of the table. -/
theorem spawnMoves_table (s : Timesheet) (name : String) (priority : UInt8) (stackSize : ℕ)
    (now : Instant) (hids : (s.table.entries.map (·.id) ++ [s.table.draw.1]).Nodup) :
    ((s.spawnMoves name priority stackSize now).foldl step s).table =
      (s.table.spawn name priority stackSize now).state := by
  have henlisted : ((s.step .draw).step
      (.enlist s.drawn.length name priority stackSize now)).table =
        s.table.draw.2.enlist
          (TaskEntry.create s.table.draw.1 name priority stackSize now) := by
    simp [step, table, TaskTable.draw, TaskTable.enlist]
  rw [spawnMoves, TaskTable.spawn, List.foldl_cons, List.foldl_cons]
  rcases hfault : TaskTable.startFault? name stackSize with _ | (_ | _)
  · exact henlisted
  · exact henlisted
  · -- the refused task has the last entry
    dsimp only
    rw [List.foldl_cons, List.foldl_nil, ← henlisted]
    refine table_finish (e := TaskEntry.create s.table.draw.1 name priority stackSize now) ?_ ?_
    · have hlength : s.workers.length = s.table.entries.length := (List.length_map _).symm
      rw [henlisted, hlength]
      exact List.getElem?_concat_length
    · rw [henlisted, TaskTable.enlist, List.map_append]
      exact hids

/-- What a snapshot lists of some entries. -/
def listing (entries : List TaskEntry) : List (ℕ × TaskStatus) :=
  (entries.zipIdx.filter (·.1.alive)).map fun p => (p.2, p.1.status)

theorem listing_concat (entries : List TaskEntry) (e : TaskEntry) :
    listing (entries ++ [e]) =
      listing entries ++ if e.alive then [(entries.length, e.status)] else [] := by
  rw [listing, listing, List.zipIdx_append, List.filter_append, List.map_append]
  cases h : e.alive <;> simp [h]

/-- The figures alone are those of the live entries. -/
theorem map_snd_listing (entries : List TaskEntry) :
    (listing entries).map (·.2) = (entries.filter (·.alive)).map (·.status) := by
  induction entries using List.reverseRecOn with
  | nil => rfl
  | append_singleton entries e ih =>
    rw [listing_concat, List.map_append, ih, List.filter_append, List.map_append]
    cases h : e.alive <;> simp [h]

/-- The moves of a snapshot from beginning to end. -/
def surveyMoves (s : Timesheet) (now : Instant) : List Move :=
  .survey :: (List.replicate s.workers.length
    [.look s.surveys.length, .note s.surveys.length]).flatten ++ [.close s.surveys.length now]

/-- The youngest snapshot goes on. -/
theorem modify_last {front : List Survey} (q : Survey) (f : Survey → Survey) :
    (front ++ [q]).modify front.length f = front ++ [f q] :=
  List.modifyTailIdx_add (List.modifyHead f) 0 front [q]

/-- A snapshot that nothing interrupts is that of the table. -/
theorem surveyMoves_eq (s : Timesheet) (now : Instant) :
    ∃ q : Survey, (s.surveyMoves now).foldl step s = { s with surveys := s.surveys ++ [q] } ∧
      q.snapshot? = some (s.table.snapshot (elapsed s.began now)) := by
  -- after `n` entries it has listed those of them that are alive
  have hwalk : ∀ n ≤ s.workers.length,
      ((List.replicate n [Move.look s.surveys.length, .note s.surveys.length]).flatten).foldl step
        (s.step .survey) = { s with
          surveys := s.surveys ++ [{
            extent := s.workers.length
            seen := n
            listed := listing (s.table.entries.take n) }] } := by
    intro n
    induction n with
    | zero => exact fun _ => rfl
    | succ n ih =>
      intro hn
      obtain ⟨e, he⟩ : ∃ e, s.table.entries[n]? = some e := by
        rw [getElem?_entries, List.getElem?_eq_getElem hn]
        exact ⟨_, rfl⟩
      have hlength : (s.table.entries.take n).length = n := by
        rw [List.length_take, table, List.length_map]
        exact Nat.min_eq_left (Nat.le_of_lt hn)
      rw [List.replicate_succ', List.flatten_append, List.foldl_append, ih (Nat.le_of_succ_le hn),
        List.take_add_one, he, Option.toList_some, listing_concat, hlength, List.flatten_singleton,
        List.foldl_cons, List.foldl_cons, List.foldl_nil, step, modify_last, step, modify_last]
      have hnote := Survey.note_look
        (q := ⟨s.workers.length, n, false, listing (s.table.entries.take n), none⟩) hn rfl he
      exact congrArg (fun q => { s with surveys := s.surveys ++ [q] }) hnote
  have hall : s.table.entries.take s.workers.length = s.table.entries :=
    List.take_of_length_le (Nat.le_of_eq (List.length_map _))
  refine ⟨⟨s.workers.length, s.workers.length, false, listing s.table.entries,
    some (elapsed s.began now)⟩, ?_, ?_⟩
  · rw [surveyMoves, List.foldl_append, List.foldl_cons, List.foldl_nil, List.foldl_cons,
      hwalk _ (Nat.le_refl _), step, modify_last, hall, Survey.close, if_pos ⟨rfl, rfl, rfl⟩]
  · rw [Survey.snapshot?, Option.map_some, map_snd_listing]
    rfl

end Timesheet

end Telemetry
