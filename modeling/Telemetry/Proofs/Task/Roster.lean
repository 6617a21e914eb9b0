/-
A table of tasks under everything that goes on over it at once.

Any number of spawns are under way, each between two of its steps; tasks end, returning or
panicking; any number of readings of the table are under way, each between two entries. One move
is one step of one of them.

* `Roster`, `Roster.step`, `Roster.run` — the table with its spawns and readings, and the moves;
* `Roster.readWhole_eq` — a reading that nothing interrupts is a snapshot, and counts as the table
  counts;
* `Roster.spawn_whole` — a spawn that nothing interrupts is `TaskTable.spawn`;
* `Roster.Advanced`, `Roster.step_advanced` — what a move leaves of a spawn;
* `Roster.Kept`, `Roster.kept` — identities are those drawn, once each, and an entry is alive as
  long as its spawn is.

Design notes: a count and a snapshot walk over the entries in the same way, and what a count keeps
is the length of what a snapshot keeps. The entries are locked against new ones during a walk but
not against dying, so a reading is not one move; here not even new ones wait for it, and it walks
over those there were when it began. A move that does not apply changes nothing. A spawn whose
name is no thread name panics with its entry made, and never moves again.
-/
import Mathlib.Algebra.GroupWithZero.Nat
import Mathlib.Data.List.Induction
import Mathlib.Data.List.Infix
import Mathlib.Data.List.Nodup
import Mathlib.Data.List.TakeDrop
import Telemetry.Proofs.Monitor.Watch

namespace Telemetry

/-! ### The table -/

namespace TaskTable

variable (t : TaskTable) (id : TaskId)

/-- The identities of the entries. -/
def ids : List TaskId := t.entries.map (·.id)

/-- Whether a task is alive, if the table knows it. -/
def alive? : Option Bool := (t.entries.find? (·.id = id)).map (·.alive)

theorem length_ids : t.ids.length = t.entries.length := List.length_map _

@[simp]
theorem ids_draw : t.draw.2.ids = t.ids := rfl

@[simp]
theorem ids_enlist (e : TaskEntry) : (t.enlist e).ids = t.ids ++ [e.id] := List.map_append

@[simp]
theorem ids_retire : (t.retire id).ids = t.ids := by
  rw [ids, ids, retire, List.map_map]
  exact List.map_congr_left fun e _ => by dsimp only [Function.comp_apply]; split <;> rfl

@[simp]
theorem ids_update (clock : BusyClock) (stackDepth : ℕ) :
    (t.update id clock stackDepth).ids = t.ids := by
  rw [ids, ids, update, List.map_map]
  exact List.map_congr_left fun e _ => by dsimp only [Function.comp_apply]; split <;> rfl

theorem alive?_eq_none_iff : t.alive? id = none ↔ id ∉ t.ids := by
  simp [alive?, ids]

/-- What an entry says of its task, when it is the only one. -/
theorem alive?_of_mem {t : TaskTable} (hids : t.ids.Nodup) {e : TaskEntry} (he : e ∈ t.entries) :
    t.alive? e.id = some e.alive := by
  rcases hfind : t.entries.find? (·.id = e.id) with _ | e'
  · exact absurd (decide_eq_true rfl) (List.find?_eq_none.mp hfind e he)
  · have hid : e'.id = e.id := by simpa using List.find?_some hfind
    have hsame : e' = e := List.inj_on_of_nodup_map hids (List.mem_of_find?_eq_some hfind) he hid
    rw [alive?, hfind, hsame, Option.map_some]

@[simp]
theorem alive?_draw : t.draw.2.alive? id = t.alive? id := rfl

theorem alive?_enlist (e : TaskEntry) :
    (t.enlist e).alive? id = (t.alive? id).or (if e.id = id then some e.alive else none) := by
  rw [alive?, alive?, enlist, List.find?_append]
  cases t.entries.find? (·.id = id) with
  | some e' => rfl
  | none =>
    by_cases he : e.id = id
    · simp [he]
    · simp [he]

theorem alive?_map_entries {f : TaskEntry → TaskEntry} (hf : ∀ e, (f e).id = e.id) :
    ({ t with entries := t.entries.map f } : TaskTable).alive? id =
      (t.entries.find? (·.id = id)).map fun e => (f e).alive := by
  have hkey : ((fun e : TaskEntry => decide (e.id = id)) ∘ f) = fun e => decide (e.id = id) :=
    funext fun e => by rw [Function.comp_apply, hf]
  rw [alive?, List.find?_map, hkey, Option.map_map]
  rfl

@[simp]
theorem alive?_retire_self : (t.retire id).alive? id = (t.alive? id).map fun _ => false := by
  rw [retire, alive?_map_entries _ _ (fun e => by split <;> rfl), alive?, Option.map_map]
  rcases hfind : t.entries.find? (·.id = id) with _ | e <;> rw [hfind]
  · rfl
  · have hid : e.id = id := by simpa using List.find?_some hfind
    simp [hid]

theorem alive?_retire_of_ne {other : TaskId} (hne : id ≠ other) :
    (t.retire other).alive? id = t.alive? id := by
  rw [retire, alive?_map_entries _ _ (fun e => by split <;> rfl), alive?]
  rcases hfind : t.entries.find? (·.id = id) with _ | e <;> rw [hfind]
  · rfl
  · have hid : e.id = id := by simpa using List.find?_some hfind
    simp [hid, hne]

@[simp]
theorem alive?_update (other : TaskId) (clock : BusyClock) (stackDepth : ℕ) :
    (t.update other clock stackDepth).alive? id = t.alive? id := by
  rw [update, alive?_map_entries _ _ (fun e => by split <;> rfl), alive?]
  congr 1
  exact funext fun e => by split <;> rfl

end TaskTable

/-! ### Moves -/

namespace Roster

/-- How far a spawn has come: its identity is drawn; its entry is made; its thread runs; its task
is over; its thread was refused; its entry is marked dead for that. -/
inductive Stage where
  | drawn
  | enlisted
  | running
  | ended (panicked : Bool)
  | refused
  | withdrawn
deriving DecidableEq

/-- Whether the entry of a task is alive, if it has one. -/
def Stage.alive? : Stage → Option Bool
  | .drawn => none
  | .enlisted | .running | .refused => some true
  | .ended _ | .withdrawn => some false

/-- At these stages a thread has been created. -/
def Stage.launched : Stage → Bool
  | .running | .ended _ => true
  | .drawn | .enlisted | .refused | .withdrawn => false

/-- A thread is created for a task that has its entry. -/
theorem Stage.alive?_ne_none_of_launched (g : Stage) (h : g.launched = true) : g.alive? ≠ none := by
  cases g <;> simp_all [launched, alive?]

/-- A call that spawns a task, with what it has returned. -/
structure Spawn where
  id : TaskId
  name : String
  priority : UInt8
  stackSize : ℕ
  stage : Stage := .drawn
  outcome : Option (Except Error TaskId) := none

/-- The task of a spawn is over, in whatever way. -/
def Spawn.Ended (p : Spawn) : Prop := ∃ panicked, p.stage = .ended panicked

/-- What a spawn returns at its stage, if it returns there. -/
def Spawn.result (p : Spawn) : Option (Except Error TaskId) :=
  match p.stage with
  | .running | .ended _ => some (.ok p.id)
  | .withdrawn => some (.error (TaskTable.refusal p.name))
  | .drawn | .enlisted | .refused => none

/-- A walk over the entries there were when it began: how many, how many of them it has seen, and
the figures of those it saw alive. -/
structure Reading where
  extent : ℕ
  seen : ℕ := 0
  listed : List TaskStatus := []

namespace Reading

/-- The identities listed. -/
def ids (q : Reading) : List TaskId := q.listed.map (·.id)

/-- The number of tasks counted. -/
def count (q : Reading) : ℕ := q.listed.length

/-- All entries have been seen. -/
def Complete (q : Reading) : Prop := q.seen = q.extent

/-- The walk after one more entry. -/
def look (q : Reading) (t : TaskTable) : Reading :=
  ⟨q.extent, q.seen + 1,
    q.listed ++ (t.entries[q.seen]?.toList.filter (·.alive)).map (·.status)⟩

end Reading

/-- One step of a spawn, of a task or of a reading. -/
inductive Move where
  | draw (name : String) (priority : UInt8) (stackSize : ℕ)
  | enlist (k : ℕ) (now : Instant)
  | launch (k : ℕ)
  | refuse (k : ℕ)
  | withdraw (k : ℕ)
  | answer (k : ℕ)
  | work (k : ℕ) (clock : BusyClock) (stackDepth : ℕ)
  | finish (k : ℕ) (panicked : Bool)
  | read
  | look (r : ℕ)

/-- No entry is made and no task ends or is withdrawn by the move. -/
def Move.quiet : Move → Bool
  | .enlist .. | .withdraw _ | .finish .. => false
  | _ => true

end Roster

/-- A table of tasks with the spawns from it, in the order of their identities, and the readings
of it, in the order in which they began. -/
structure Roster where
  table : TaskTable := TaskTable.empty
  spawns : List Roster.Spawn := []
  readings : List Roster.Reading := []

namespace Roster

/-- A spawn for which `ok` holds goes on to `p'`, with its effect on the table. -/
def advance (s : Roster) (k : ℕ) (ok : Spawn → Bool) (p' : Spawn → Spawn)
    (effect : Spawn → TaskTable → TaskTable) : Roster :=
  match s.spawns[k]? with
  | some p =>
    if ok p then { s with table := effect p s.table, spawns := s.spawns.set k (p' p) } else s
  | none => s

/-- One move. -/
def step (s : Roster) : Move → Roster
  | .draw name priority stackSize =>
    { s with
      table := s.table.draw.2
      spawns := s.spawns ++ [{ id := s.table.draw.1, name, priority, stackSize }] }
  | .enlist k now =>
    s.advance k (·.stage = .drawn) ({ · with stage := .enlisted }) fun p t =>
      t.enlist (TaskEntry.create p.id p.name p.priority p.stackSize now)
  | .launch k =>
    s.advance k (fun p => p.stage = .enlisted ∧ TaskTable.startFault? p.name p.stackSize = none)
      ({ · with stage := .running }) fun _ t => t
  | .refuse k =>
    s.advance k
      (fun p => p.stage = .enlisted ∧
        TaskTable.startFault? p.name p.stackSize ≠ some .invalidName)
      ({ · with stage := .refused }) fun _ t => t
  | .withdraw k =>
    s.advance k (·.stage = .refused) ({ · with stage := .withdrawn }) fun p t => t.retire p.id
  | .answer k =>
    s.advance k (·.outcome.isNone) (fun p => { p with outcome := p.result }) fun _ t => t
  | .work k clock stackDepth =>
    s.advance k (·.stage = .running) id fun p t => t.update p.id clock stackDepth
  | .finish k panicked =>
    s.advance k (·.stage = .running) ({ · with stage := .ended panicked }) fun p t =>
      t.retire p.id
  | .read => { s with readings := s.readings ++ [{ extent := s.table.entries.length }] }
  | .look r =>
    match s.readings[r]? with
    | some q =>
      if q.seen < q.extent then { s with readings := s.readings.set r (q.look s.table) } else s
    | none => s

/-- The moves one after the other, on an empty table. -/
def run (moves : List Move) : Roster := moves.foldl step {}

/-- The number of spawns that a course of moves begins. -/
def draws (moves : List Move) : ℕ := moves.countP fun | .draw .. => true | _ => false

theorem draws_append_le (before later : List Move) : draws before ≤ draws (before ++ later) := by
  rw [draws, draws, List.countP_append]
  exact Nat.le_add_right _ _

theorem run_append (before later : List Move) :
    run (before ++ later) = later.foldl step (run before) :=
  List.foldl_append

theorem run_concat (moves : List Move) (m : Move) : run (moves ++ [m]) = (run moves).step m := by
  rw [run_append, List.foldl_cons, List.foldl_nil]

/-! ### What a move leaves of a spawn -/

/-- The spawn `p` has gone on to `p'`: once it has an entry it keeps it, and an entry that is dead
stays dead. -/
structure Advanced (p p' : Spawn) : Prop where
  id : p'.id = p.id
  entered : p.stage.alive? ≠ none → p'.stage.alive? ≠ none
  dead : p.stage.alive? = some false → p'.stage.alive? = some false
  launched : p.stage.launched = true → p'.stage.launched = true
  answered : ∀ r, p.outcome = some r → p'.outcome = some r

namespace Advanced

variable {p p' p'' : Spawn}

theorem refl (p : Spawn) : Advanced p p := ⟨rfl, fun h => h, fun h => h, fun h => h, fun _ h => h⟩

theorem trans (h : Advanced p p') (h' : Advanced p' p'') : Advanced p p'' :=
  ⟨h'.id.trans h.id, h'.entered ∘ h.entered, h'.dead ∘ h.dead, h'.launched ∘ h.launched,
    fun r hr => h'.answered r (h.answered r hr)⟩

/-- A spawn goes on to a stage. -/
theorem stage {new : Stage} (hentered : p.stage.alive? ≠ none → new.alive? ≠ none)
    (hdead : p.stage.alive? = some false → new.alive? = some false)
    (hlaunched : p.stage.launched = true → new.launched = true) :
    Advanced p { p with stage := new } :=
  ⟨rfl, hentered, hdead, hlaunched, fun _ h => h⟩

end Advanced

section Moves

variable {s : Roster} {k : ℕ} {ok : Spawn → Bool} {p' : Spawn → Spawn}
  {effect : Spawn → TaskTable → TaskTable}

theorem advance_cases : s.advance k ok p' effect = s ∨
    ∃ p, s.spawns[k]? = some p ∧ ok p = true ∧ s.advance k ok p' effect =
      { s with table := effect p s.table, spawns := s.spawns.set k (p' p) } := by
  unfold advance
  rcases hp : s.spawns[k]? with _ | p
  · exact .inl rfl
  · by_cases hok : ok p = true
    · exact .inr ⟨p, rfl, hok, if_pos hok⟩
    · exact .inl (if_neg hok)

theorem advance_advanced (hadvanced : ∀ p, ok p = true → Advanced p (p' p)) {i : ℕ} {p : Spawn}
    (hp : s.spawns[i]? = some p) :
    ∃ q, (s.advance k ok p' effect).spawns[i]? = some q ∧ Advanced p q := by
  rcases advance_cases (s := s) with heq | ⟨p₀, hp₀, hok, heq⟩ <;> rw [heq]
  · exact ⟨p, hp, .refl p⟩
  · rw [List.getElem?_set]
    by_cases hi : k = i
    · subst hi
      obtain rfl : p₀ = p := Option.some.inj (hp₀.symm.trans hp)
      exact ⟨p' p₀, by simp [(List.getElem?_eq_some_iff.mp hp).1], hadvanced p₀ hok⟩
    · exact ⟨p, by rw [if_neg hi, hp], .refl p⟩

theorem look_cases (s : Roster) (r : ℕ) : s.step (.look r) = s ∨
    ∃ q, s.readings[r]? = some q ∧ q.seen < q.extent ∧
      s.step (.look r) = { s with readings := s.readings.set r (q.look s.table) } := by
  rw [step]
  rcases hq : s.readings[r]? with _ | q
  · exact .inl rfl
  · by_cases hseen : q.seen < q.extent
    · exact .inr ⟨q, rfl, hseen, if_pos hseen⟩
    · exact .inl (if_neg hseen)

/-- The youngest spawn goes on. -/
theorem advance_last {front : List Spawn} {p : Spawn} (hspawns : s.spawns = front ++ [p])
    (hok : ok p = true) : s.advance front.length ok p' effect =
      { s with table := effect p s.table, spawns := front ++ [p' p] } := by
  rw [advance, hspawns, List.getElem?_concat_length]
  dsimp only
  rw [if_pos hok, List.set_append_right _ _ (Nat.le_refl _), Nat.sub_self, List.set_cons_zero]

theorem readings_advance : (s.advance k ok p' effect).readings = s.readings := by
  rcases advance_cases (s := s) with heq | ⟨p, -, -, heq⟩ <;> rw [heq]

theorem ids_advance (heffect : ∀ (p : Spawn) (t : TaskTable), t.ids <+: (effect p t).ids) :
    s.table.ids <+: (s.advance k ok p' effect).table.ids := by
  rcases advance_cases (s := s) with heq | ⟨p, -, -, heq⟩ <;> rw [heq]
  exact heffect p s.table

theorem length_advance : (s.advance k ok p' effect).spawns.length = s.spawns.length := by
  rcases advance_cases (s := s) with heq | ⟨p, -, -, heq⟩ <;> rw [heq]
  exact List.length_set

end Moves

/-- A move takes a spawn on, or leaves it as it is. -/
theorem step_advanced (s : Roster) (m : Move) {k : ℕ} {p : Spawn} (hp : s.spawns[k]? = some p) :
    ∃ p', (s.step m).spawns[k]? = some p' ∧ Advanced p p' := by
  cases m with
  | draw name priority stackSize =>
    exact ⟨p, List.getElem?_append_left (List.getElem?_eq_some_iff.mp hp).1 ▸ hp, .refl p⟩
  | enlist k' now =>
    refine advance_advanced (fun p hok => ?_) hp
    have hstage : p.stage = .drawn := of_decide_eq_true hok
    exact .stage (by simp [Stage.alive?]) (by simp [hstage, Stage.alive?])
      (by simp [hstage, Stage.launched])
  | launch k' =>
    refine advance_advanced (fun p hok => ?_) hp
    have hstage : p.stage = .enlisted := (of_decide_eq_true hok).1
    exact .stage (by simp [Stage.alive?]) (by simp [hstage, Stage.alive?])
      (by simp [Stage.launched])
  | refuse k' =>
    refine advance_advanced (fun p hok => ?_) hp
    have hstage : p.stage = .enlisted := (of_decide_eq_true hok).1
    exact .stage (by simp [Stage.alive?]) (by simp [hstage, Stage.alive?])
      (by simp [hstage, Stage.launched])
  | withdraw k' =>
    refine advance_advanced (fun p hok => ?_) hp
    have hstage : p.stage = .refused := of_decide_eq_true hok
    exact .stage (by simp [Stage.alive?]) (by simp [Stage.alive?])
      (by simp [hstage, Stage.launched])
  | answer k' =>
    refine advance_advanced (fun p hok => ?_) hp
    have hnone : p.outcome = none := Option.isNone_iff_eq_none.mp hok
    exact ⟨rfl, fun h => h, fun h => h, fun h => h, by simp [hnone]⟩
  | work k' clock stackDepth => exact advance_advanced (fun p _ => .refl p) hp
  | finish k' panicked =>
    refine advance_advanced (fun p hok => ?_) hp
    exact .stage (by simp [Stage.alive?]) (by simp [Stage.alive?]) (by simp [Stage.launched])
  | read => exact ⟨p, hp, .refl p⟩
  | look r =>
    refine ⟨p, ?_, .refl p⟩
    rw [step]
    split
    · split <;> exact hp
    · exact hp

/-- Only drawing an identity begins a spawn. -/
theorem length_spawns_step (s : Roster) (m : Move) :
    (s.step m).spawns.length = s.spawns.length + draws [m] := by
  cases m with
  | draw name priority stackSize => exact List.length_append
  | look r =>
    rcases look_cases s r with heq | ⟨q, -, -, heq⟩ <;> rw [heq] <;> rfl
  | read => rfl
  | _ => exact length_advance

theorem run_advanced (before later : List Move) {k : ℕ} {p : Spawn}
    (hp : (run before).spawns[k]? = some p) :
    ∃ p', (run (before ++ later)).spawns[k]? = some p' ∧ Advanced p p' := by
  induction later using List.reverseRecOn with
  | nil => exact ⟨p, by rwa [List.append_nil], .refl p⟩
  | append_singleton later m ih =>
    obtain ⟨p₁, hp₁, hadv₁⟩ := ih
    obtain ⟨p₂, hp₂, hadv₂⟩ := step_advanced _ m hp₁
    exact ⟨p₂, by rwa [← List.append_assoc, run_concat], hadv₁.trans hadv₂⟩

/-- What a move can have done to a reading: nothing; it has begun; it has seen one more entry. -/
theorem step_readings {s : Roster} {m : Move} {r : ℕ} {q : Reading}
    (hq : (s.step m).readings[r]? = some q) :
    s.readings[r]? = some q ∨
    r = s.readings.length ∧ q = { extent := s.table.entries.length } ∨
    ∃ q₀, s.readings[r]? = some q₀ ∧ q₀.seen < q₀.extent ∧ q = q₀.look s.table := by
  cases m with
  | draw name priority stackSize => exact .inl hq
  | read =>
    have happend : (s.step .read).readings =
        s.readings ++ [{ extent := s.table.entries.length }] := rfl
    rw [happend, List.getElem?_append] at hq
    split at hq
    · exact .inl hq
    · next hr =>
      obtain ⟨hlast, hnew⟩ := List.getElem?_eq_some_iff.mp hq
      rw [List.length_singleton] at hlast
      exact .inr (.inl ⟨by omega, hnew.symm.trans (List.getElem_singleton hlast)⟩)
  | look r' =>
    rcases look_cases s r' with heq | ⟨q₀, hq₀, hseen, heq⟩ <;> rw [heq] at hq
    · exact .inl hq
    rw [List.getElem?_set] at hq
    by_cases hr : r' = r
    · subst hr
      rw [if_pos rfl, if_pos (List.getElem?_eq_some_iff.mp hq₀).1] at hq
      exact .inr (.inr ⟨q₀, hq₀, hseen, (Option.some.inj hq).symm⟩)
    · rw [if_neg hr] at hq
      exact .inl hq
  | _ => exact .inl (readings_advance (s := s) ▸ hq)

/-- Entries stay in their places. -/
theorem step_ids (s : Roster) (m : Move) : s.table.ids <+: (s.step m).table.ids := by
  cases m with
  | draw name priority stackSize => exact List.prefix_rfl
  | enlist k now =>
    refine ids_advance fun p t => ?_
    rw [TaskTable.ids_enlist]
    exact List.prefix_append _ _
  | withdraw k => exact ids_advance fun p t => (t.ids_retire p.id).symm ▸ List.prefix_rfl
  | work k clock stackDepth =>
    exact ids_advance fun p t => (t.ids_update p.id clock stackDepth).symm ▸ List.prefix_rfl
  | finish k panicked => exact ids_advance fun p t => (t.ids_retire p.id).symm ▸ List.prefix_rfl
  | read => exact List.prefix_rfl
  | look r =>
    rcases look_cases s r with heq | ⟨q, -, -, heq⟩
    · rw [heq]
    · rw [heq]
  | _ => exact ids_advance fun p t => List.prefix_rfl

theorem run_ids (before later : List Move) :
    (run before).table.ids <+: (run (before ++ later)).table.ids := by
  induction later using List.reverseRecOn with
  | nil => exact (List.append_nil before).symm ▸ List.prefix_rfl
  | append_singleton later m ih =>
    rw [← List.append_assoc, run_concat]
    exact ih.trans (step_ids _ m)

/-! ### Uninterrupted calls -/

/-- A reading from beginning to end. -/
def readWhole (s : Roster) : Roster :=
  (List.replicate s.table.entries.length (.look s.readings.length)).foldl step (s.step .read)

/-- A reading that nothing interrupts is a snapshot. -/
theorem readWhole_eq (s : Roster) (total : ℕ) :
    s.readWhole = { s with
      readings := s.readings ++ [{
        extent := s.table.entries.length
        seen := s.table.entries.length
        listed := (s.table.snapshot total).tasks }] } := by
  -- after `n` looks it is the snapshot of the first `n` entries
  have hlooks : ∀ n ≤ s.table.entries.length,
      (List.replicate n (Move.look s.readings.length)).foldl step (s.step .read) = { s with
        readings := s.readings ++ [{
          extent := s.table.entries.length
          seen := n
          listed := ((s.table.entries.take n).filter (·.alive)).map (·.status) }] } := by
    intro n
    induction n with
    | zero => exact fun _ => rfl
    | succ n ih =>
      intro hn
      rw [List.replicate_succ', List.foldl_append, ih (Nat.le_of_succ_le hn), List.foldl_cons,
        List.foldl_nil, step, List.getElem?_concat_length]
      dsimp only
      rw [if_pos (Nat.lt_of_succ_le hn), Reading.look, List.take_add_one, List.filter_append,
        List.map_append]
      simp
  rw [readWhole, hlooks _ (Nat.le_refl _), List.take_length]
  rfl

/-- The moves of the spawn `k` from beginning to end, as far as it gets. -/
def spawnMoves (k : ℕ) (name : String) (priority : UInt8) (stackSize : ℕ) (now : Instant) :
    List Move :=
  .draw name priority stackSize :: .enlist k now ::
    match TaskTable.startFault? name stackSize with
    | none => [.launch k, .answer k]
    | some .invalidName => []
    | some .refused => [.refuse k, .withdraw k, .answer k]

/-- What a spawn has returned after an outcome; with an invalid name it panics. -/
def outcome? (name : String) : Except StartFault TaskId → Option (Except Error TaskId)
  | .ok id => some (.ok id)
  | .error .refused => some (.error (TaskTable.refusal name))
  | .error .invalidName => none

/-- A spawn that nothing interrupts is one step of the table. -/
theorem spawn_whole (s : Roster) (name : String) (priority : UInt8) (stackSize : ℕ)
    (now : Instant) :
    ∃ p : Spawn,
      (spawnMoves s.spawns.length name priority stackSize now).foldl step s = { s with
        table := (s.table.spawn name priority stackSize now).state
        spawns := s.spawns ++ [p] } ∧
      p.id = s.table.draw.1 ∧
      p.outcome = outcome? name (s.table.spawn name priority stackSize now).answer := by
  rw [spawnMoves, TaskTable.spawn]
  rcases hfault : TaskTable.startFault? name stackSize with _ | (_ | _)
  · refine ⟨⟨s.table.draw.1, name, priority, stackSize, .running, some (.ok s.table.draw.1)⟩, ?_,
      rfl, rfl⟩
    simp [step, advance_last, hfault, Spawn.result]
  · refine ⟨⟨s.table.draw.1, name, priority, stackSize, .enlisted, none⟩, ?_, rfl, rfl⟩
    simp [step, advance_last]
  · refine ⟨⟨s.table.draw.1, name, priority, stackSize, .withdrawn,
      some (.error (TaskTable.refusal name))⟩, ?_, rfl, rfl⟩
    simp [step, advance_last, hfault, Spawn.result]

/-! ### What is kept -/

/-- What a spawn has returned fits how it went. -/
def Spawn.Honest (p : Spawn) : Prop :=
  ∀ r, p.outcome = some r →
    r = .ok p.id ∧ p.stage.launched = true ∨
    r = .error (TaskTable.refusal p.name) ∧ p.stage = .withdrawn

/-- A walk over the entries of `t` has listed some of those it has seen, in their order. -/
structure Reading.Walked (t : TaskTable) (q : Reading) : Prop where
  seen_le : q.seen ≤ q.extent
  extent_le : q.extent ≤ t.ids.length
  sublist : q.ids.Sublist (t.ids.take q.seen)

/-- The first `n` identities. -/
def identities (n : ℕ) : List TaskId := (List.range n).map fun i => ⟨UInt32.ofNat (i + 1)⟩

theorem nodup_identities {n : ℕ} (hn : n < 2 ^ 32) : (identities n).Nodup := by
  refine List.Nodup.map_on ?_ List.nodup_range
  intro i hi j hj heq
  rw [List.mem_range] at hi hj
  have hnat := congrArg UInt32.toNat (TaskId.mk.inj heq)
  rw [UInt32.toNat_ofNat', UInt32.toNat_ofNat'] at hnat
  omega

/-- Identities are drawn one after the other, every entry is that of one spawn and alive as long
as its stage says, and every reading lists entries. -/
structure Kept (s : Roster) : Prop where
  drawn : s.spawns.map (·.id) = identities s.spawns.length
  next : s.table.nextId = UInt32.ofNat (s.spawns.length + 1)
  nodup : s.table.ids.Nodup
  known : s.table.ids ⊆ s.spawns.map (·.id)
  matched : ∀ p ∈ s.spawns, s.table.alive? p.id = p.stage.alive?
  honest : ∀ p ∈ s.spawns, p.Honest
  walked : ∀ q ∈ s.readings, q.Walked s.table

/-- What a spawn returns fits. -/
theorem Spawn.honest_result (p : Spawn) : ({ p with outcome := p.result } : Spawn).Honest := by
  intro r hr
  rw [Spawn.result] at hr
  split at hr
  all_goals simp_all [Stage.launched]

theorem Reading.Walked.mono {t t' : TaskTable} {q : Reading} (h : q.Walked t)
    (hids : t.ids <+: t'.ids) : q.Walked t' := by
  obtain ⟨rest, hrest⟩ := hids
  refine ⟨h.seen_le, ?_, ?_⟩
  · rw [← hrest, List.length_append]
    exact Nat.le_add_right_of_le h.extent_le
  · rw [← hrest, List.take_append_of_le_length (Nat.le_trans h.seen_le h.extent_le)]
    exact h.sublist

theorem Reading.ids_look (q : Reading) (t : TaskTable) :
    (q.look t).ids = q.ids ++ (t.entries[q.seen]?.toList.filter (·.alive)).map (·.id) := by
  rw [ids, ids, look, List.map_append, List.map_map]
  rfl

theorem Reading.Walked.look {t : TaskTable} {q : Reading} (h : q.Walked t)
    (hseen : q.seen < q.extent) : (q.look t).Walked t := by
  refine ⟨hseen, h.extent_le, ?_⟩
  have htake : t.ids.take (q.seen + 1) =
      t.ids.take q.seen ++ t.entries[q.seen]?.toList.map (·.id) := by
    rw [List.take_add_one, TaskTable.ids, List.getElem?_map]
    cases t.entries[q.seen]? <;> rfl
  show (q.look t).ids.Sublist (t.ids.take (q.seen + 1))
  rw [Reading.ids_look, htake]
  exact h.sublist.append (List.filter_sublist.map _)

/-- What a move of the spawn `p` to `p'` may do to the table. -/
structure Touched (p p' : Spawn) (t t' : TaskTable) : Prop where
  id : p'.id = p.id
  honest : p.Honest → p'.Honest
  next : t'.nextId = t.nextId
  nodup : t'.ids.Nodup
  known : t'.ids ⊆ p.id :: t.ids
  grown : t.ids <+: t'.ids
  self : t'.alive? p.id = p'.stage.alive?
  others : ∀ i, i ≠ p.id → t'.alive? i = t.alive? i

namespace Touched

variable {p p' : Spawn} {t t' : TaskTable}

/-- Entries come and go in no way. -/
theorem of_ids (hid : p'.id = p.id) (hhonest : p.Honest → p'.Honest)
    (hnext : t'.nextId = t.nextId) (hnodup : t.ids.Nodup) (hids : t'.ids = t.ids)
    (hself : t'.alive? p.id = p'.stage.alive?)
    (hothers : ∀ i, i ≠ p.id → t'.alive? i = t.alive? i) :
    Touched p p' t t' :=
  ⟨hid, hhonest, hnext, hids ▸ hnodup, hids ▸ List.subset_cons_self _ _, hids ▸ List.prefix_rfl,
    hself, hothers⟩

/-- The table stays as it is. -/
theorem unchanged (hid : p'.id = p.id) (hhonest : p.Honest → p'.Honest) (hnodup : t.ids.Nodup)
    (hself : t.alive? p.id = p'.stage.alive?) : Touched p p' t t :=
  .of_ids hid hhonest rfl hnodup rfl hself fun _ _ => rfl

/-- The entry of the spawn is marked dead. -/
theorem retire (hid : p'.id = p.id) (hhonest : p.Honest → p'.Honest) (hnodup : t.ids.Nodup)
    (hself : t.alive? p.id = some true) (hstage : p'.stage.alive? = some false) :
    Touched p p' t (t.retire p.id) := by
  refine .of_ids hid hhonest rfl hnodup (t.ids_retire p.id) ?_ fun i hi =>
    t.alive?_retire_of_ne i hi
  rw [TaskTable.alive?_retire_self, hself, hstage, Option.map_some]

/-- The spawn gets its entry. -/
theorem enlist {e : TaskEntry} (hid : p'.id = p.id) (hhonest : p.Honest → p'.Honest)
    (hnodup : t.ids.Nodup) (he : e.id = p.id) (halive : e.alive = true)
    (hself : t.alive? p.id = none) (hstage : p'.stage.alive? = some true) :
    Touched p p' t (t.enlist e) := by
  have hnew : p.id ∉ t.ids := (t.alive?_eq_none_iff p.id).mp hself
  refine ⟨hid, hhonest, rfl, ?_, ?_, ?_, ?_, fun i hi => ?_⟩
  · rw [TaskTable.ids_enlist, he, ← List.concat_eq_append]
    exact hnodup.concat hnew
  · rw [TaskTable.ids_enlist, he]
    exact List.append_subset.mpr
      ⟨List.subset_cons_self _ _, List.cons_subset.mpr ⟨List.mem_cons_self, List.nil_subset _⟩⟩
  · rw [TaskTable.ids_enlist]
    exact List.prefix_append _ _
  · rw [TaskTable.alive?_enlist, hself, if_pos he, halive, hstage, Option.none_or]
  · rw [TaskTable.alive?_enlist, he, if_neg (Ne.symm hi), Option.or_none]

end Touched

namespace Kept

variable {s : Roster}

theorem start : Kept {} :=
  ⟨rfl, rfl, List.nodup_nil, List.nil_subset _, by simp, by simp, by simp⟩

/-- Fewer than a whole round of identities are distinct. -/
theorem distinct (h : Kept s) (hfew : s.spawns.length < 2 ^ 32) : (s.spawns.map (·.id)).Nodup :=
  h.drawn ▸ nodup_identities hfew

/-- None of them is that of work which no table knows. -/
theorem ne_zero (h : Kept s) (hfew : s.spawns.length < 2 ^ 32) {p : Spawn} (hp : p ∈ s.spawns) :
    p.id ≠ ⟨0⟩ := by
  have hid : p.id ∈ identities s.spawns.length := h.drawn ▸ List.mem_map_of_mem hp
  obtain ⟨i, hi, heq⟩ := List.mem_map.mp hid
  rw [List.mem_range] at hi
  intro hzero
  have hnat : (i + 1) % 2 ^ 32 = 0 := by
    rw [← UInt32.toNat_ofNat']
    exact congrArg UInt32.toNat (TaskId.mk.inj (heq.trans hzero))
  omega

/-- A spawn has an identity of its own. -/
theorem index_eq (h : Kept s) (hfew : s.spawns.length < 2 ^ 32) {i k : ℕ} {p q : Spawn}
    (hp : s.spawns[i]? = some p) (hq : s.spawns[k]? = some q) (hid : p.id = q.id) : i = k := by
  have hi : i < (s.spawns.map (·.id)).length := by
    rw [List.length_map]
    exact (List.getElem?_eq_some_iff.mp hp).1
  refine (List.getElem?_inj hi (h.distinct hfew)).mp ?_
  rw [List.getElem?_map, List.getElem?_map, hp, hq, Option.map_some, Option.map_some, hid]

/-- Drawing one more identity. -/
theorem draw (h : Kept s) (hfew : s.spawns.length + 1 < 2 ^ 32) (name : String) (priority : UInt8)
    (stackSize : ℕ) : Kept (s.step (.draw name priority stackSize)) := by
  have hids : s.spawns.map (·.id) ++ [s.table.draw.1] = identities (s.spawns.length + 1) := by
    rw [h.drawn, identities, identities, List.range_succ, List.map_append, List.map_singleton,
      TaskTable.draw, h.next]
  -- the new identity is none of the earlier ones, so it has no entry yet
  have hnew : s.table.draw.1 ∉ s.spawns.map (·.id) := by
    have hnodup := nodup_identities hfew
    rw [← hids, ← List.concat_eq_append, List.nodup_concat] at hnodup
    exact hnodup.1
  have hmissing : s.table.alive? s.table.draw.1 = none :=
    (s.table.alive?_eq_none_iff _).mpr fun hin => hnew (h.known hin)
  refine ⟨?_, ?_, h.nodup, ?_, ?_, ?_, fun q hq => (h.walked q hq).mono List.prefix_rfl⟩
  · rw [step, List.map_append, List.length_append]
    exact hids
  · show s.table.nextId + 1 = _
    rw [h.next, step, List.length_append]
    exact (UInt32.ofNat_add (s.spawns.length + 1) 1).symm
  · rw [step, List.map_append]
    exact List.subset_append_of_subset_left _ h.known
  · intro p hp
    rcases List.mem_append.mp hp with hp | hp
    · exact h.matched p hp
    · obtain rfl := List.mem_singleton.mp hp
      exact hmissing
  · intro p hp
    rcases List.mem_append.mp hp with hp | hp
    · exact h.honest p hp
    · obtain rfl := List.mem_singleton.mp hp
      intro r hr
      cases hr

/-- A spawn goes on. -/
theorem advance (h : Kept s) (hfew : s.spawns.length < 2 ^ 32) {k : ℕ} {ok : Spawn → Bool}
    {p' : Spawn → Spawn} {effect : Spawn → TaskTable → TaskTable}
    (htouched : ∀ p, ok p = true → s.table.alive? p.id = p.stage.alive? →
      Touched p (p' p) s.table (effect p s.table)) : Kept (s.advance k ok p' effect) := by
  rcases advance_cases (s := s) with heq | ⟨p, hp, hok, heq⟩ <;> rw [heq]
  · exact h
  have hmem : p ∈ s.spawns := List.mem_of_getElem? hp
  have htouch := htouched p hok (h.matched p hmem)
  have hids : (s.spawns.set k (p' p)).map (·.id) = s.spawns.map (·.id) := by
    have hget : (s.spawns.map (·.id))[k]? = some p.id := by rw [List.getElem?_map, hp]; rfl
    obtain ⟨hk, hget⟩ := List.getElem?_eq_some_iff.mp hget
    rw [List.map_set, htouch.id, ← hget]
    exact List.set_getElem_self hk
  refine ⟨?_, ?_, htouch.nodup, ?_, ?_, ?_, ?_⟩
  · rw [hids, List.length_set]
    exact h.drawn
  · rw [List.length_set]
    exact htouch.next.trans h.next
  · rw [hids]
    intro i hi
    rcases List.mem_cons.mp (htouch.known hi) with rfl | hi
    · exact List.mem_map_of_mem hmem
    · exact h.known hi
  · -- the spawn itself, or another one, whose identity is another one
    intro q hq
    obtain ⟨i, hi⟩ := List.mem_iff_getElem?.mp hq
    rw [List.getElem?_set] at hi
    by_cases hik : k = i
    · rw [if_pos hik, if_pos (hik ▸ (List.getElem?_eq_some_iff.mp hp).1)] at hi
      obtain rfl : p' p = q := Option.some.inj hi
      rw [htouch.id]
      exact htouch.self
    · rw [if_neg hik] at hi
      rw [htouch.others q.id fun heq => hik (h.index_eq hfew hp hi heq.symm)]
      exact h.matched q (List.mem_of_getElem? hi)
  · intro q hq
    rcases List.mem_or_eq_of_mem_set hq with hq | rfl
    · exact h.honest q hq
    · exact htouch.honest (h.honest p hmem)
  · exact fun q hq => (h.walked q hq).mono htouch.grown

/-- A reading begins. -/
theorem read (h : Kept s) : Kept (s.step .read) := by
  refine ⟨h.drawn, h.next, h.nodup, h.known, h.matched, h.honest, fun q hq => ?_⟩
  rcases List.mem_append.mp hq with hq | hq
  · exact h.walked q hq
  · obtain rfl := List.mem_singleton.mp hq
    exact ⟨Nat.zero_le _, Nat.le_of_eq s.table.length_ids.symm, List.nil_sublist _⟩

/-- A reading goes on to the next entry. -/
theorem look (h : Kept s) (r : ℕ) : Kept (s.step (.look r)) := by
  rcases look_cases s r with heq | ⟨q, hq, hseen, heq⟩ <;> rw [heq]
  · exact h
  refine ⟨h.drawn, h.next, h.nodup, h.known, h.matched, h.honest, fun q' hq' => ?_⟩
  rcases List.mem_or_eq_of_mem_set hq' with hq' | rfl
  · exact h.walked q' hq'
  · exact (h.walked q (List.mem_of_getElem? hq)).look hseen

/-- Every move keeps all this, as long as identities last. -/
theorem step (h : Kept s) (m : Move) (hfew : (s.step m).spawns.length < 2 ^ 32) :
    Kept (s.step m) := by
  have hfew' : s.spawns.length < 2 ^ 32 := by
    rw [length_spawns_step] at hfew
    omega
  cases m with
  | draw name priority stackSize =>
    exact h.draw (by simpa [Roster.step] using hfew) name priority stackSize
  | enlist k now =>
    rw [Roster.step]
    refine h.advance hfew' fun p hok hself => ?_
    have hstage : p.stage = .drawn := of_decide_eq_true hok
    rw [hstage] at hself
    exact .enlist rfl (fun hp r hr => by simpa [hstage, Stage.launched] using hp r hr) h.nodup rfl
      rfl hself rfl
  | launch k =>
    rw [Roster.step]
    refine h.advance hfew' fun p hok hself => ?_
    have hstage : p.stage = .enlisted := (of_decide_eq_true hok).1
    rw [hstage] at hself
    exact .unchanged rfl (fun hp r hr => by simpa [hstage, Stage.launched] using hp r hr) h.nodup
      hself
  | refuse k =>
    rw [Roster.step]
    refine h.advance hfew' fun p hok hself => ?_
    have hstage : p.stage = .enlisted := (of_decide_eq_true hok).1
    rw [hstage] at hself
    exact .unchanged rfl (fun hp r hr => by simpa [hstage, Stage.launched] using hp r hr) h.nodup
      hself
  | withdraw k =>
    rw [Roster.step]
    refine h.advance hfew' fun p hok hself => ?_
    have hstage : p.stage = .refused := of_decide_eq_true hok
    rw [hstage] at hself
    exact .retire rfl (fun hp r hr => by simpa [hstage, Stage.launched] using hp r hr) h.nodup
      hself rfl
  | answer k =>
    rw [Roster.step]
    exact h.advance hfew' fun p _ hself =>
      .unchanged rfl (fun _ => p.honest_result) h.nodup hself
  | work k clock stackDepth =>
    rw [Roster.step]
    refine h.advance hfew' fun p hok hself => ?_
    exact .of_ids rfl (fun hp => hp) rfl h.nodup (s.table.ids_update ..)
      ((s.table.alive?_update ..).trans hself) fun i _ => s.table.alive?_update ..
  | finish k panicked =>
    rw [Roster.step]
    refine h.advance hfew' fun p hok hself => ?_
    have hstage : p.stage = .running := of_decide_eq_true hok
    rw [hstage] at hself
    exact .retire rfl (fun hp r hr => by simpa [hstage, Stage.launched] using hp r hr) h.nodup
      hself rfl
  | read => exact h.read
  | look r => exact h.look r

end Kept

theorem length_spawns (moves : List Move) : (run moves).spawns.length = draws moves := by
  induction moves using List.reverseRecOn with
  | nil => rfl
  | append_singleton moves m ih =>
    rw [run_concat, length_spawns_step, ih, draws, draws, draws, List.countP_append]

/-- What every course of moves keeps, as long as identities last. -/
theorem kept (moves : List Move) (hfew : draws moves < 2 ^ 32) : Kept (run moves) := by
  induction moves using List.reverseRecOn with
  | nil => exact .start
  | append_singleton moves m ih =>
    rw [run_concat]
    refine (ih (Nat.lt_of_le_of_lt (draws_append_le moves [m]) hfew)).step m ?_
    rw [← run_concat, length_spawns]
    exact hfew

end Roster

end Telemetry
