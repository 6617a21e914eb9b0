/-
The monitor over the program's own tasks.

Each of the four tasks is registered once, under its own name, and may end at any moment. The
monitor reads the number of live tasks and later, when other tasks may have come and gone, a
snapshot. The registry keeps a slot for every identity it has ever seen, but there are only
four of them, and each has a name with a budget; so nothing that a poll can meet stops the
program.

* `Watch`, `Watch.Moves` — the table of tasks, the monitor, and what can happen next;
* `TaskKind.budget` — the budget of a task under overrides;
* `Enrolled` — the identities drawn are distinct, and every entry is that of one of them;
* `Staffed` — every slot of the registry is that of a drawn identity, with the budget of its task;
* `account_staffed` — accounting a snapshot of such tasks succeeds;
* `polls_succeed` — every poll does, in every order of moves.
-/
import Mathlib.Data.List.Perm.Subperm
import Mathlib.Logic.Relation
import Telemetry.Proofs.Monitor.Poll
import Telemetry.Proofs.Registry.Layout
import Telemetry.Task.Table

namespace Telemetry

/-! ### Budgets under overrides -/

namespace StackBudgets

theorem lookup_append (name : String) (first second : List (String × ℕ)) :
    lookup name (first ++ second) = (lookup name first).or (lookup name second) := by
  induction first with
  | nil => rfl
  | cons p rest ih =>
    rw [List.cons_append, lookup, lookup]
    split
    · rfl
    · exact ih

theorem lookup_put (name other : String) (budget : ℕ) (entries : List (String × ℕ)) :
    lookup name (put other budget entries) =
      if other = name then some budget else lookup name entries := by
  induction entries with
  | nil => rfl
  | cons p rest ih =>
    obtain ⟨n, b⟩ := p
    by_cases hn : n = other
    · subst hn
      rw [put, if_pos rfl, lookup, lookup]
      split <;> rfl
    · rw [put, if_neg hn, lookup, lookup, ih]
      by_cases hname : n = name
      · subst hname
        rw [if_pos rfl, if_neg (Ne.symm hn), if_pos rfl]
      · rw [if_neg hname, if_neg hname]

/-- Of several overrides of a name the last one counts, and without any the budget below. -/
theorem get?_override (b : StackBudgets) (overrides : List (String × ℕ)) (name : String) :
    (b.override overrides).get? name = (lookup name overrides.reverse).or (b.get? name) := by
  induction overrides generalizing b with
  | nil => rfl
  | cons p rest ih =>
    have hinsert : (b.insert p.1 p.2).get? name = (lookup name [p]).or (b.get? name) := by
      rw [get?, insert, lookup_put]
      show _ = (if p.1 = name then some p.2 else none).or _
      split <;> rfl
    show ((b.insert p.1 p.2).override rest).get? name = _
    rw [ih, hinsert, List.reverse_cons, lookup_append, Option.or_assoc]

end StackBudgets

/-- The budget of a task: the one that overrides it, the last one if there are several, and
otherwise the size of its stack. -/
def TaskKind.budget (overrides : List (String × ℕ)) (k : TaskKind) : ℕ :=
  (StackBudgets.lookup k.name overrides.reverse).getD k.stackSize

theorem StackBudgets.get?_name (overrides : List (String × ℕ)) (k : TaskKind) :
    (ofTaskKinds.override overrides).get? k.name = some (k.budget overrides) := by
  have hkind : ofTaskKinds.get? k.name = some k.stackSize := by cases k <;> rfl
  rw [get?_override, hkind, TaskKind.budget]
  cases lookup k.name overrides.reverse <;> rfl

/-- The table with new figures for a task. -/
def TaskTable.update (t : TaskTable) (id : TaskId) (clock : BusyClock) (stackDepth : ℕ) :
    TaskTable :=
  { t with entries := t.entries.map fun e =>
      if e.id = id then { e with clock := clock, stackDepth := stackDepth } else e }

/-- The tasks of the program and their monitor: the identities drawn so far, each for a task;
the number of live tasks, while a poll is between reading it and taking its snapshot; and the
answers of all polls. -/
structure Watch where
  table : TaskTable
  drawn : List (TaskKind × TaskId)
  monitor : Monitor
  counted : Option ℕ
  answers : List (Except MonitorError (List Record))

namespace Watch

/-- Nothing has happened yet. -/
def start (overrides : List (String × ℕ)) : Watch :=
  ⟨TaskTable.empty, [],
    Monitor.create (Registry.create Registry.defaultCapacity)
      (StackBudgets.ofTaskKinds.override overrides), none, []⟩

/-- A poll that has read `count` live tasks and now takes a snapshot. -/
def poll (w : Watch) (count total : ℕ) :
    Step (Monitor × AnnouncedScheduler) (Except MonitorError (List Record)) :=
  w.monitor.poll (⟨[(count, w.table.snapshot total)]⟩ : AnnouncedScheduler)

/-- What can happen: a task draws its identity, once; it is enlisted under its name; its figures
change; it ends, or could not be started; a poll reads the number of live tasks; the poll takes a
snapshot and accounts it. -/
inductive Moves : Watch → Watch → Prop
  | draw (w : Watch) (k : TaskKind) (hnew : k ∉ w.drawn.map (·.1)) :
      Moves w { w with table := w.table.draw.2, drawn := w.drawn ++ [(k, w.table.draw.1)] }
  | enlist (w : Watch) (k : TaskKind) (id : TaskId) (now : Instant) (hdrawn : (k, id) ∈ w.drawn)
      (hnew : id ∉ w.table.entries.map (·.id)) :
      Moves w { w with
        table := w.table.enlist (TaskEntry.create id k.name k.priority k.stackSize now) }
  | update (w : Watch) (id : TaskId) (clock : BusyClock) (stackDepth : ℕ) :
      Moves w { w with table := w.table.update id clock stackDepth }
  | retire (w : Watch) (id : TaskId) : Moves w { w with table := w.table.retire id }
  | count (w : Watch) (hidle : w.counted = none) :
      Moves w { w with counted := some w.table.count }
  | poll (w : Watch) (count total : ℕ) (hcounted : w.counted = some count) :
      Moves w { w with
        monitor := (w.poll count total).state.1
        counted := none
        answers := w.answers ++ [(w.poll count total).answer] }

/-! ### The table -/

/-- The entries of a table are those of tasks for which identities have been drawn from it, one
for each task at most. -/
structure Enrolled (drawn : List (TaskKind × TaskId)) (t : TaskTable) : Prop where
  kinds : (drawn.map (·.1)).Nodup
  ids : drawn.map (·.2) = (List.range drawn.length).map fun i => ⟨UInt32.ofNat (i + 1)⟩
  next : t.nextId = UInt32.ofNat (drawn.length + 1)
  entered : (t.entries.map (·.id)).Nodup
  named : ∀ e ∈ t.entries, ∃ k : TaskKind, (k, e.id) ∈ drawn ∧ e.name = k.name

namespace Enrolled

variable {drawn : List (TaskKind × TaskId)} {t : TaskTable}

theorem mem_all (k : TaskKind) : k ∈ TaskKind.all := by
  cases k <;> decide

/-- There are only four tasks. -/
theorem length_le (h : Enrolled drawn t) : drawn.length ≤ 4 := by
  have hsub : drawn.map (·.1) ⊆ TaskKind.all := fun k _ => mem_all k
  have hlength := (h.kinds.subperm hsub).length_le
  rwa [List.length_map] at hlength

/-- No identity has been drawn twice. -/
theorem distinct (h : Enrolled drawn t) : (drawn.map (·.2)).Nodup := by
  have hfew := h.length_le
  rw [h.ids]
  refine List.Nodup.map_on ?_ List.nodup_range
  intro i hi j hj heq
  rw [List.mem_range] at hi hj
  have hnumber : UInt32.ofNat (i + 1) = UInt32.ofNat (j + 1) := TaskId.mk.inj heq
  have hnat := congrArg UInt32.toNat hnumber
  rw [UInt32.toNat_ofNat', UInt32.toNat_ofNat'] at hnat
  omega

/-- An identity is that of one task. -/
theorem kind_unique (h : Enrolled drawn t) {k k' : TaskKind} {id : TaskId} (hk : (k, id) ∈ drawn)
    (hk' : (k', id) ∈ drawn) : k = k' :=
  congrArg Prod.fst (List.inj_on_of_nodup_map h.distinct hk hk' rfl)

theorem count_le (h : Enrolled drawn t) : t.count ≤ 4 := by
  have hsub : t.entries.map (·.id) ⊆ drawn.map (·.2) := by
    intro id hid
    obtain ⟨e, he, rfl⟩ := List.mem_map.mp hid
    obtain ⟨k, hk, -⟩ := h.named e he
    exact List.mem_map.mpr ⟨(k, e.id), hk, rfl⟩
  have hlength := (h.entered.subperm hsub).length_le
  rw [List.length_map, List.length_map] at hlength
  have hlive : t.count ≤ t.entries.length := List.length_filter_le _ _
  have hfew := h.length_le
  omega

/-- Whatever changes entries but not their identities and names. -/
theorem map_entries (h : Enrolled drawn t) {f : TaskEntry → TaskEntry}
    (hid : ∀ e, (f e).id = e.id) (hname : ∀ e, (f e).name = e.name) :
    Enrolled drawn { t with entries := t.entries.map f } := by
  refine ⟨h.kinds, h.ids, h.next, ?_, ?_⟩
  · show ((t.entries.map f).map (·.id)).Nodup
    rw [List.map_map, show (fun e : TaskEntry => e.id) ∘ f = (·.id) from funext hid]
    exact h.entered
  · intro e he
    obtain ⟨e₀, he₀, rfl⟩ := List.mem_map.mp he
    rw [hid, hname]
    exact h.named e₀ he₀

theorem draw (h : Enrolled drawn t) {k : TaskKind} (hnew : k ∉ drawn.map (·.1)) :
    Enrolled (drawn ++ [(k, t.draw.1)]) t.draw.2 := by
  refine ⟨?_, ?_, ?_, h.entered, ?_⟩
  · rw [List.map_append, List.map_singleton, ← List.concat_eq_append]
    exact h.kinds.concat hnew
  · rw [List.map_append, h.ids, List.length_append, List.length_singleton, List.range_succ,
      List.map_append, List.map_singleton, List.map_singleton, TaskTable.draw, h.next]
  · show t.nextId + 1 = _
    rw [h.next, List.length_append, List.length_singleton]
    exact (UInt32.ofNat_add (drawn.length + 1) 1).symm
  · intro e he
    obtain ⟨k', hk', hname⟩ := h.named e he
    exact ⟨k', List.mem_append_left _ hk', hname⟩

theorem enlist (h : Enrolled drawn t) {k : TaskKind} {e : TaskEntry} (hdrawn : (k, e.id) ∈ drawn)
    (hname : e.name = k.name) (hnew : e.id ∉ t.entries.map (·.id)) :
    Enrolled drawn (t.enlist e) := by
  refine ⟨h.kinds, h.ids, h.next, ?_, ?_⟩
  · show ((t.entries ++ [e]).map (·.id)).Nodup
    rw [List.map_append, List.map_singleton, ← List.concat_eq_append]
    exact h.entered.concat hnew
  · intro e' he'
    rcases List.mem_append.mp he' with hold | hlast
    · exact h.named e' hold
    · rw [List.mem_singleton] at hlast
      subst hlast
      exact ⟨k, hdrawn, hname⟩

end Enrolled

/-! ### The registry -/

/-- Every slot of a registry is that of a drawn identity and has the budget of its task. -/
def Staffed (overrides : List (String × ℕ)) (drawn : List (TaskKind × TaskId)) (r : Registry) :
    Prop :=
  ∃ held free, Registry.Layout r held free ∧ held.length + free = Registry.defaultCapacity ∧
    ∀ s ∈ held, ∃ k : TaskKind, (k, s.id) ∈ drawn ∧ s.stackBudget = k.budget overrides

/-- A task that a snapshot can show. -/
def Known (drawn : List (TaskKind × TaskId)) (task : TaskStatus) : Prop :=
  ∃ k : TaskKind, (k, task.id) ∈ drawn ∧ task.name = k.name

/-- A record with the budget of its task. -/
def Budgeted (overrides : List (String × ℕ)) (r : Record) : Prop :=
  ∃ k : TaskKind, r.name = k.name ∧ r.stackBudget = k.budget overrides

variable {overrides : List (String × ℕ)} {drawn : List (TaskKind × TaskId)} {t : TaskTable}

/-- The slots held are fewer than there are, since each is that of another drawn identity. -/
theorem free_of_staffed (h : Enrolled drawn t) {r : Registry} {held : List Slot} {free : ℕ}
    (hlayout : Registry.Layout r held free)
    (hroom : held.length + free = Registry.defaultCapacity)
    (hheld : ∀ s ∈ held, ∃ k : TaskKind, (k, s.id) ∈ drawn ∧ s.stackBudget = k.budget overrides) :
    ∃ rest, free = rest + 1 := by
  have hsub : held.map (·.id) ⊆ drawn.map (·.2) := by
    intro id hid
    obtain ⟨s, hs, rfl⟩ := List.mem_map.mp hid
    obtain ⟨k, hk, -⟩ := hheld s hs
    exact List.mem_map.mpr ⟨(k, s.id), hk, rfl⟩
  have hlength := (hlayout.distinct.subperm hsub).length_le
  rw [List.length_map, List.length_map] at hlength
  have hfew := h.length_le
  rw [Registry.defaultCapacity] at hroom
  exact ⟨free - 1, by omega⟩

/-- Accounting tasks that are known succeeds, and every record has the budget of its task. -/
theorem account_staffed (h : Enrolled drawn t) (deltaTotal : ℕ) (tasks : List TaskStatus)
    (hknown : ∀ task ∈ tasks, Known drawn task) :
    ∀ r : Registry, Staffed overrides drawn r →
    ∃ records,
      (Registry.account (StackBudgets.ofTaskKinds.override overrides) deltaTotal tasks r).answer =
        .ok records ∧
      (∀ record ∈ records, Budgeted overrides record) ∧
      Staffed overrides drawn (Registry.account (StackBudgets.ofTaskKinds.override overrides)
        deltaTotal tasks r).state := by
  induction tasks with
  | nil => exact fun r hr => ⟨[], rfl, nofun, hr⟩
  | cons task rest ih =>
    intro r ⟨held, free, hlayout, hroom, hheld⟩
    obtain ⟨k, hk, hname⟩ := hknown task List.mem_cons_self
    have hbudget : (StackBudgets.ofTaskKinds.override overrides).get? task.name =
        some (k.budget overrides) := by
      rw [hname, StackBudgets.get?_name]
    obtain ⟨free, rfl⟩ := free_of_staffed h hlayout hroom hheld
    rcases hlayout.account_cons (StackBudgets.ofTaskKinds.override overrides) deltaTotal task rest
      with ⟨e, hrefused, -, -⟩ | ⟨before, held', free', r', haccounted, hlayout', hanswer, hstate⟩
    · obtain ⟨i, hok⟩ := hlayout.resolve_isOk hbudget
      rw [hok] at hrefused
      cases hrefused
    · -- the slot of the task, old or new, has its budget, and the other slots are what they were
      have hown : before.stackBudget = k.budget overrides ∧
          held'.length + free' = Registry.defaultCapacity ∧
          ∀ s ∈ held', ∃ k : TaskKind, (k, s.id) ∈ drawn ∧ s.stackBudget = k.budget overrides := by
        cases haccounted with
        | known hs hid =>
          obtain ⟨k', hk', hown⟩ := hheld before (List.mem_of_getElem? hs)
          rw [hid] at hk'
          obtain rfl := h.kind_unique hk' hk
          refine ⟨hown, by rw [List.length_set]; exact hroom, ?_⟩
          intro s hmem
          rcases List.mem_or_eq_of_mem_set hmem with hmem | rfl
          · exact hheld s hmem
          · exact ⟨k', hid ▸ hk, hown⟩
        | placed hnew hfound hfree =>
          rw [hbudget, Option.some.injEq] at hfound
          refine ⟨hfound.symm, ?_, ?_⟩
          · rw [List.length_append, List.length_singleton]
            omega
          · intro s hmem
            rcases List.mem_append.mp hmem with hmem | hmem
            · exact hheld s hmem
            · rw [List.mem_singleton] at hmem
              subst hmem
              exact ⟨k, hk, hfound.symm⟩
      obtain ⟨hbefore, hroom', hheld'⟩ := hown
      obtain ⟨records, hrecords, hall, hstaffed⟩ :=
        ih (fun task' htask => hknown task' (List.mem_cons_of_mem _ htask)) r'
          ⟨held', free', hlayout', hroom', hheld'⟩
      refine ⟨Registry.record before task deltaTotal :: records, ?_, ?_, ?_⟩
      · rw [hanswer, hrecords]
        rfl
      · intro record hrecord
        rcases List.mem_cons.mp hrecord with rfl | hrecord
        · exact ⟨k, hname, hbefore⟩
        · exact hall record hrecord
      · rw [hstate]
        exact hstaffed

/-! ### Moves -/

/-- What every sequence of moves preserves. -/
structure Sound (overrides : List (String × ℕ)) (w : Watch) : Prop where
  enrolled : Enrolled w.drawn w.table
  budgets : w.monitor.budgets = StackBudgets.ofTaskKinds.override overrides
  staffed : Staffed overrides w.drawn w.monitor.registry
  counted : ∀ n, w.counted = some n → n ≤ 4
  answered : ∀ a ∈ w.answers, ∃ records, a = .ok records ∧ ∀ r ∈ records, Budgeted overrides r

variable {w w' : Watch}

/-- A drawn identity stays drawn, and so its slot keeps its task. -/
theorem Staffed.mono {drawn' : List (TaskKind × TaskId)} {r : Registry}
    (h : Staffed overrides drawn r) (hsub : drawn ⊆ drawn') : Staffed overrides drawn' r := by
  obtain ⟨held, free, hlayout, hroom, hheld⟩ := h
  refine ⟨held, free, hlayout, hroom, fun s hs => ?_⟩
  obtain ⟨k, hk, hbudget⟩ := hheld s hs
  exact ⟨k, hsub hk, hbudget⟩

theorem start_sound (overrides : List (String × ℕ)) : Sound overrides (start overrides) where
  enrolled := ⟨List.nodup_nil, rfl, rfl, List.nodup_nil, nofun⟩
  budgets := rfl
  staffed := ⟨[], _, Registry.create_layout _, rfl, nofun⟩
  counted := nofun
  answered := nofun

/-- A poll between sound states succeeds, whatever has happened to the table since the tasks
were counted. -/
theorem Sound.poll (h : Sound overrides w) {count : ℕ} (hcount : count ≤ 4) (total : ℕ) :
    ∃ records, (w.poll count total).answer = .ok records ∧
      (∀ r ∈ records, Budgeted overrides r) ∧
      (w.poll count total).state.1.budgets = w.monitor.budgets ∧
      Staffed overrides w.drawn (w.poll count total).state.1.registry := by
  obtain ⟨held, free, hlayout, hroom, hheld⟩ := h.staffed
  have hcapacity : w.monitor.registry.capacity = 12 := hlayout.capacity_eq.trans hroom
  have hknown : ∀ task ∈ (w.table.snapshot total).tasks, Known w.drawn task := by
    intro task htask
    obtain ⟨e, he, rfl⟩ := List.mem_map.mp htask
    exact h.enrolled.named e (List.mem_of_mem_filter he)
  have hsize : (w.table.snapshot total).tasks.length ≤ 4 := by
    show (w.table.live.map (·.status)).length ≤ 4
    rw [List.length_map]
    exact h.enrolled.count_le
  obtain ⟨records, hrecords, hbudgeted, hstaffed⟩ :=
    account_staffed h.enrolled (total - w.monitor.registry.lastTotal) _ hknown _ h.staffed
  rw [← h.budgets] at hrecords hstaffed
  have hfits : count ≤ w.monitor.registry.capacity := by omega
  obtain ⟨hanswer, hregistry, hbudgets, -⟩ := Monitor.poll_of_le
    (s := (⟨[(count, w.table.snapshot total)]⟩ : AnnouncedScheduler)) hfits
  rcases w.monitor.registry.recordEpoch_cases (w.table.snapshot total) w.monitor.budgets
    Monitor.threshold with ⟨hlarge, -⟩ | ⟨e, -, herror, -⟩ | ⟨all, hall, hok, hstate⟩
  · omega
  · exact absurd (hrecords.symm.trans herror) nofun
  · obtain rfl : records = all := Except.ok.inj (hrecords.symm.trans hall)
    refine ⟨_, hanswer.trans hok, ?_, hbudgets, ?_⟩
    · intro r hr
      split at hr
      · exact hbudgeted r hr
      · cases hr
    · -- a success writes the total as well, which is not part of the layout
      obtain ⟨held', free', hlayout', hroom', hheld'⟩ := hstaffed
      rw [Watch.poll, hregistry]
      show Staffed overrides w.drawn (w.monitor.registry.recordEpoch (w.table.snapshot total)
        w.monitor.budgets Monitor.threshold).state
      rw [hstate]
      exact ⟨held', free', ⟨hlayout'.slots_eq, hlayout'.distinct⟩, hroom', hheld'⟩

/-- Every move keeps a state sound. -/
theorem Sound.moves (h : Sound overrides w) (hmoves : Moves w w') : Sound overrides w' := by
  obtain ⟨henrolled, hbudgets, hstaffed, hcounted, hanswered⟩ := h
  cases hmoves with
  | draw k hnew =>
    exact ⟨henrolled.draw hnew, hbudgets, hstaffed.mono (List.subset_append_left _ _), hcounted,
      hanswered⟩
  | enlist k id now hdrawn hnew =>
    exact ⟨henrolled.enlist hdrawn rfl hnew, hbudgets, hstaffed, hcounted, hanswered⟩
  | update id clock stackDepth =>
    refine ⟨henrolled.map_entries ?_ ?_, hbudgets, hstaffed, hcounted, hanswered⟩
    · intro e
      split <;> rfl
    · intro e
      split <;> rfl
  | retire id =>
    refine ⟨henrolled.map_entries ?_ ?_, hbudgets, hstaffed, hcounted, hanswered⟩
    · intro e
      split <;> rfl
    · intro e
      split <;> rfl
  | count hidle =>
    refine ⟨henrolled, hbudgets, hstaffed, ?_, hanswered⟩
    intro n hn
    obtain rfl := Option.some.inj hn
    exact henrolled.count_le
  | poll count total hcount =>
    obtain ⟨records, hanswer, hbudgeted, hbudgets', hstaffed'⟩ :=
      Sound.poll ⟨henrolled, hbudgets, hstaffed, hcounted, hanswered⟩ (hcounted count hcount) total
    refine ⟨henrolled, hbudgets'.trans hbudgets, hstaffed', nofun, ?_⟩
    intro a ha
    rcases List.mem_append.mp ha with hearlier | hlast
    · exact hanswered a hearlier
    · rw [List.mem_singleton] at hlast
      exact ⟨records, hlast.trans hanswer, hbudgeted⟩

/-- **The monitor over its own tasks.** Whatever is overridden, and in whatever order the tasks
are registered and end and the monitor counts them and takes its snapshots, every poll succeeds,
and every record has the budget of its task. -/
theorem polls_succeed (overrides : List (String × ℕ)) {w : Watch}
    (h : Relation.ReflTransGen Moves (start overrides) w) :
    ∀ a ∈ w.answers, ∃ records, a = .ok records ∧
      ∀ r ∈ records, ∃ k : TaskKind, r.name = k.name ∧ r.stackBudget = k.budget overrides := by
  have hsound : Sound overrides w := by
    induction h with
    | refl => exact start_sound overrides
    | tail _ hmoves ih => exact ih.moves hmoves
  exact hsound.answered

/-- A task that is enlisted after the tasks have been counted is in the snapshot of the same
poll, and one that has ended is in none. -/
theorem polls_succeed_overtaken :
    ∃ w, Relation.ReflTransGen Moves (start [("Comms", 1024)]) w ∧
      w.answers =
        [.ok [⟨1, "Sensor", 262144, 262144, 0, 1000⟩, ⟨2, "Comms", 1024, 262000, 700, 1000⟩],
          .ok [⟨2, "Comms", 1024, 262000, 0, 500⟩]] ∧
      ∀ a ∈ w.answers, ∃ records, a = .ok records ∧ ∀ r ∈ records, ∃ k : TaskKind,
        r.name = k.name ∧ r.stackBudget = k.budget [("Comms", 1024)] := by
  have hrun : Relation.ReflTransGen Moves (start [("Comms", 1024)]) _ :=
    Relation.ReflTransGen.refl
      |>.tail (.draw _ .sensor (by decide))
      |>.tail (.draw _ .comms (by decide))
      |>.tail (.enlist _ .sensor ⟨1⟩ 0 (by decide) (by decide))
      |>.tail (.count _ rfl)
      |>.tail (.enlist _ .comms ⟨2⟩ 10 (by decide) (by decide))
      |>.tail (.update _ ⟨2⟩ ⟨800000, 700000⟩ 144)
      |>.tail (.poll _ 1 1000 rfl)
      |>.tail (.retire _ ⟨1⟩)
      |>.tail (.count _ rfl)
      |>.tail (.poll _ 1 1500 rfl)
  exact ⟨_, hrun, by rfl, polls_succeed _ hrun⟩

end Watch

end Telemetry
