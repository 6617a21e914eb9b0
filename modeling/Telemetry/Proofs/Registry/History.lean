/-
The records of a registry as a function of everything it has seen.

A registry keeps one runtime, one name and one budget for each identity. What it answers is
said here without slots, by the list of all entries of all snapshots so far: a record
compares an entry with the last earlier one of its identity, and its budget is that of the
first one.

* `Explains` — a record agrees with the entries seen before it;
* `Accounts` — the answer of one call agrees with the calls before it;
* `Remembers` — the slots held agree with the entries seen;
* `account_explained` — accounting tasks keeps the slots so, and answers by them;
* `answers_accounted` — the answers of all calls, from an empty registry.

Design notes: an entry is kept together with the budgets of its call, because the budget of
an identity is looked up once and the table may be another one later.
-/
import Telemetry.Proofs.Registry.Layout

namespace Telemetry

/-- The arguments of one call: a snapshot, and the budgets and the threshold it is accounted
with. -/
structure Epoch where
  snapshot : Snapshot
  budgets : StackBudgets
  threshold : ℕ

/-- An entry of a snapshot, with the budgets of the call it came in. -/
structure Sighting where
  task : TaskStatus
  budgets : StackBudgets

/-- The entries of the snapshot of a call. -/
def Epoch.sightings (e : Epoch) : List Sighting := e.snapshot.tasks.map (⟨·, e.budgets⟩)

namespace Registry

/-- The answers of calls made one after the other. -/
def answers (r : Registry) : List Epoch → List (Except MonitorError (List Record))
  | [] => []
  | call :: rest =>
    let done := r.recordEpoch call.snapshot call.budgets call.threshold
    done.answer :: answers done.state rest

/-- The entries seen in calls, oldest first. -/
def sightings (calls : List Epoch) : List Sighting := calls.flatMap Epoch.sightings

/-- The total of the last call; zero before the first. -/
def totalBefore (calls : List Epoch) : ℕ := (calls.getLast?.map (·.snapshot.total)).getD 0

/-- The runtime of an identity when it was last seen; zero if it never was. -/
def runtimeBefore (past : List Sighting) (id : TaskId) : ℕ :=
  ((past.reverse.find? (·.task.id = id)).map (·.task.runtime)).getD 0

/-- The budget of an identity when it was first seen, under the name it had then. -/
def budgetAtFirst (past : List Sighting) (id : TaskId) : Option ℕ :=
  (past.find? (·.task.id = id)).bind fun first => first.budgets.get? first.task.name

/-- The record of the entry `now` is what the entries seen before it make of it. -/
structure Explains (past : List Sighting) (now : Sighting) (deltaTotal : ℕ) (r : Record) :
    Prop where
  id : r.id = now.task.id.number
  name : r.name = now.task.name
  stackHighWater : r.stackHighWater = now.task.stackHighWater
  deltaTotal : r.deltaTotal = deltaTotal
  deltaRuntime : r.deltaRuntime = now.task.runtime - runtimeBefore past now.task.id
  stackBudget : budgetAtFirst (past ++ [now]) now.task.id = some r.stackBudget

/-- One record for each entry, in their order, each explained by all entries before it. -/
def Explained (past now : List Sighting) (deltaTotal : ℕ) (records : List Record) : Prop :=
  records.length = now.length ∧
  ∀ j s r, now[j]? = some s → records[j]? = some r → Explains (past ++ now.take j) s deltaTotal r

/-- The records of a call are explained by the calls before it; a short epoch has none. -/
def Accounts (earlier : List Epoch) (call : Epoch) (records : List Record) : Prop :=
  let deltaTotal := call.snapshot.total - totalBefore earlier
  (deltaTotal < call.threshold → records = []) ∧
  (call.threshold ≤ deltaTotal →
    Explained (sightings earlier) call.sightings deltaTotal records)

/-- The slots held are those of the identities seen, each with what was seen of it. -/
structure Remembers (past : List Sighting) (held : List Slot) : Prop where
  seen : ∀ s ∈ past, s.task.id ∈ held.map (·.id)
  budget : ∀ s ∈ held, budgetAtFirst past s.id = some s.stackBudget
  runtime : ∀ s ∈ held, runtimeBefore past s.id = s.lastRuntime

variable {r : Registry} {held held' : List Slot} {free free' : ℕ} {past : List Sighting}

/-! ### One more entry -/

theorem runtimeBefore_append (past : List Sighting) (now : Sighting) (id : TaskId) :
    runtimeBefore (past ++ [now]) id =
      if now.task.id = id then now.task.runtime else runtimeBefore past id := by
  rw [runtimeBefore, List.reverse_append, List.reverse_singleton, List.singleton_append,
    List.find?_cons]
  by_cases hid : now.task.id = id
  · rw [if_pos hid, decide_eq_true hid]
    rfl
  · rw [if_neg hid, decide_eq_false hid]
    rfl

theorem runtimeBefore_of_unseen {id : TaskId} (h : ∀ s ∈ past, s.task.id ≠ id) :
    runtimeBefore past id = 0 := by
  have hfind : past.reverse.find? (·.task.id = id) = none := by
    rw [List.find?_eq_none]
    intro s hs
    rw [decide_eq_true_eq]
    exact h s (List.mem_reverse.mp hs)
  rw [runtimeBefore, hfind]
  rfl

/-- The runtime seen last is that of some entry of the identity, if there is one. -/
theorem runtimeBefore_cases (past : List Sighting) (id : TaskId) :
    runtimeBefore past id = 0 ∨
    ∃ s ∈ past, s.task.id = id ∧ runtimeBefore past id = s.task.runtime := by
  rw [runtimeBefore]
  rcases hfind : past.reverse.find? (·.task.id = id) with _ | s
  · exact Or.inl (by rw [hfind]; rfl)
  · have hid : s.task.id = id := by simpa using List.find?_some hfind
    have hmem := List.mem_reverse.mp (List.mem_of_find?_eq_some hfind)
    exact Or.inr ⟨s, hmem, hid, by rw [hfind]; rfl⟩

/-- An identity whose runtime does not go back comes with at least the one it had before. -/
theorem runtimeBefore_le {id : TaskId} {runtime : ℕ}
    (h : ∀ s ∈ past, s.task.id = id → s.task.runtime ≤ runtime) :
    runtimeBefore past id ≤ runtime := by
  rcases runtimeBefore_cases past id with hzero | ⟨s, hs, hid, hruntime⟩
  · rw [hzero]
    exact Nat.zero_le _
  · rw [hruntime]
    exact h s hs hid

theorem totalBefore_concat (earlier : List Epoch) (call : Epoch) :
    totalBefore (earlier ++ [call]) = call.snapshot.total := by
  rw [totalBefore, List.getLast?_concat]
  rfl

/-- Where totals do not go back, a call comes with at least the total of the one before it. -/
theorem totalBefore_le {earlier later : List Epoch} {call : Epoch}
    (h : ((earlier ++ call :: later).map (·.snapshot.total)).Pairwise (· ≤ ·)) :
    totalBefore earlier ≤ call.snapshot.total := by
  rcases List.eq_nil_or_concat earlier with rfl | ⟨init, last, rfl⟩
  · exact Nat.zero_le _
  · rw [List.concat_eq_append] at h ⊢
    rw [totalBefore_concat]
    rw [List.map_append, List.pairwise_append] at h
    exact h.2.2 _ (List.mem_map_of_mem (by simp)) _ List.mem_cons_self

theorem budgetAtFirst_append {id : TaskId} {budget : ℕ} (h : budgetAtFirst past id = some budget)
    (more : List Sighting) : budgetAtFirst (past ++ more) id = some budget := by
  obtain ⟨first, hfirst, hbudget⟩ := Option.bind_eq_some_iff.mp h
  rw [budgetAtFirst, List.find?_append, hfirst, Option.some_or]
  exact hbudget

theorem budgetAtFirst_of_unseen (now : Sighting) (h : ∀ s ∈ past, s.task.id ≠ now.task.id) :
    budgetAtFirst (past ++ [now]) now.task.id = now.budgets.get? now.task.name := by
  have hfind : past.find? (·.task.id = now.task.id) = none := by
    rw [List.find?_eq_none]
    intro s hs
    rw [decide_eq_true_eq]
    exact h s hs
  have hfirst : [now].find? (·.task.id = now.task.id) = some now :=
    List.find?_cons_of_pos (decide_eq_true rfl)
  rw [budgetAtFirst, List.find?_append, hfind, Option.none_or, hfirst]
  rfl

/-- An identity that was seen has a slot, so one without a slot was never seen. -/
theorem Remembers.unseen (h : Remembers past held) {id : TaskId} (hnew : ∀ s ∈ held, s.id ≠ id) :
    ∀ s ∈ past, s.task.id ≠ id := by
  intro s hs hid
  obtain ⟨t, ht, htid⟩ := List.mem_map.mp (h.seen s hs)
  exact hnew t ht (htid.trans hid)

/-- The slot of an accounted task tells what its record needs, and the slots held afterwards
remember the task as well. -/
theorem Remembers.accounted (h : Remembers past held) (hlayout : Layout r held free)
    {budgets : StackBudgets} {task : TaskStatus} {before : Slot}
    (haccounted : Layout.Accounted held free budgets task before held' free') :
    Remembers (past ++ [⟨task, budgets⟩]) held' ∧
    budgetAtFirst (past ++ [⟨task, budgets⟩]) task.id = some before.stackBudget ∧
    runtimeBefore past task.id = before.lastRuntime := by
  cases haccounted with
  | @known i _ hs hid =>
    have hbefore : before ∈ held := List.mem_of_getElem? hs
    have hbudget := h.budget before hbefore
    have hruntime := h.runtime before hbefore
    have hids : (held.set i { before with lastRuntime := task.runtime }).map (·.id) =
        held.map (·.id) := map_set_of_eq hs rfl
    refine ⟨⟨?_, ?_, ?_⟩, ?_, ?_⟩
    · -- no identity is added, since that of the task has a slot already
      intro s hs'
      rw [hids]
      rw [List.mem_append, List.mem_singleton] at hs'
      rcases hs' with hs' | rfl
      · exact h.seen s hs'
      · exact List.mem_map.mpr ⟨before, hbefore, hid⟩
    · intro s hs'
      rcases hlayout.mem_set hs hs' with rfl | ⟨hs', -⟩
      · exact budgetAtFirst_append hbudget _
      · exact budgetAtFirst_append (h.budget s hs') _
    · -- the task is now the last entry of its own identity and of no other
      intro s hs'
      rw [runtimeBefore_append]
      rcases hlayout.mem_set hs hs' with rfl | ⟨hs', hother⟩
      · exact if_pos hid.symm
      · rw [if_neg (fun heq => hother (heq.symm.trans hid.symm))]
        exact h.runtime s hs'
    · rw [← hid]
      exact budgetAtFirst_append hbudget _
    · rw [← hid]
      exact hruntime
  | placed hnew hbudget =>
    -- the task is the first entry of its identity, so its slot starts from nothing
    have hunseen := h.unseen hnew
    have hfirst := (budgetAtFirst_of_unseen ⟨task, budgets⟩ hunseen).trans hbudget
    refine ⟨⟨?_, ?_, ?_⟩, hfirst, runtimeBefore_of_unseen hunseen⟩
    · intro s hs
      rw [List.map_append, List.mem_append]
      rw [List.mem_append, List.mem_singleton] at hs
      rcases hs with hs | rfl
      · exact Or.inl (h.seen s hs)
      · exact Or.inr (List.mem_singleton.mpr rfl)
    · intro s hs
      rw [List.mem_append, List.mem_singleton] at hs
      rcases hs with hs | rfl
      · exact budgetAtFirst_append (h.budget s hs) _
      · exact hfirst
    · intro s hs
      rw [runtimeBefore_append]
      rw [List.mem_append, List.mem_singleton] at hs
      rcases hs with hs | rfl
      · rw [if_neg (fun heq => hnew s hs heq.symm)]
        exact h.runtime s hs
      · exact if_pos rfl

/-! ### One call -/

theorem Explained.nil (past : List Sighting) (deltaTotal : ℕ) :
    Explained past [] deltaTotal [] := by
  refine ⟨rfl, ?_⟩
  intro j s r hs
  simp at hs

theorem Explained.cons {now : Sighting} {later : List Sighting} {deltaTotal : ℕ} {first : Record}
    {records : List Record} (hfirst : Explains past now deltaTotal first)
    (h : Explained (past ++ [now]) later deltaTotal records) :
    Explained past (now :: later) deltaTotal (first :: records) := by
  obtain ⟨hlength, hexplains⟩ := h
  refine ⟨?_, ?_⟩
  · rw [List.length_cons, List.length_cons, hlength]
  · intro j s r hs hr
    cases j with
    | zero =>
      rw [List.getElem?_cons_zero, Option.some.injEq] at hs hr
      subst hs hr
      rw [List.take_zero, List.append_nil]
      exact hfirst
    | succ j =>
      rw [List.getElem?_cons_succ] at hs hr
      rw [List.take_succ_cons, ← List.singleton_append, ← List.append_assoc]
      exact hexplains j s r hs hr

theorem account_explained (budgets : StackBudgets) (deltaTotal : ℕ) (tasks : List TaskStatus) :
    ∀ {r : Registry} {held : List Slot} {free : ℕ} {past : List Sighting} {records : List Record},
    Layout r held free → Remembers past held →
    (account budgets deltaTotal tasks r).answer = .ok records →
    Explained past (tasks.map (⟨·, budgets⟩)) deltaTotal records ∧
    ∃ held' free', Layout (account budgets deltaTotal tasks r).state held' free' ∧
      Remembers (past ++ tasks.map (⟨·, budgets⟩)) held' := by
  -- on the tasks, for every past: the task that is accounted becomes the last of the past
  induction tasks with
  | nil =>
    intro r held free past records hlayout hremembers hanswer
    obtain rfl : [] = records := Except.ok.inj hanswer
    refine ⟨Explained.nil past deltaTotal, held, free, hlayout, ?_⟩
    rw [List.map_nil, List.append_nil]
    exact hremembers
  | cons task rest ih =>
    intro r held free past records hlayout hremembers hanswer
    rcases hlayout.account_cons budgets deltaTotal task rest with
      ⟨e, -, herror, -⟩ | ⟨before, held₁, free₁, r₁, haccounted, hlayout₁, hanswer₁, hstate₁⟩
    · rw [herror] at hanswer
      cases hanswer
    · obtain ⟨hremembers₁, hbudget, hruntime⟩ := hremembers.accounted hlayout haccounted
      rw [hanswer₁] at hanswer
      rcases hlater : (account budgets deltaTotal rest r₁).answer with e | later
      · rw [hlater] at hanswer
        cases hanswer
      · rw [hlater] at hanswer
        obtain rfl : record before task deltaTotal :: later = records := Except.ok.inj hanswer
        obtain ⟨hexplained, held', free', hlayout', hremembers'⟩ := ih hlayout₁ hremembers₁ hlater
        have hfirst : Explains past ⟨task, budgets⟩ deltaTotal (record before task deltaTotal) :=
          ⟨rfl, rfl, rfl, rfl, by rw [hruntime]; rfl, hbudget⟩
        refine ⟨Explained.cons hfirst hexplained, held', free', ?_, ?_⟩
        · rw [hstate₁]
          exact hlayout'
        · rw [List.append_assoc] at hremembers'
          exact hremembers'

/-- A registry that remembers calls: their entries by its slots, and the last total. -/
def Keeps (earlier : List Epoch) (r : Registry) : Prop :=
  r.lastTotal = totalBefore earlier ∧
  ∃ held free, Layout r held free ∧ Remembers (sightings earlier) held

variable {earlier : List Epoch} {records : List Record}

theorem create_keeps (capacity : ℕ) : Keeps [] (create capacity) :=
  ⟨rfl, [], capacity, create_layout capacity, nofun, nofun, nofun⟩

/-- A call that succeeds answers by the calls before it, and is remembered like them. -/
theorem Keeps.recordEpoch (h : Keeps earlier r) (call : Epoch)
    (hanswer : (r.recordEpoch call.snapshot call.budgets call.threshold).answer = .ok records) :
    Accounts earlier call records ∧
    Keeps (earlier ++ [call])
      (r.recordEpoch call.snapshot call.budgets call.threshold).state := by
  obtain ⟨htotal, held, free, hlayout, hremembers⟩ := h
  rcases r.recordEpoch_cases call.snapshot call.budgets call.threshold with
    ⟨-, hrefused⟩ | ⟨e, herror, -, -⟩ | ⟨all, haccount, hok, hstate⟩
  · rw [hrefused] at hanswer
    cases hanswer
  · rw [herror] at hanswer
    cases hanswer
  · rw [hok] at hanswer
    obtain rfl := Except.ok.inj hanswer
    obtain ⟨hexplained, held', free', hlayout', hremembers'⟩ :=
      account_explained _ _ _ hlayout hremembers haccount
    rw [htotal] at hexplained
    -- the tasks are accounted in a short epoch too, only its records are withheld
    refine ⟨⟨fun hshort => ?_, fun hlong => ?_⟩, ?_⟩
    · rw [htotal]
      exact if_neg (Nat.not_le_of_lt hshort)
    · rw [htotal, if_pos hlong]
      exact hexplained
    · rw [hstate]
      refine ⟨?_, held', free', ⟨hlayout'.slots_eq, hlayout'.distinct⟩, ?_⟩
      · exact (totalBefore_concat earlier call).symm
      · rw [sightings, List.flatMap_append, List.flatMap_singleton]
        exact hremembers'

/-! ### All calls -/

theorem Keeps.answers (calls : List Epoch) : ∀ {earlier : List Epoch} {r : Registry}
    {outs : List (List Record)}, Keeps earlier r → r.answers calls = outs.map .ok →
    outs.length = calls.length ∧
    ∀ k call records, calls[k]? = some call → outs[k]? = some records →
      Accounts (earlier ++ calls.take k) call records := by
  induction calls with
  | nil =>
    intro earlier r outs _ houts
    rw [List.map_eq_nil_iff.mp houts.symm]
    refine ⟨rfl, ?_⟩
    intro k call records hcall
    simp at hcall
  | cons call rest ih =>
    intro earlier r outs h houts
    rcases outs with _ | ⟨records, later⟩
    · cases houts
    · rw [Registry.answers, List.map_cons, List.cons.injEq] at houts
      obtain ⟨hanswer, hlater⟩ := houts
      obtain ⟨haccounts, hkeeps⟩ := h.recordEpoch call hanswer
      obtain ⟨hlength, hall⟩ := ih hkeeps hlater
      refine ⟨?_, ?_⟩
      · rw [List.length_cons, List.length_cons, hlength]
      · intro k call' records' hcall hrecords
        cases k with
        | zero =>
          rw [List.getElem?_cons_zero, Option.some.injEq] at hcall hrecords
          subst hcall hrecords
          rw [List.take_zero, List.append_nil]
          exact haccounts
        | succ k =>
          rw [List.getElem?_cons_succ] at hcall hrecords
          rw [List.take_succ_cons, ← List.singleton_append, ← List.append_assoc]
          exact hall k call' records' hcall hrecords

/-- **The history.** When all calls on a registry that was empty succeed, each is answered by
what the calls before it have shown: nothing for a short epoch, and otherwise one record for
each entry, with its progress since the last entry of its identity and the budget found at
the first. -/
theorem answers_accounted {capacity : ℕ} {calls : List Epoch} {outs : List (List Record)}
    (h : (create capacity).answers calls = outs.map .ok) :
    outs.length = calls.length ∧
    ∀ k call records, calls[k]? = some call → outs[k]? = some records →
      Accounts (calls.take k) call records :=
  (create_keeps capacity).answers calls h

/-- Three calls: in the first a task comes twice, with another name and a runtime that goes
back; the second is short; in the third the budgets are gone. -/
def renamed : List Epoch :=
  [⟨⟨[⟨⟨7⟩, "worker", 1, 40, 100⟩, ⟨⟨7⟩, "helper", 1, 10, 100⟩], 100⟩, ⟨[("worker", 512)]⟩, 10⟩,
    ⟨⟨[⟨⟨9⟩, "idle", 1, 5, 60⟩, ⟨⟨7⟩, "idle", 1, 30, 95⟩], 105⟩, ⟨[("idle", 64)]⟩, 10⟩,
    ⟨⟨[⟨⟨7⟩, "worker", 1, 70, 90⟩], 200⟩, StackBudgets.empty, 10⟩]

theorem answers_renamed :
    (create 2).answers renamed =
      [[⟨7, "worker", 512, 100, 40, 100⟩, ⟨7, "helper", 512, 100, 0, 100⟩], [],
        [⟨7, "worker", 512, 90, 40, 95⟩]].map .ok ∧
    Accounts (renamed.take 2) ⟨⟨[⟨⟨7⟩, "worker", 1, 70, 90⟩], 200⟩, StackBudgets.empty, 10⟩
      [⟨7, "worker", 512, 90, 40, 95⟩] := by
  have hanswers : (create 2).answers renamed =
      [[⟨7, "worker", 512, 100, 40, 100⟩, ⟨7, "helper", 512, 100, 0, 100⟩], [],
        [⟨7, "worker", 512, 90, 40, 95⟩]].map .ok := by rfl
  obtain ⟨-, hall⟩ := answers_accounted hanswers
  exact ⟨hanswers, hall 2 _ _ rfl rfl⟩

end Registry

end Telemetry
