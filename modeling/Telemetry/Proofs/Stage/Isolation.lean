/-
A transform stage whose law fails on some samples.

The stage handles samples while the consumer of its channel receives, in any order. A sample on
which the law fails leaves the channel as it was, and the stage remembers nothing of it but that
it has been handled. So all the others fare as if it had never come.

* `Transform.Operation`, `Transform.perform` — what the stage and the consumer do;
* `Transform.handle_of_error`, `Transform.handle_of_room`, `Transform.handle_of_full` — what
  becomes of one sample;
* `Transform.Serves` — what a use of the stage does not change, and the number it counts;
* `Transform.use_filter` — a use without the samples on which the law fails;
* `Transform.failures_isolated` — every answer of the stage, and the two uses compared.

Design notes: the two uses differ in one counter only. So one of them is the other with some
samples counted ahead, and an operation commutes with counting ahead.
-/
import Mathlib.Data.Nat.Notation
import Telemetry.Proofs.Stage.Outcome

namespace Telemetry

namespace Transform

/-- What the stage and the consumer of its channel do. -/
inductive Operation where
  | handle (s : Sample)
  | receive

/-- The answer to an operation. -/
inductive Answer where
  | handled (outcome : Except PipelineError ActuatorState)
  | received (receipt : Receipt ActuatorState)

namespace Operation

def isHandle : Operation → Bool
  | .handle _ => true
  | .receive => false

/-- Whether an operation hands over a sample on which the law fails. -/
def isLawless (law : Sample → Except Error Command) : Operation → Bool
  | .handle s => !(law s).isOk
  | .receive => false

end Operation

/-- One operation and its answer. -/
def perform (c : Transform × Channel ActuatorState) :
    Operation → Answer × (Transform × Channel ActuatorState)
  | .handle s => (.handled (c.1.handle c.2 s).answer, (c.1.handle c.2 s).state)
  | .receive => (.received c.2.receive.1, (c.1, c.2.receive.2))

/-- Operations one after the other, each with its answer. -/
def use (c : Transform × Channel ActuatorState) :
    List Operation → List (Operation × Answer) × (Transform × Channel ActuatorState)
  | [] => ([], c)
  | op :: rest =>
    let done := perform c op
    let later := use done.2 rest
    ((op, done.1) :: later.1, later.2)

variable {t : Transform} {tx : Channel ActuatorState} {s : Sample}

/-! ### One sample -/

/-- A sample on which the law fails is counted, and nothing else comes of it. -/
theorem handle_of_error {e : Error} (tx : Channel ActuatorState) (hlaw : t.law s = .error e) :
    (t.handle tx s).answer = .error (.controlLaw e.message) ∧
    (t.handle tx s).state = ({ t with processed := t.processed + 1 }, tx) := by
  have hhandled := t.handle_handled tx s
  generalize t.handle tx s = handled at hhandled ⊢
  cases hhandled with
  | failed hlaw' =>
    obtain rfl := Except.error.inj (hlaw'.symm.trans hlaw)
    exact ⟨rfl, rfl⟩
  | taken hlaw' _ _ => exact absurd (hlaw'.symm.trans hlaw) (by simp)
  | dropped hlaw' _ _ => exact absurd (hlaw'.symm.trans hlaw) (by simp)
  | refused hlaw' _ => exact absurd (hlaw'.symm.trans hlaw) (by simp)

/-- A state for which there is room is queued, and it is the answer. -/
theorem handle_of_room {c : Command} (hlaw : t.law s = .ok c) (halive : tx.receiverAlive = true)
    (hroom : tx.queue.length < tx.capacity) :
    (t.handle tx s).answer = .ok ⟨s, c⟩ ∧
    (t.handle tx s).state = ({ t with processed := t.processed + 1 },
      { tx with queue := tx.queue ++ [⟨s, c⟩], sent := tx.sent + 1 }) := by
  have hhandled := t.handle_handled tx s
  generalize t.handle tx s = handled at hhandled ⊢
  cases hhandled with
  | failed hlaw' => exact absurd (hlaw'.symm.trans hlaw) (by simp)
  | taken hlaw' _ _ =>
    obtain rfl := Except.ok.inj (hlaw'.symm.trans hlaw)
    exact ⟨rfl, rfl⟩
  | dropped _ _ hfull => exact absurd hroom (Nat.not_lt_of_le hfull)
  | refused _ hgone => exact absurd (halive.symm.trans hgone) (by simp)

/-- A state for which there is no room is dropped, and the drop is the answer. -/
theorem handle_of_full {c : Command} (hlaw : t.law s = .ok c) (halive : tx.receiverAlive = true)
    (hfull : tx.capacity ≤ tx.queue.length) :
    (t.handle tx s).answer = .error (.channelFull tx.name) ∧
    (t.handle tx s).state = ({ t with processed := t.processed + 1 },
      { tx with dropped := tx.dropped + 1 }) := by
  have hhandled := t.handle_handled tx s
  generalize t.handle tx s = handled at hhandled ⊢
  cases hhandled with
  | failed hlaw' => exact absurd (hlaw'.symm.trans hlaw) (by simp)
  | taken _ _ hroom => exact absurd hroom (Nat.not_lt_of_le hfull)
  | dropped _ _ _ => exact ⟨rfl, rfl⟩
  | refused _ hgone => exact absurd (halive.symm.trans hgone) (by simp)

/-! ### Every use -/

/-- The stage `t` has handled `handled` samples under `law`, for the channel `tx` of a given name
and capacity, whose consumer is there. -/
structure Serves (law : Sample → Except Error Command) (name : String) (capacity handled : ℕ)
    (t : Transform) (tx : Channel ActuatorState) : Prop where
  law_eq : t.law = law
  name_eq : tx.name = name
  capacity_eq : tx.capacity = capacity
  bounded : tx.queue.length ≤ capacity
  heard : tx.receiverAlive = true
  processed_eq : t.processed = handled

variable {law : Sample → Except Error Command} {name : String} {capacity handled : ℕ}
  {c : Transform × Channel ActuatorState}

theorem Serves.create (law : Sample → Except Error Command) (description name : String)
    (capacity : ℕ) :
    Serves law name capacity 0 ⟨law, description, 0⟩
      (Channel.create ActuatorState name capacity) :=
  ⟨rfl, rfl, rfl, Nat.zero_le _, rfl, rfl⟩

namespace Serves

theorem failed {e : Error} (h : Serves law name capacity handled t tx) (hs : law s = .error e) :
    (t.handle tx s).answer = .error (.controlLaw e.message) ∧ (t.handle tx s).state.2 = tx := by
  obtain ⟨hanswer, hstate⟩ := handle_of_error tx (t := t) (by rw [h.law_eq, hs])
  rw [hanswer, hstate]
  exact ⟨rfl, rfl⟩

theorem taken {u : Command} (h : Serves law name capacity handled t tx) (hs : law s = .ok u)
    (hlt : tx.queue.length < capacity) :
    (t.handle tx s).answer = .ok ⟨s, u⟩ ∧
    (t.handle tx s).state.2 =
      { tx with queue := tx.queue ++ [⟨s, u⟩], sent := tx.sent + 1 } := by
  rw [← h.capacity_eq] at hlt
  obtain ⟨hanswer, hstate⟩ := handle_of_room (t := t) (by rw [h.law_eq, hs]) h.heard hlt
  rw [hanswer, hstate]
  exact ⟨rfl, rfl⟩

theorem dropped {u : Command} (h : Serves law name capacity handled t tx) (hs : law s = .ok u)
    (hle : capacity ≤ tx.queue.length) :
    (t.handle tx s).answer = .error (.channelFull name) ∧
    (t.handle tx s).state.2 = { tx with dropped := tx.dropped + 1 } := by
  rw [← h.capacity_eq] at hle
  obtain ⟨hanswer, hstate⟩ := handle_of_full (t := t) (by rw [h.law_eq, hs]) h.heard hle
  rw [hanswer, hstate, h.name_eq]
  exact ⟨rfl, rfl⟩

/-- An error of the law is an answer to samples on which the law fails only. -/
theorem fails_iff (h : Serves law name capacity handled t tx) (s : Sample) :
    (∃ reason, (t.handle tx s).answer = .error (.controlLaw reason)) ↔
      ∃ e, law s = .error e := by
  constructor
  · rintro ⟨reason, hanswer⟩
    rcases hs : law s with e | u
    · exact ⟨e, rfl⟩
    · rcases Nat.lt_or_ge tx.queue.length capacity with hlt | hle
      · rw [(h.taken hs hlt).1] at hanswer
        cases hanswer
      · rw [(h.dropped hs hle).1] at hanswer
        cases hanswer
  · rintro ⟨e, hs⟩
    exact ⟨_, (h.failed hs).1⟩

end Serves

theorem perform_serves (h : Serves law name capacity handled c.1 c.2) (op : Operation) :
    Serves law name capacity (handled + op.isHandle.toNat) (perform c op).2.1
      (perform c op).2.2 := by
  obtain ⟨hlaw, hname, hcapacity, hbounded, hheard, hprocessed⟩ := h
  cases op with
  | handle s =>
    have hcount : c.1.processed + 1 = handled + 1 := congrArg (· + 1) hprocessed
    simp only [perform]
    have hhandled := c.1.handle_handled c.2 s
    generalize c.1.handle c.2 s = step at hhandled ⊢
    cases hhandled with
    | failed _ => exact ⟨hlaw, hname, hcapacity, hbounded, hheard, hcount⟩
    | taken _ _ hroom =>
      refine ⟨hlaw, hname, hcapacity, ?_, hheard, hcount⟩
      rw [List.length_append, List.length_singleton, ← hcapacity]
      exact hroom
    | dropped _ _ _ => exact ⟨hlaw, hname, hcapacity, hbounded, hheard, hcount⟩
    | refused _ _ => exact ⟨hlaw, hname, hcapacity, hbounded, hheard, hcount⟩
  | receive =>
    simp only [perform]
    have hreceived := c.2.receive_received
    generalize c.2.receive = received at hreceived ⊢
    cases hreceived with
    | item hqueue =>
      refine ⟨hlaw, hname, hcapacity, ?_, hheard, hprocessed⟩
      rw [hqueue, List.length_cons] at hbounded
      exact Nat.le_of_succ_le hbounded
    | waiting _ _ => exact ⟨hlaw, hname, hcapacity, hbounded, hheard, hprocessed⟩
    | closed _ _ => exact ⟨hlaw, hname, hcapacity, hbounded, hheard, hprocessed⟩

theorem use_serves (ops : List Operation) : ∀ {handled : ℕ}
    {c : Transform × Channel ActuatorState}, Serves law name capacity handled c.1 c.2 →
    Serves law name capacity (handled + ops.countP Operation.isHandle) (use c ops).2.1
      (use c ops).2.2 := by
  induction ops with
  | nil => exact fun h => h
  | cons op rest ih =>
    intro handled c h
    have hrest := ih (perform_serves h op)
    have hcount : handled + op.isHandle.toNat + rest.countP Operation.isHandle =
        handled + (op :: rest).countP Operation.isHandle := by
      rw [List.countP_cons]
      cases op.isHandle
      · simp
      · simp
        omega
    rw [hcount] at hrest
    exact hrest

/-! ### Two uses -/

/-- The same stage and channel, with `d` more samples counted. -/
def ahead (d : ℕ) (c : Transform × Channel ActuatorState) : Transform × Channel ActuatorState :=
  ({ c.1 with processed := c.1.processed + d }, c.2)

theorem ahead_ahead (d : ℕ) (c : Transform × Channel ActuatorState) :
    ahead d (ahead 1 c) = ahead (d + 1) c := by
  rw [ahead, ahead, ahead, Nat.add_assoc, Nat.add_comm 1 d]

/-- An operation does the same with some samples counted ahead. -/
theorem perform_ahead (d : ℕ) (c : Transform × Channel ActuatorState) (op : Operation) :
    perform (ahead d c) op = ((perform c op).1, ahead d (perform c op).2) := by
  cases op with
  | handle s =>
    -- the outcome is read off the law and the channel, and neither of them counts samples
    have hcount : c.1.processed + d + 1 = c.1.processed + 1 + d := Nat.add_right_comm _ _ _
    rcases hlaw : c.1.law s with e | u
    · simp only [perform, ahead, handle, apply, hlaw, hcount]
    · simp only [perform, ahead, handle, apply, hlaw, hcount]
      rcases c.2.send ⟨s, u⟩ with ⟨e | u, tx⟩ <;> rfl
  | receive => rfl

/-- A sample on which the law fails is one sample counted ahead. -/
theorem perform_of_lawless {op : Operation} (hlaw : c.1.law = law)
    (h : op.isLawless law = true) : (perform c op).2 = ahead 1 c := by
  cases op with
  | handle s =>
    rcases hs : law s with e | u
    · exact (handle_of_error c.2 (by rw [hlaw, hs])).2
    · simp [Operation.isLawless, hs, Except.isOk, Except.toBool] at h
  | receive => cases h

theorem perform_law (c : Transform × Channel ActuatorState) (op : Operation) :
    (perform c op).2.1.law = c.1.law := by
  cases op with
  | handle s =>
    simp only [perform]
    have hhandled := c.1.handle_handled c.2 s
    generalize c.1.handle c.2 s = step at hhandled ⊢
    cases hhandled <;> rfl
  | receive => rfl

/-- Without the samples on which the law fails, all other operations have the answers that they
had, and the only difference left is in the number of samples handled. -/
theorem use_filter (law : Sample → Except Error Command) (ops : List Operation) : ∀ (d : ℕ)
    {c : Transform × Channel ActuatorState}, c.1.law = law →
    (use c (ops.filter fun op => !op.isLawless law)).1 =
      (use (ahead d c) ops).1.filter (fun done => !done.1.isLawless law) ∧
    (use (ahead d c) ops).2 =
      ahead (d + ops.countP (Operation.isLawless law))
        (use c (ops.filter fun op => !op.isLawless law)).2 := by
  induction ops with
  | nil => exact fun _ _ _ => ⟨rfl, rfl⟩
  | cons op rest ih =>
    intro d c hlaw
    rcases hop : op.isLawless law with _ | _
    · -- both uses do the operation, and have the same answer
      obtain ⟨hanswers, hstate⟩ := @ih d (perform c op).2 ((perform_law c op).trans hlaw)
      have hkept : (op :: rest).filter (fun op => !op.isLawless law) =
          op :: rest.filter fun op => !op.isLawless law := by simp [hop]
      have hcount : (op :: rest).countP (Operation.isLawless law) =
          rest.countP (Operation.isLawless law) := by simp [hop]
      rw [hkept, hcount]
      simp only [use, perform_ahead]
      refine ⟨?_, hstate⟩
      rw [hanswers]
      simp [hop]
    · -- the full use alone does it, and is one more sample ahead from here on
      obtain ⟨hanswers, hstate⟩ := @ih (d + 1) c hlaw
      have hkept : (op :: rest).filter (fun op => !op.isLawless law) =
          rest.filter fun op => !op.isLawless law := by simp [hop]
      have hcount : d + (op :: rest).countP (Operation.isLawless law) =
          d + 1 + rest.countP (Operation.isLawless law) := by
        rw [List.countP_cons_of_pos hop]
        omega
      rw [hkept, hcount]
      simp only [use, perform_ahead, perform_of_lawless hlaw hop, ahead_ahead]
      refine ⟨?_, hstate⟩
      rw [hanswers]
      simp [hop]

/-- Failures of the law are isolated from each other and from everything else. After every use,
handling a sample fails with an error of the law exactly when the law fails on that sample, and
then the channel is left as it was; otherwise the state of the sample is queued if there is room,
and else dropped and counted. Without the samples on which the law fails, the other operations
have the same answers and the channel ends the same, while as many samples fewer have been
handled. -/
theorem failures_isolated (law : Sample → Except Error Command) (description name : String)
    (capacity : ℕ) (ops : List Operation) :
    let create : Transform × Channel ActuatorState :=
      (⟨law, description, 0⟩, Channel.create ActuatorState name capacity)
    let used := use create ops
    let t := used.2.1
    let tx := used.2.2
    let kept := use create (ops.filter fun op => !op.isLawless law)
    (∀ s, (∃ reason, (t.handle tx s).answer = .error (.controlLaw reason)) ↔
      ∃ e, law s = .error e) ∧
    (∀ s e, law s = .error e → (t.handle tx s).answer = .error (.controlLaw e.message) ∧
      (t.handle tx s).state.2 = tx) ∧
    (∀ s c, law s = .ok c → tx.queue.length < capacity → (t.handle tx s).answer = .ok ⟨s, c⟩ ∧
      (t.handle tx s).state.2 = { tx with queue := tx.queue ++ [⟨s, c⟩], sent := tx.sent + 1 }) ∧
    (∀ s c, law s = .ok c → capacity ≤ tx.queue.length →
      (t.handle tx s).answer = .error (.channelFull name) ∧
      (t.handle tx s).state.2 = { tx with dropped := tx.dropped + 1 }) ∧
    tx.queue.length ≤ capacity ∧
    t.processed = ops.countP Operation.isHandle ∧
    kept.1 = used.1.filter (fun done => !done.1.isLawless law) ∧
    kept.2.2 = tx ∧
    t.processed = kept.2.1.processed + ops.countP (Operation.isLawless law) := by
  intro create used t tx kept
  have h : Serves law name capacity (0 + ops.countP Operation.isHandle) t tx :=
    use_serves (c := create) ops (Serves.create law description name capacity)
  obtain ⟨hanswers, hstate⟩ := use_filter law ops 0 (c := create) rfl
  rw [Nat.zero_add] at h hstate
  exact ⟨h.fails_iff, fun _ _ => h.failed, fun _ _ => h.taken, fun _ _ => h.dropped, h.bounded,
    h.processed_eq, hanswers, (congrArg Prod.snd hstate).symm, congrArg (·.1.processed) hstate⟩

/-- A law that fails on one sample. -/
def fussy (s : Sample) : Except Error Command := if s = 5 then .error (.script "five") else .ok s

/-- The sample on which the law fails takes no place, so the next state finds the only place
taken by the first and no other. -/
theorem failures_isolated_fussy :
    let create : Transform × Channel ActuatorState :=
      (⟨fussy, "fussy", 0⟩, Channel.create ActuatorState "states" 1)
    let used := use create [.handle 1, .handle 5]
    (used.2.1.handle used.2.2 5).answer = .error (.controlLaw "Script error: five") ∧
    (used.2.1.handle used.2.2 5).state.2 = used.2.2 ∧
    (used.2.1.handle used.2.2 2).answer = .error (.channelFull "states") ∧
    used.2.2 = (use create [.handle 1]).2.2 := by
  intro create used
  obtain ⟨-, hfailed, -, hfull, -, -, -, hkept, -⟩ :=
    failures_isolated fussy "fussy" "states" 1 [.handle 1, .handle 5]
  obtain ⟨hanswer, hleft⟩ := hfailed 5 (.script "five") rfl
  exact ⟨hanswer, hleft, (hfull 2 2 rfl (by decide)).1, hkept.symm⟩

end Transform

end Telemetry
