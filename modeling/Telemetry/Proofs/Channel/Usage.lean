/-
A channel in use, from its creation until both of its ends are gone.

The producer offers items, the consumer takes them, and either of them may go away at any
time. What has been done is kept as a list of deeds with their answers, and it decides all that
the channel shows: what is queued, what the counters say, and what the next offer and the next
receive will be answered.

* `Channel.Operation`, `Channel.perform` — what the two ends do, and what comes of it;
* `Channel.use` — operations one after the other, with the deeds that were done;
* `Channel.Accounted` — the queue, the counters and the ends agree with the deeds;
* `Channel.use_accounted` — they do so after every use;
* `Channel.use_answers` — order, bounds, counters and answers after every use.

Design notes: an end that is gone does nothing more. A receive without a limit that would wait
is not begun, since nothing else happens to the channel until it has an answer.
-/
import Mathlib.Data.Nat.Notation
import Telemetry.Proofs.Stage.Outcome

namespace Telemetry

namespace Channel

variable {α : Type}

/-- What an end of a channel does; a receive is `limited` if it gives up after some time. -/
inductive Operation (α : Type) where
  | send (a : α)
  | receive (limited : Bool)
  | dropSender
  | dropReceiver

/-- What was done to a channel, with the answer; a receive that gave up has no item. -/
inductive Deed (α : Type) where
  | offered (a : α) (answer : Except PipelineError Unit)
  | received (answer : Except PipelineError (Option α))
  | senderGone
  | receiverGone

/-- One operation, if its end is there and need not wait; the deed, if there is one. -/
def perform (c : Channel α) : Operation α → Option (Deed α) × Channel α
  | .send a => if c.senderAlive then (some (.offered a (c.send a).1), (c.send a).2) else (none, c)
  | .receive limited =>
    if c.receiverAlive then
      match c.receive with
      | (.item a, rx) => (some (.received (.ok (some a))), rx)
      | (.waiting, rx) => (if limited then some (.received (.ok none)) else none, rx)
      | (.closed e, rx) => (some (.received (.error e)), rx)
    else (none, c)
  | .dropSender => if c.senderAlive then (some .senderGone, c.dropSender) else (none, c)
  | .dropReceiver => if c.receiverAlive then (some .receiverGone, c.dropReceiver) else (none, c)

/-- Operations one after the other, and what was done. -/
def use (c : Channel α) : List (Operation α) → List (Deed α) × Channel α
  | [] => ([], c)
  | op :: rest =>
    let done := c.perform op
    let later := use done.2 rest
    (done.1.toList ++ later.1, later.2)

/-- What a probe of a channel reads: the items accepted and the items dropped. -/
def counters (c : Channel α) : ℕ × ℕ := (c.sent, c.dropped)

/-! ### What has been done -/

namespace Deed

def isOffer : Deed α → Bool
  | .offered .. => true
  | _ => false

def isOverrun : Deed α → Bool
  | .offered _ (.error (.channelFull _)) => true
  | _ => false

def isRefusal : Deed α → Bool
  | .offered _ (.error (.channelClosed _)) => true
  | _ => false

/-- Whether a receive has failed. -/
def isEnd : Deed α → Bool
  | .received (.error _) => true
  | _ => false

def accepted? : Deed α → Option α
  | .offered a (.ok ()) => some a
  | _ => none

def received? : Deed α → Option α
  | .received (.ok item) => item
  | _ => none

end Deed

/-- The items that were offered and accepted, in order. -/
def accepted (past : List (Deed α)) : List α := past.filterMap Deed.accepted?

/-- The items that were received, in order. -/
def received (past : List (Deed α)) : List α := past.filterMap Deed.received?

variable {c : Channel α} {past : List (Deed α)} {name : String} {capacity : ℕ}

theorem accepted_concat (past : List (Deed α)) (deed : Deed α) :
    accepted (past ++ [deed]) = accepted past ++ deed.accepted?.toList := by
  rw [accepted, accepted, List.filterMap_append, List.filterMap_cons]
  cases deed.accepted? <;> rfl

theorem received_concat (past : List (Deed α)) (deed : Deed α) :
    received (past ++ [deed]) = received past ++ deed.received?.toList := by
  rw [received, received, List.filterMap_append, List.filterMap_cons]
  cases deed.received? <;> rfl

theorem countP_concat (p : Deed α → Bool) (past : List (Deed α)) (deed : Deed α) :
    (past ++ [deed]).countP p = past.countP p + (p deed).toNat := by
  rw [List.countP_append, List.countP_singleton]
  cases p deed <;> rfl

/-! ### One operation -/

/-- Everything that an operation on `c` can do. -/
inductive Performed (c : Channel α) : Option (Deed α) × Channel α → Prop
  | idle : Performed c (none, c)
  | taken {a : α} (hsender : c.senderAlive = true) (hroom : c.queue.length < c.capacity) :
      Performed c (some (.offered a (.ok ())),
        { c with queue := c.queue ++ [a], sent := c.sent + 1 })
  | dropped {a : α} : Performed c (some (.offered a (.error c.full)),
      { c with dropped := c.dropped + 1 })
  | refused {a : α} : Performed c (some (.offered a (.error c.closed)), c)
  | received {a : α} {rest : List α} (hqueue : c.queue = a :: rest) :
      Performed c (some (.received (.ok (some a))), { c with queue := rest })
  | gaveUp : Performed c (some (.received (.ok none)), c)
  | ended (hqueue : c.queue = []) (hgone : c.senderAlive = false) :
      Performed c (some (.received (.error c.closed)), c)
  | senderGone : Performed c (some .senderGone, c.dropSender)
  | receiverGone : Performed c (some .receiverGone, c.dropReceiver)

theorem perform_performed (c : Channel α) (op : Operation α) : Performed c (c.perform op) := by
  cases op with
  | send a =>
    by_cases hsender : c.senderAlive = true
    · rw [perform, if_pos hsender]
      have hoffered := c.send_offered a
      generalize c.send a = sent at hoffered ⊢
      cases hoffered with
      | refused => exact .refused
      | dropped => exact .dropped
      | taken _ hroom => exact .taken hsender hroom
    · rw [perform, if_neg hsender]
      exact .idle
  | receive limited =>
    by_cases hreceiver : c.receiverAlive = true
    · rw [perform, if_pos hreceiver]
      have hreceived := c.receive_received
      generalize c.receive = answer at hreceived ⊢
      cases hreceived with
      | item hqueue => exact .received hqueue
      | waiting =>
        cases limited with
        | false => exact .idle
        | true => exact .gaveUp
      | closed hqueue hgone => exact .ended hqueue hgone
    · rw [perform, if_neg hreceiver]
      exact .idle
  | dropSender =>
    by_cases hsender : c.senderAlive = true
    · rw [perform, if_pos hsender]
      exact .senderGone
    · rw [perform, if_neg hsender]
      exact .idle
  | dropReceiver =>
    by_cases hreceiver : c.receiverAlive = true
    · rw [perform, if_pos hreceiver]
      exact .receiverGone
    · rw [perform, if_neg hreceiver]
      exact .idle

/-- What a deed changes of a channel: `c` becomes `c'`. -/
structure Done (deed : Deed α) (c c' : Channel α) : Prop where
  name_eq : c'.name = c.name
  capacity_eq : c'.capacity = c.capacity
  bounded : c.queue.length ≤ c.capacity → c'.queue.length ≤ c.capacity
  queue_eq : c.queue ++ deed.accepted?.toList = deed.received?.toList ++ c'.queue
  sent_eq : c'.sent = c.sent + deed.accepted?.toList.length
  dropped_eq : c'.dropped = c.dropped + deed.isOverrun.toNat
  offer_eq : deed.isOffer.toNat =
    deed.accepted?.toList.length + deed.isOverrun.toNat + deed.isRefusal.toNat
  ended : deed.isEnd = true ∨ c.senderAlive = false ∧ c.queue = [] →
    c'.senderAlive = false ∧ c'.queue = []

/-- A deed that is no failed receive ends no channel; it only keeps an ended one so. -/
theorem Deed.ended_of {deed : Deed α} {p q : Prop} (hopen : deed.isEnd = false) (h : p → q) :
    deed.isEnd = true ∨ p → q := by
  rintro (hend | hp)
  · exact absurd (hopen.symm.trans hend) Bool.noConfusion
  · exact h hp

theorem Performed.done {deed : Deed α} {c' : Channel α} (h : Performed c (some deed, c')) :
    Done deed c c' := by
  cases h with
  | taken hsender hroom =>
    refine ⟨rfl, rfl, ?_, rfl, rfl, rfl, rfl, Deed.ended_of rfl ?_⟩
    · intro _
      show (c.queue ++ [_]).length ≤ c.capacity
      rw [List.length_append, List.length_singleton]
      exact hroom
    · -- nothing is offered any more once the sender is gone
      rintro ⟨hgone, -⟩
      exact absurd (hsender.symm.trans hgone) Bool.noConfusion
  | dropped =>
    exact ⟨rfl, rfl, id, List.append_nil _, rfl, rfl, rfl, Deed.ended_of rfl id⟩
  | refused =>
    exact ⟨rfl, rfl, id, List.append_nil _, rfl, rfl, rfl, Deed.ended_of rfl id⟩
  | received hqueue =>
    refine ⟨rfl, rfl, ?_, ?_, rfl, rfl, rfl, Deed.ended_of rfl ?_⟩
    · intro hbound
      rw [hqueue, List.length_cons] at hbound
      exact Nat.le_of_succ_le hbound
    · exact (List.append_nil _).trans hqueue
    · -- and nothing is received any more once the queue is empty as well
      rintro ⟨-, hempty⟩
      rw [hqueue] at hempty
      cases hempty
  | gaveUp =>
    exact ⟨rfl, rfl, id, List.append_nil _, rfl, rfl, rfl, Deed.ended_of rfl id⟩
  | ended hqueue hgone =>
    exact ⟨rfl, rfl, id, List.append_nil _, rfl, rfl, rfl, fun _ => ⟨hgone, hqueue⟩⟩
  | senderGone =>
    refine ⟨rfl, rfl, id, List.append_nil _, rfl, rfl, rfl, Deed.ended_of rfl ?_⟩
    rintro ⟨-, hempty⟩
    exact ⟨rfl, hempty⟩
  | receiverGone =>
    exact ⟨rfl, rfl, id, List.append_nil _, rfl, rfl, rfl, Deed.ended_of rfl id⟩

/-! ### All operations -/

/-- The channel `c`, created with a name and a capacity, agrees with the deeds `past`. -/
structure Accounted (name : String) (capacity : ℕ) (past : List (Deed α)) (c : Channel α) :
    Prop where
  name_eq : c.name = name
  capacity_eq : c.capacity = capacity
  bounded : c.queue.length ≤ c.capacity
  inOrder : accepted past = received past ++ c.queue
  sent_eq : c.sent = (accepted past).length
  dropped_eq : c.dropped = past.countP Deed.isOverrun
  offers_eq : past.countP Deed.isOffer = c.sent + c.dropped + past.countP Deed.isRefusal
  ended : ∀ deed ∈ past, deed.isEnd = true → c.senderAlive = false ∧ c.queue = []

theorem create_accounted (name : String) (capacity : ℕ) :
    Accounted name capacity [] (create α name capacity) :=
  ⟨rfl, rfl, Nat.zero_le _, rfl, rfl, rfl, rfl, nofun⟩

theorem Accounted.concat {deed : Deed α} {c' : Channel α} (h : Accounted name capacity past c)
    (hdone : Done deed c c') : Accounted name capacity (past ++ [deed]) c' := by
  refine ⟨hdone.name_eq.trans h.name_eq, hdone.capacity_eq.trans h.capacity_eq, ?_, ?_, ?_, ?_,
    ?_, ?_⟩
  · rw [hdone.capacity_eq]
    exact hdone.bounded h.bounded
  · rw [accepted_concat, received_concat, h.inOrder, List.append_assoc, List.append_assoc,
      hdone.queue_eq]
  · rw [hdone.sent_eq, accepted_concat, List.length_append, h.sent_eq]
  · rw [hdone.dropped_eq, countP_concat, h.dropped_eq]
  · have hoffers := h.offers_eq
    have hoffer := hdone.offer_eq
    rw [countP_concat, countP_concat, hdone.sent_eq, hdone.dropped_eq]
    omega
  · intro d hd hend
    rw [List.mem_append, List.mem_singleton] at hd
    rcases hd with hd | rfl
    · exact hdone.ended (Or.inr (h.ended d hd hend))
    · exact hdone.ended (Or.inl hend)

theorem perform_accounted (h : Accounted name capacity past c) (op : Operation α) :
    Accounted name capacity (past ++ (c.perform op).1.toList) (c.perform op).2 := by
  have hperformed := c.perform_performed op
  rcases hdeed : c.perform op with ⟨_ | deed, c'⟩
  · rw [hdeed] at hperformed
    cases hperformed with
    | idle =>
      rw [Option.toList_none, List.append_nil]
      exact h
  · rw [hdeed] at hperformed
    exact h.concat hperformed.done

/-- Every use keeps a channel in agreement with what has been done. -/
theorem use_accounted (ops : List (Operation α)) : ∀ {past : List (Deed α)} {c : Channel α},
    Accounted name capacity past c →
    Accounted name capacity (past ++ (c.use ops).1) (c.use ops).2 := by
  -- on the operations, for everything done before them
  induction ops with
  | nil =>
    intro past c h
    rw [use, List.append_nil]
    exact h
  | cons op rest ih =>
    intro past c h
    have hrest := ih (perform_accounted h op)
    rw [List.append_assoc] at hrest
    exact hrest

/-! ### What comes next -/

/-- An offer finds the channel full exactly if its capacity is used up and the consumer is
there. -/
theorem send_full_iff (hbound : c.queue.length ≤ c.capacity) (a : α) :
    (c.send a).1 = .error c.full ↔ c.receiverAlive = true ∧ c.queue.length = c.capacity := by
  have hoffered := c.send_offered a
  generalize c.send a = sent at hoffered ⊢
  cases hoffered with
  | refused hgone => simp [hgone, full, closed]
  | dropped halive hfull => simpa [halive] using Nat.le_antisymm hbound hfull
  | taken halive hroom => simpa [halive] using Nat.ne_of_lt hroom

/-- An offer that is refused leaves the channel as it is. -/
theorem send_of_closed {a : α} (h : (c.send a).1 = .error c.closed) : (c.send a).2 = c := by
  have hoffered := c.send_offered a
  generalize c.send a = sent at hoffered h ⊢
  cases hoffered with
  | refused => rfl
  | dropped => simp [full, closed] at h
  | taken => simp at h

/-- A receive fails exactly if the consumer is there, the producer is gone, and the queue is
empty. -/
theorem receive_fails_iff (c : Channel α) (limited : Bool) (e : PipelineError) :
    (c.perform (.receive limited)).1 = some (.received (.error e)) ↔
      e = c.closed ∧ c.receiverAlive = true ∧ c.senderAlive = false ∧ c.queue = [] := by
  by_cases hreceiver : c.receiverAlive = true
  · rw [perform, if_pos hreceiver]
    have hreceived := c.receive_received
    generalize c.receive = answer at hreceived ⊢
    cases hreceived with
    | item hqueue => simp [hqueue]
    | waiting hqueue halive => cases limited <;> simp [halive]
    | closed hqueue hgone => simp [hreceiver, hqueue, hgone, eq_comm]
  · rw [perform, if_neg hreceiver]
    simp [hreceiver]

/-- A receive delivers the first item of the queue, if there is one. -/
theorem perform_receive_of_queue {a : α} {rest : List α} (hreceiver : c.receiverAlive = true)
    (hqueue : c.queue = a :: rest) (limited : Bool) :
    c.perform (.receive limited) =
      (some (.received (.ok (some a))), { c with queue := rest }) := by
  have hitem : c.receive = (.item a, { c with queue := rest }) := by rw [receive, hqueue]
  rw [perform, if_pos hreceiver, hitem]

/-- **A channel in use.** Whatever its ends have done, while the consumer is there the accepted
items are the received ones and then the queue, in order, and the queue keeps to the capacity.
An offer finds the channel full exactly if the consumer is there and the capacity is used up.
The counters, which stay readable when an end is gone, are the offers accepted and those that
found it full; the other offers were refused and count in neither. A receive delivers the first
item of the queue. It fails exactly if the producer is gone and all accepted items have been
received, and once one has failed, every later one does. -/
theorem use_answers (name : String) (capacity : ℕ) (ops : List (Operation α)) :
    let past := ((create α name capacity).use ops).1
    let c := ((create α name capacity).use ops).2
    (c.receiverAlive = true → accepted past = received past ++ c.queue) ∧
    c.queue.length ≤ capacity ∧
    (∀ a, (c.send a).1 = .error (.channelFull name) ↔
      c.receiverAlive = true ∧ c.queue.length = capacity) ∧
    c.counters = ((accepted past).length, past.countP Deed.isOverrun) ∧
    past.countP Deed.isOffer = c.sent + c.dropped + past.countP Deed.isRefusal ∧
    (∀ a, (c.send a).1 = .error (.channelClosed name) → (c.send a).2.counters = c.counters) ∧
    (∀ a rest, c.queue = a :: rest → c.receiverAlive = true → ∀ limited,
      c.perform (.receive limited) =
        (some (.received (.ok (some a))), { c with queue := rest })) ∧
    (∀ limited e, (c.perform (.receive limited)).1 = some (.received (.error e)) ↔
      e = .channelClosed name ∧ c.receiverAlive = true ∧ c.senderAlive = false ∧
        received past = accepted past) ∧
    ((∃ deed ∈ past, deed.isEnd = true) → c.receiverAlive = true →
      ∀ limited, (c.perform (.receive limited)).1 =
        some (.received (.error (.channelClosed name)))) ∧
    c.dropSender.counters = c.counters ∧ c.dropReceiver.counters = c.counters := by
  intro past c
  have h : Accounted name capacity past c := use_accounted ops (create_accounted name capacity)
  have hfull : c.full = .channelFull name := congrArg _ h.name_eq
  have hclosed : c.closed = .channelClosed name := congrArg _ h.name_eq
  -- all accepted items are received exactly if none is queued
  have hdrained : received past = accepted past ↔ c.queue = [] := by
    rw [h.inOrder, List.self_eq_append_right]
  refine ⟨fun _ => h.inOrder, ?_, ?_, ?_, h.offers_eq, ?_,
    fun a rest hqueue hreceiver => perform_receive_of_queue hreceiver hqueue, ?_, ?_, rfl, rfl⟩
  · rw [← h.capacity_eq]
    exact h.bounded
  · intro a
    rw [← hfull, ← h.capacity_eq]
    exact send_full_iff h.bounded a
  · rw [counters, h.sent_eq, h.dropped_eq]
  · intro a hrefused
    rw [← hclosed] at hrefused
    rw [send_of_closed hrefused]
  · intro limited e
    rw [receive_fails_iff, hclosed, hdrained]
  · rintro ⟨deed, hdeed, hend⟩ hreceiver limited
    obtain ⟨hgone, hqueue⟩ := h.ended deed hdeed hend
    exact (receive_fails_iff c limited _).mpr ⟨hclosed.symm, hreceiver, hgone, hqueue⟩

/-- One place and two offers; the producer goes away, and the second receive finds the end. -/
def drained : List (Operation ℕ) :=
  [.send 1, .send 2, .dropSender, .receive false, .receive true]

theorem use_answers_drained :
    (((create ℕ "queue" 1).use [.send 1, .send 2]).2.perform (.receive false)).1 =
      some (.received (.ok (some 1))) ∧
    (Deed.received (.error (.channelClosed "queue"))) ∈ ((create ℕ "queue" 1).use drained).1 ∧
    (((create ℕ "queue" 1).use drained).2.perform (.receive false)).1 =
      some (.received (.error (.channelClosed "queue"))) := by
  have hfailed : (Deed.received (.error (.channelClosed "queue"))) ∈
      ((create ℕ "queue" 1).use drained).1 := by
    simp [drained, use, perform, send, receive, create, dropSender, closed]
  obtain ⟨-, -, -, -, -, -, hfirst, -⟩ := use_answers "queue" 1 [.send 1, .send 2]
  obtain ⟨-, -, -, -, -, -, -, -, hend, -⟩ := use_answers "queue" 1 drained
  exact ⟨congrArg Prod.fst (hfirst 1 [] rfl rfl false), hfailed, hend ⟨_, hfailed, rfl⟩ rfl false⟩

end Channel

end Telemetry
