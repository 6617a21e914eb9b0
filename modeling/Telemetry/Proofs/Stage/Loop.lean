/-
What the loops of the first two stages do, taken as a whole.

A loop that is left alone offers one item after the other to its channel, and nobody takes
any of them in between. So the channel is filled up to its capacity, and the rest is dropped:

* `Channel.sendAll_eq` — a channel after some offers in a row;
* `Sampler.start_ticks_exhausts`, `Sampler.run_exhausts` — a sampler offers its whole waveform,
  whatever the clock reads;
* `Transform.drain_of_gone` — on a channel without producer the transform stage offers the
  states of the queued samples for which the law succeeds, in order.
-/
import Mathlib.Data.Nat.Notation
import Telemetry.Proofs.Stage.Outcome

namespace Telemetry

namespace Channel

variable {α : Type}

/-- The channel after offering some items, one after the other. -/
def sendAll (c : Channel α) : List α → Channel α
  | [] => c
  | a :: rest => (c.send a).2.sendAll rest

/-- The number of items for which a channel has room. -/
def room (c : Channel α) : ℕ := c.capacity - c.queue.length

theorem sendAll_append (items more : List α) : ∀ c : Channel α,
    c.sendAll (items ++ more) = (c.sendAll items).sendAll more := by
  induction items with
  | nil => exact fun _ => rfl
  | cons a rest ih => exact fun c => ih (c.send a).2

/-- Offered to a consumer that takes nothing, the first items fill the channel, and those for
which there is no room are dropped. -/
theorem sendAll_eq (items : List α) : ∀ {c : Channel α}, c.receiverAlive = true →
    c.sendAll items = { c with
      queue := c.queue ++ items.take c.room
      sent := c.sent + min items.length c.room
      dropped := c.dropped + (items.length - c.room) } := by
  induction items with
  | nil =>
    intro c _
    simp [sendAll]
  | cons a rest ih =>
    intro c halive
    have hsend := c.send_offered a
    rw [sendAll]
    generalize c.send a = sent at hsend ⊢
    cases hsend with
    | refused hgone => exact absurd (halive.symm.trans hgone) (by simp)
    | dropped _ hfull =>
      have hroom : c.room = 0 := Nat.sub_eq_zero_of_le hfull
      have hroom' : ({ c with dropped := c.dropped + 1 } : Channel α).room = 0 := hroom
      rw [ih (by exact halive), hroom, hroom']
      simp only [List.take_zero, List.append_nil, Nat.min_zero, Nat.add_zero, Nat.sub_zero,
        List.length_cons, mk.injEq, true_and, and_true]
      omega
    | taken _ hlt =>
      obtain ⟨room, hroom⟩ : ∃ room, c.room = room + 1 :=
        Nat.exists_eq_add_one.mpr (Nat.sub_pos_of_lt hlt)
      have hroom' : ({ c with
          queue := c.queue ++ [a], sent := c.sent + 1 } : Channel α).room = room := by
        simp only [Channel.room, List.length_append, List.length_singleton] at hroom ⊢
        omega
      rw [ih (by exact halive), hroom, hroom']
      simp only [List.take_succ_cons, List.append_assoc, List.singleton_append,
        List.length_cons, mk.injEq, true_and, and_true]
      omega

/-- What some offers in a row leave in a new channel. -/
theorem sendAll_create (name : String) (capacity : ℕ) (items : List α) :
    (create α name capacity).sendAll items =
      ⟨name, capacity, items.take capacity, min items.length capacity,
        items.length - capacity, true, true⟩ := by
  rw [sendAll_eq items rfl]
  simp [create, room]

end Channel

namespace Sampler

/-- A sampler that has been started reads for as long as it has entries left. -/
def OnTrack (s : Sampler) : Prop :=
  s.phase = if s.position < s.waveform.length then .reading else .suspended

/-- A sampler has offered all its remaining entries to the channel `tx`. -/
structure Exhausts (s : Sampler) (tx : Channel Sample) (after : Sampler × Channel Sample) :
    Prop where
  position : after.1.position = s.waveform.length
  phase : after.1.phase = .suspended
  channel : after.2 = tx.sendAll (s.waveform.samples.drop s.position)

theorem settle_fst (s : Sampler) (sample : Sample) (outcome : Except PipelineError Unit) :
    (s.settle sample outcome).1.position = s.position ∧
    (s.settle sample outcome).1.phase = s.phase ∧
    (s.settle sample outcome).1.waveform = s.waveform ∧
    (s.settle sample outcome).1.timer = s.timer := by
  rcases outcome with e | u
  · cases e <;> exact ⟨rfl, rfl, rfl, rfl⟩
  · exact ⟨rfl, rfl, rfl, rfl⟩

/-- A wait changes the timer and the count of late waits, and nothing else. -/
theorem await_fst (s : Sampler) (timer : Timer) (now : Instant) :
    ∃ timer' missed,
      (s.await timer now).1 = { s with timer := some timer', missed := missed } := by
  simp only [await]
  split <;> exact ⟨_, _, rfl⟩

/-- A tick of a sampler with entries left offers the next of them and moves on. -/
theorem tick_of_lt {s : Sampler} (tx : Channel Sample) (htrack : s.OnTrack)
    (hlt : s.position < s.waveform.length) :
    (s.tick tx).state.1.OnTrack ∧
    (s.tick tx).state.1.position = s.position + 1 ∧
    (s.tick tx).state.1.waveform = s.waveform ∧
    (s.tick tx).state.1.timer = s.timer ∧
    tx.sendAll (s.waveform.samples.drop s.position) =
      (s.tick tx).state.2.sendAll (s.waveform.samples.drop (s.position + 1)) := by
  have hphase : s.phase = .reading := by rw [htrack, if_pos hlt]
  obtain ⟨sample, hget⟩ : ∃ sample, s.waveform.get? s.position = some sample :=
    ⟨_, List.getElem?_eq_getElem hlt⟩
  have hdrop : s.waveform.samples.drop s.position =
      sample :: s.waveform.samples.drop (s.position + 1) := by
    obtain ⟨_, rfl⟩ := List.getElem?_eq_some_iff.mp hget
    exact List.drop_eq_getElem_cons hlt
  obtain ⟨hposition, hphase', hwaveform, htimer⟩ :=
    settle_fst { s with position := s.position + 1 } sample (tx.send sample).1
  rw [tick_of_get tx hphase hget]
  simp only [suspendAtEnd_eq]
  generalize { s with position := s.position + 1 }.settle _ _ = settled at *
  refine ⟨?_, hposition, hwaveform, htimer, ?_⟩
  · simp only [OnTrack, hposition, hphase', hwaveform, hphase]
    by_cases hend : s.waveform.length ≤ s.position + 1
    · rw [if_pos hend, if_neg (by omega)]
    · rw [if_neg hend, if_pos (by omega)]
  · rw [hdrop, Channel.sendAll]

/-- As many ticks as there are entries left exhaust a sampler. -/
theorem ticks_exhausts (n : ℕ) : ∀ {s : Sampler} {tx : Channel Sample}, s.OnTrack →
    s.position + n = s.waveform.length →
    Exhausts s tx (Pipeline.ticks n (s, tx)).state := by
  induction n with
  | zero =>
    intro s tx htrack hlength
    refine ⟨hlength, by rw [Pipeline.ticks, htrack, if_neg (by omega)], ?_⟩
    have hdone : s.waveform.samples.length ≤ s.position := Nat.le_of_eq hlength.symm
    rw [List.drop_eq_nil_of_le hdone]
    rfl
  | succ n ih =>
    intro s tx htrack hlength
    obtain ⟨htrack', hposition, hwaveform, -, hchannel⟩ := tick_of_lt tx htrack (by omega)
    have hrest := @ih (s.tick tx).state.1 (s.tick tx).state.2 htrack' (by
      rw [hposition, hwaveform]
      omega)
    refine ⟨hrest.position.trans (by rw [hwaveform]), hrest.phase, hrest.channel.trans ?_⟩
    rw [hchannel, hwaveform, hposition]

/-- So do as many rounds of waiting and ticking, whatever the clock reads. -/
theorem drive_exhausts (clock : ℕ → Instant) (rounds : ℕ) :
    ∀ {k : ℕ} {s : Sampler} {tx : Channel Sample}, s.OnTrack → s.timer.isSome = true →
    s.position + rounds = s.waveform.length →
    Exhausts s tx (drive clock rounds k (s, tx)).state := by
  induction rounds with
  | zero =>
    intro k s tx htrack _ hlength
    refine ⟨hlength, by rw [drive, htrack, if_neg (by omega)], ?_⟩
    have hdone : s.waveform.samples.length ≤ s.position := Nat.le_of_eq hlength.symm
    rw [List.drop_eq_nil_of_le hdone]
    rfl
  | succ rounds ih =>
    intro k s tx htrack hsome hlength
    obtain ⟨timer, htimer⟩ := Option.isSome_iff_exists.mp hsome
    have hphase : s.phase = .reading := by rw [htrack, if_pos (by omega)]
    -- the wait changes the timer and the count of late waits only
    obtain ⟨timer', missed, hawait⟩ := s.await_fst timer (clock k)
    obtain ⟨htrack', hposition, hwaveform, htimer', hchannel⟩ :=
      tick_of_lt (s := { s with timer := some timer', missed := missed }) tx htrack
        (show s.position < s.waveform.length by omega)
    have hround : (drive clock (rounds + 1) k (s, tx)).state =
        (drive clock rounds (k + 1) ((s.await timer (clock k)).1.tick tx).state).state := by
      simp only [drive, hphase, htimer]
    rw [hround, hawait]
    generalize Sampler.tick _ tx = ticked at htrack' hposition hwaveform htimer' hchannel ⊢
    have hrest := @ih (k + 1) ticked.state.1 ticked.state.2 htrack' (by rw [htimer']; rfl) (by
      rw [hposition, hwaveform]
      show s.position + 1 + rounds = s.waveform.length
      omega)
    refine ⟨hrest.position.trans (by rw [hwaveform]), hrest.phase, hrest.channel.trans ?_⟩
    rw [hwaveform, hposition]
    exact hchannel.symm

/-- A sampler that has not been started is on track once it is. -/
theorem start_onTrack (waveform : Waveform) (period : Duration) (now : Instant) :
    ((create waveform period).start now).state.OnTrack := by
  rcases hsamples : waveform.samples with _ | ⟨a, rest⟩ <;>
    simp [OnTrack, create, start, Waveform.length, hsamples]

/-- A new sampler offers its whole waveform, and is suspended behind it, if it ticks for as
long as it has entries. -/
theorem start_ticks_exhausts (waveform : Waveform) (period : Duration) (now : Instant)
    (tx : Channel Sample) :
    Exhausts (create waveform period) tx
      (Pipeline.ticks waveform.length (((create waveform period).start now).state, tx)).state := by
  obtain ⟨hposition, hphase, hchannel⟩ := @ticks_exhausts waveform.length
    ((create waveform period).start now).state tx (start_onTrack waveform period now)
    (Nat.zero_add _)
  exact ⟨hposition, hphase, hchannel⟩

/-- It does the same if it waits for a deadline before every tick, on any clock. -/
theorem run_exhausts (waveform : Waveform) (period : Duration) (clock : ℕ → Instant)
    (tx : Channel Sample) :
    Exhausts (create waveform period) tx ((create waveform period).run tx clock).state := by
  obtain ⟨hposition, hphase, hchannel⟩ := @drive_exhausts clock waveform.length 1
    ((create waveform period).start (clock 0)).state tx (start_onTrack waveform period (clock 0))
    rfl (Nat.zero_add _)
  exact ⟨hposition, hphase, hchannel⟩

end Sampler

namespace Transform

/-- The state of a sample, if the law succeeds on it. -/
def lawfulState (law : Sample → Except Error Command) (s : Sample) : Option ActuatorState :=
  match law s with
  | .ok c => some ⟨s, c⟩
  | .error _ => none

/-- The states of the samples on which the law succeeds, in order. -/
def lawful (law : Sample → Except Error Command) (samples : List Sample) : List ActuatorState :=
  samples.filterMap (lawfulState law)

/-- Handling a sample offers its state to the channel, if it has one. -/
theorem handle_state (t : Transform) (tx : Channel ActuatorState) (s : Sample) :
    (t.handle tx s).state =
      ({ t with processed := t.processed + 1 }, tx.sendAll (lawfulState t.law s).toList) := by
  rcases hlaw : t.law s with e | c
  · simp only [handle, apply, lawfulState, hlaw, Option.toList_none, Channel.sendAll]
  · simp only [handle, apply, lawfulState, hlaw, Option.toList_some, Channel.sendAll]
    rcases tx.send ⟨s, c⟩ with ⟨e | u, tx'⟩ <;> rfl

/-- On a channel without producer the loop handles every queued sample and then stops. -/
theorem drain_of_gone (rounds : ℕ) :
    ∀ {t : Transform} {rx : Channel Sample} {tx : Channel ActuatorState},
    rx.senderAlive = false → rx.queue.length < rounds →
    (drain rounds (t, rx, tx)).state =
      ({ t with processed := t.processed + rx.queue.length }, { rx with queue := [] },
        tx.sendAll (lawful t.law rx.queue)) := by
  induction rounds with
  | zero => exact fun _ h => absurd h (Nat.not_lt_zero _)
  | succ rounds ih =>
    intro t rx tx hgone hlength
    have hreceive := rx.receive_received
    simp only [drain]
    generalize rx.receive = received at hreceive ⊢
    cases hreceive with
    | @item s rest hqueue =>
      rw [hqueue, List.length_cons, Nat.add_lt_add_iff_right] at hlength
      simp only [handle_state]
      refine (@ih _ { rx with queue := rest } _ hgone hlength).trans ?_
      have hlawful : lawful t.law rx.queue =
          (lawfulState t.law s).toList ++ lawful t.law rest := by
        rw [hqueue, lawful, lawful, List.filterMap_cons]
        rcases lawfulState t.law s with _ | a <;> rfl
      rw [hlawful, Channel.sendAll_append, hqueue, List.length_cons, Nat.add_comm rest.length 1,
        ← Nat.add_assoc]
    | waiting hqueue halive => exact absurd (halive.symm.trans hgone) (by simp)
    | closed hqueue =>
      obtain ⟨name, capacity, queue, sent, dropped, senderAlive, receiverAlive⟩ := rx
      obtain rfl : queue = [] := hqueue
      rfl

end Transform

end Telemetry
