/-
What one operation of a stage can do.

Each operation has an inductive predicate with one case for everything it can do, the
condition of the case included, and a theorem that it does nothing else:

* `Channel.send_offered` — an offer is taken, dropped or refused;
* `Sampler.tick_ticked` — a tick does nothing, or takes an entry, whatever becomes of it;
* `Transform.handle_handled` — a sample has no command, or its state is offered;
* `Transmitter.transmit_transmitted` — a state is sent, fails, or finds no socket.

Design notes: proofs about the pipeline split along these cases and never open the
operations themselves.
-/
import Telemetry.Pipeline

namespace Telemetry

namespace Channel

variable {α : Type}

/-- The outcomes of offering `a` to the channel `c`. -/
inductive Offered (c : Channel α) (a : α) : Except PipelineError Unit × Channel α → Prop
  | refused (hgone : c.receiverAlive = false) : Offered c a (.error c.closed, c)
  | dropped (halive : c.receiverAlive = true) (hfull : c.capacity ≤ c.queue.length) :
      Offered c a (.error c.full, { c with dropped := c.dropped + 1 })
  | taken (halive : c.receiverAlive = true) (hroom : c.queue.length < c.capacity) :
      Offered c a (.ok (), { c with queue := c.queue ++ [a], sent := c.sent + 1 })

theorem send_offered (c : Channel α) (a : α) : Offered c a (c.send a) := by
  by_cases halive : c.receiverAlive = true
  · by_cases hfull : c.capacity ≤ c.queue.length
    · rw [send, if_neg (by simp [halive]), if_pos hfull]
      exact .dropped halive hfull
    · rw [send, if_neg (by simp [halive]), if_neg hfull]
      exact .taken halive (by omega)
  · rw [send, if_pos (by simp [halive])]
    exact .refused (by simpa using halive)

/-- The outcomes of asking the channel `c` for an item. -/
inductive Received (c : Channel α) : Receipt α × Channel α → Prop
  | item {a : α} {rest : List α} (hqueue : c.queue = a :: rest) :
      Received c (.item a, { c with queue := rest })
  | waiting (hqueue : c.queue = []) (halive : c.senderAlive = true) : Received c (.waiting, c)
  | closed (hqueue : c.queue = []) (hgone : c.senderAlive = false) :
      Received c (.closed c.closed, c)

theorem receive_received (c : Channel α) : Received c c.receive := by
  rcases hqueue : c.queue with _ | ⟨a, rest⟩
  · rcases halive : c.senderAlive with _ | _
    · rw [show c.receive = (.closed c.closed, c) by simp [receive, hqueue, halive]]
      exact .closed hqueue halive
    · rw [show c.receive = (.waiting, c) by simp [receive, hqueue, halive]]
      exact .waiting hqueue halive
  · rw [show c.receive = (.item a, { c with queue := rest }) by simp [receive, hqueue]]
    exact .item hqueue

end Channel

namespace Sampler

/-- The sampler with one more entry taken. -/
def next (s : Sampler) : Sampler :=
  { s with
    position := s.position + 1
    phase := if s.waveform.length ≤ s.position + 1 then .suspended else s.phase }

theorem length_le_of_next_suspended {s : Sampler} (hphase : s.phase = .reading)
    (h : s.next.phase = .suspended) : s.waveform.length ≤ s.position + 1 := by
  by_cases hend : s.waveform.length ≤ s.position + 1
  · exact hend
  · simp [next, hend, hphase] at h

/-- The notice of a sampler that has taken its last entry. -/
def ending (s : Sampler) : List Notice :=
  if s.waveform.length ≤ s.position then [.waveformExhausted s.position s.dropped] else []

theorem suspendAtEnd_eq (s : Sampler) :
    s.suspendAtEnd =
      ({ s with phase := if s.waveform.length ≤ s.position then .suspended else s.phase },
        s.ending) := by
  by_cases hend : s.waveform.length ≤ s.position <;> simp [suspendAtEnd, ending, hend]

/-- A tick that takes an entry, before it is known what becomes of the entry. -/
theorem tick_of_get {s : Sampler} {sample : Sample} (tx : Channel Sample)
    (hphase : s.phase = .reading) (hget : s.waveform.get? s.position = some sample) :
    s.tick tx =
      let sent := tx.send sample
      let settled := { s with position := s.position + 1 }.settle sample sent.1
      ⟨some sample, (settled.1.suspendAtEnd.1, sent.2),
        settled.2 ++ settled.1.suspendAtEnd.2⟩ := by
  simp [tick, hphase, hget]

/-- The outcomes of a tick of `s` into the channel `tx`. -/
inductive Ticked (s : Sampler) (tx : Channel Sample) :
    Step (Sampler × Channel Sample) (Option Sample) → Prop
  | idle (h : s.phase = .reading → s.waveform.get? s.position = none) :
      Ticked s tx ⟨none, (s, tx), []⟩
  | taken {sample : Sample} (hphase : s.phase = .reading)
      (hget : s.waveform.get? s.position = some sample)
      (halive : tx.receiverAlive = true) (hroom : tx.queue.length < tx.capacity) :
      Ticked s tx ⟨some sample,
        ({ s.next with produced := s.produced + 1 },
          { tx with queue := tx.queue ++ [sample], sent := tx.sent + 1 }),
        s.next.ending⟩
  | dropped {sample : Sample} (hphase : s.phase = .reading)
      (hget : s.waveform.get? s.position = some sample)
      (halive : tx.receiverAlive = true) (hfull : tx.capacity ≤ tx.queue.length) :
      Ticked s tx ⟨some sample,
        ({ s.next with dropped := s.dropped + 1 }, { tx with dropped := tx.dropped + 1 }),
        .sampleDropped sample tx.full :: { s.next with dropped := s.dropped + 1 }.ending⟩
  | refused {sample : Sample} (hphase : s.phase = .reading)
      (hget : s.waveform.get? s.position = some sample) (hgone : tx.receiverAlive = false) :
      Ticked s tx ⟨some sample, (s.next, tx),
        .sampleUndelivered sample tx.closed :: s.next.ending⟩

theorem tick_ticked (s : Sampler) (tx : Channel Sample) : Ticked s tx (s.tick tx) := by
  by_cases hphase : s.phase = .reading
  · rcases hget : s.waveform.get? s.position with _ | sample
    · rw [show s.tick tx = ⟨none, (s, tx), []⟩ by simp [tick, hphase, hget]]
      exact .idle fun _ => hget
    · -- the end of the waveform depends on the position alone, so the offer decides the case
      rw [tick_of_get tx hphase hget]
      simp only [suspendAtEnd_eq]
      have hsend := tx.send_offered sample
      generalize tx.send sample = sent at hsend ⊢
      cases hsend with
      | refused hgone => exact .refused hphase hget hgone
      | dropped halive hfull => exact .dropped hphase hget halive hfull
      | taken halive hroom => exact .taken hphase hget halive hroom
  · rw [show s.tick tx = ⟨none, (s, tx), []⟩ by simp [tick, hphase]]
    exact .idle fun h => absurd h hphase

end Sampler

namespace Transform

/-- The outcomes of handling the sample `s` with `tx` as the next channel. -/
inductive Handled (t : Transform) (tx : Channel ActuatorState) (s : Sample) :
    Step (Transform × Channel ActuatorState) (Except PipelineError ActuatorState) → Prop
  | failed {e : Error} (hlaw : t.law s = .error e) :
      Handled t tx s ⟨.error (.controlLaw e.message),
        ({ t with processed := t.processed + 1 }, tx), [.lawFailed s (.controlLaw e.message)]⟩
  | taken {c : Command} (hlaw : t.law s = .ok c) (halive : tx.receiverAlive = true)
      (hroom : tx.queue.length < tx.capacity) :
      Handled t tx s ⟨.ok ⟨s, c⟩,
        ({ t with processed := t.processed + 1 },
          { tx with queue := tx.queue ++ [⟨s, c⟩], sent := tx.sent + 1 }), []⟩
  | dropped {c : Command} (hlaw : t.law s = .ok c) (halive : tx.receiverAlive = true)
      (hfull : tx.capacity ≤ tx.queue.length) :
      Handled t tx s ⟨.error tx.full,
        ({ t with processed := t.processed + 1 }, { tx with dropped := tx.dropped + 1 }),
        [.stateDropped ⟨s, c⟩ tx.full]⟩
  | refused {c : Command} (hlaw : t.law s = .ok c) (hgone : tx.receiverAlive = false) :
      Handled t tx s ⟨.error tx.closed,
        ({ t with processed := t.processed + 1 }, tx), [.stateUndelivered ⟨s, c⟩ tx.closed]⟩

theorem handle_handled (t : Transform) (tx : Channel ActuatorState) (s : Sample) :
    Handled t tx s (t.handle tx s) := by
  rcases hlaw : t.law s with e | c
  · rw [show t.handle tx s = ⟨.error (.controlLaw e.message),
        ({ t with processed := t.processed + 1 }, tx),
        [.lawFailed s (.controlLaw e.message)]⟩ by simp [handle, apply, hlaw]]
    exact .failed hlaw
  · have hsend := tx.send_offered ⟨s, c⟩
    simp only [handle, apply, hlaw]
    generalize tx.send ⟨s, c⟩ = sent at hsend ⊢
    cases hsend with
    | refused hgone => exact .refused hlaw hgone
    | dropped halive hfull => exact .dropped hlaw halive hfull
    | taken halive hroom => exact .taken hlaw halive hroom

end Transform

namespace ScriptedNetwork

variable {n net : ScriptedNetwork} {bytes : List UInt8}

/-- A send that succeeds is not one of those to fail. -/
theorem of_record_ok {k : Nat} (h : n.record bytes = (.ok k, net)) :
    n.attempts + 1 ∉ n.failAttempts ∧ net.failAttempts = n.failAttempts ∧
    net.attempts = n.attempts + 1 ∧ net.datagrams = n.datagrams ++ [bytes] := by
  by_cases hfail : n.attempts + 1 ∈ n.failAttempts
  · simp [record, hfail] at h
  · simp only [record, hfail, if_false, Prod.mk.injEq] at h
    rw [← h.2]
    exact ⟨hfail, rfl, rfl, rfl⟩

/-- A send that fails is one of those to fail, and says which. -/
theorem of_record_error {e : ExchangeError} (h : n.record bytes = (.error e, net)) :
    n.attempts + 1 ∈ n.failAttempts ∧ e = .scripted (n.attempts + 1) ∧
    net.failAttempts = n.failAttempts ∧ net.attempts = n.attempts + 1 ∧
    net.datagrams = n.datagrams := by
  by_cases hfail : n.attempts + 1 ∈ n.failAttempts
  · simp only [record, hfail, if_true, Prod.mk.injEq, Except.error.injEq] at h
    rw [← h.1, ← h.2]
    exact ⟨hfail, rfl, rfl, rfl, rfl⟩
  · simp [record, hfail] at h

end ScriptedNetwork

namespace Transmitter

variable {ν : Type} [NetworkStack ν]

/-- The message of the next number with a given state. -/
def nextMessage (t : Transmitter) (state : ActuatorState) : Message :=
  Message.actuatorState (t.seqnum + 1) state

/-- The outcomes of transmitting `state` over the network `net`. -/
inductive Transmitted (t : Transmitter) (net : ν) (state : ActuatorState) :
    Step (Transmitter × ν) (Except PipelineError Message) → Prop
  | unopened (hsocket : t.socket = none) :
      Transmitted t net state ⟨.error (.transmitFailed "socket not open"), (t, net), []⟩
  | sent {destination : SocketAddr} {n : Nat} {net' : ν} (hsocket : t.socket = some destination)
      (hsend : NetworkStack.send net destination (t.nextMessage state).encode = (.ok n, net')) :
      Transmitted t net state ⟨.ok (t.nextMessage state),
        ({ t with seqnum := t.seqnum + 1, sent := t.sent + 1 }, net'),
        [.sent (t.nextMessage state)]⟩
  | failed {destination : SocketAddr} {e : ExchangeError} {net' : ν}
      (hsocket : t.socket = some destination)
      (hsend : NetworkStack.send net destination (t.nextMessage state).encode =
        (.error e, net')) :
      Transmitted t net state ⟨.error (sendFailure (t.seqnum + 1) e),
        ({ t with seqnum := t.seqnum + 1, failed := t.failed + 1 }, net'), []⟩

theorem transmit_transmitted (t : Transmitter) (net : ν) (state : ActuatorState) :
    Transmitted t net state (t.transmit net state) := by
  obtain ⟨address, readyPoll, socket, seqnum, sent, failed⟩ := t
  rcases socket with _ | destination
  · exact .unopened rfl
  · simp only [transmit]
    rcases hsend : NetworkStack.send net destination
      (Message.actuatorState (seqnum + 1) state).encode with ⟨e | n, net'⟩
    · exact .failed rfl hsend
    · exact .sent rfl hsend

/-- With an open socket every transmission uses up a number and is handed to the network,
whatever the network answers. -/
theorem transmit_of_socket {t : Transmitter} {destination : SocketAddr} (net : ν)
    (state : ActuatorState) (hsocket : t.socket = some destination) :
    (t.transmit net state).state.1.seqnum = t.seqnum + 1 ∧
    (t.transmit net state).state.1.socket = some destination ∧
    (t.transmit net state).state.2 =
      (NetworkStack.send net destination (t.nextMessage state).encode).2 := by
  have hdone := t.transmit_transmitted net state
  generalize t.transmit net state = transmitted at hdone ⊢
  cases hdone with
  | unopened hnone =>
    rw [hnone] at hsocket
    exact absurd hsocket (by simp)
  | sent hsome hsend =>
    obtain rfl : _ = destination := Option.some_inj.mp (hsome.symm.trans hsocket)
    exact ⟨rfl, hsocket, (congrArg Prod.snd hsend).symm⟩
  | failed hsome hsend =>
    obtain rfl : _ = destination := Option.some_inj.mp (hsome.symm.trans hsocket)
    exact ⟨rfl, hsocket, (congrArg Prod.snd hsend).symm⟩

end Transmitter

end Telemetry
