/-
States transmitted one after the other.

* `Transmitter.transmitAll` — the transmitter and its network after some states;
* `Transmitter.attempts_eq` — with an open socket the buffers handed to the network are the
  states under consecutive numbers, whatever the network answers;
* `Transmitter.drain_of_gone` — a loop on a channel without producer transmits what is queued,
  and leaves the channel empty;
* `Transmitter.transmitAll_scripted` — numbers, counters and datagrams on a scripted network.
-/
import Telemetry.Proofs.Pipeline.Delivery

namespace Telemetry

namespace Transmitter

variable {ν : Type} [NetworkStack ν]

/-- The transmitter and its network after the transmission of some states. -/
def transmitAll (t : Transmitter) (net : ν) : List ActuatorState → Transmitter × ν
  | [] => (t, net)
  | a :: rest => transmitAll (t.transmit net a).state.1 (t.transmit net a).state.2 rest

/-- The buffers that the transmission of some states hands to the network, sent or not. -/
def attempts (t : Transmitter) (net : ν) (states : List ActuatorState) : List (List UInt8) :=
  (t.transmitAll (⟨net, []⟩ : Tapped ν) states).2.handed

/-- A tap changes no transmission. -/
theorem transmitAll_tapped (states : List ActuatorState) : ∀ (t : Transmitter) (n : Tapped ν),
    (t.transmitAll n states).1 = (t.transmitAll n.inner states).1 ∧
    (t.transmitAll n states).2.inner = (t.transmitAll n.inner states).2 := by
  induction states with
  | nil => exact fun _ _ => ⟨rfl, rfl⟩
  | cons a rest ih =>
    intro t n
    obtain ⟨-, htransmitter, hnetwork, -⟩ := t.transmit_tapped n a
    rw [transmitAll, transmitAll, ← htransmitter, ← hnetwork]
    exact ih _ _

/-- Behind the states `done`, more states go on with the numbers. -/
theorem transmitAll_handed {s : UInt32} (states : List ActuatorState) :
    ∀ (done : List ActuatorState) {t : Transmitter} {n : Tapped ν},
      t.socket.isSome = true → t.seqnum = seqnumAfter s done.length →
      n.handed = encodings s done →
      (t.transmitAll n states).1.seqnum = seqnumAfter s (done ++ states).length ∧
      (t.transmitAll n states).2.handed = encodings s (done ++ states) := by
  induction states with
  | nil =>
    intro done t n _ hseqnum hhanded
    rw [List.append_nil]
    exact ⟨hseqnum, hhanded⟩
  | cons a rest ih =>
    intro done t n hsocket hseqnum hhanded
    obtain ⟨hsocket', hseqnum', hhanded'⟩ := transmit_numbered a hsocket hseqnum hhanded
    rw [transmitAll, show done ++ a :: rest = done ++ [a] ++ rest by simp]
    exact ih (done ++ [a]) hsocket' hseqnum' hhanded'

theorem attempts_eq {t : Transmitter} (net : ν) (states : List ActuatorState)
    (hsocket : t.socket.isSome = true) : t.attempts net states = encodings t.seqnum states :=
  (transmitAll_handed states [] hsocket (by simp) rfl).2

/-- The number after some states, each of which has used up one. -/
theorem transmitAll_seqnum {t : Transmitter} (net : ν) (states : List ActuatorState)
    (hsocket : t.socket.isSome = true) :
    (t.transmitAll net states).1.seqnum = seqnumAfter t.seqnum states.length := by
  rw [← (transmitAll_tapped states t ⟨net, []⟩).1]
  exact (transmitAll_handed states [] hsocket (by simp) rfl).1

/-- A loop on a channel without producer transmits every queued state and then stops. -/
theorem drain_of_gone (rounds : ℕ) : ∀ {t : Transmitter} {net : ν} {rx : Channel ActuatorState},
    rx.senderAlive = false → rx.queue.length < rounds →
    (drain rounds (t, net, rx)).state =
      ((t.transmitAll net rx.queue).1, (t.transmitAll net rx.queue).2,
        { rx with queue := [] }) := by
  induction rounds with
  | zero => exact fun _ h => absurd h (Nat.not_lt_zero _)
  | succ rounds ih =>
    intro t net rx hgone hlength
    have hreceive := rx.receive_received
    simp only [drain]
    generalize rx.receive = received at hreceive ⊢
    cases hreceive with
    | @item a rest hqueue =>
      rw [hqueue, List.length_cons, Nat.add_lt_add_iff_right] at hlength
      rw [hqueue, transmitAll]
      exact ih hgone hlength
    | waiting hqueue halive => exact absurd (halive.symm.trans hgone) (by simp)
    | closed hqueue =>
      obtain ⟨name, capacity, queue, sent, dropped, senderAlive, receiverAlive⟩ := rx
      obtain rfl : queue = [] := hqueue
      rfl

/-! ### On a scripted network -/

/-- The counters of a transmitter agree with what its network has recorded. -/
structure Counted (t : Transmitter) (net : ScriptedNetwork) : Prop where
  sent : t.sent = net.datagrams.length
  attempts : t.sent + t.failed = net.attempts

theorem Counted.transmit {t : Transmitter} {net : ScriptedNetwork} (h : Counted t net)
    (a : ActuatorState) :
    Counted (t.transmit net a).state.1 (t.transmit net a).state.2 := by
  have hsent := h.sent
  have hattempts := h.attempts
  have hdone := t.transmit_transmitted net a
  generalize t.transmit net a = transmitted at hdone ⊢
  cases hdone with
  | unopened => exact h
  | @sent _ _ net' _ hsend =>
    obtain ⟨-, -, hcount, hrecord⟩ := ScriptedNetwork.of_record_ok hsend
    refine ⟨?_, ?_⟩
    · show t.sent + 1 = net'.datagrams.length
      rw [hrecord, List.length_append, List.length_singleton, hsent]
    · show t.sent + 1 + t.failed = net'.attempts
      omega
  | @failed _ _ net' _ hsend =>
    obtain ⟨-, -, -, hcount, hrecord⟩ := ScriptedNetwork.of_record_error hsend
    refine ⟨?_, ?_⟩
    · show t.sent = net'.datagrams.length
      rw [hrecord, hsent]
    · show t.sent + (t.failed + 1) = net'.attempts
      omega

theorem Counted.transmitAll (states : List ActuatorState) :
    ∀ {t : Transmitter} {net : ScriptedNetwork}, Counted t net →
      Counted (t.transmitAll net states).1 (t.transmitAll net states).2 := by
  induction states with
  | nil => exact fun h => h
  | cons a rest ih => exact fun h => ih (h.transmit a)

theorem transmitAll_recorded {fails : List ℕ} (states : List ActuatorState) :
    ∀ {t : Transmitter} {n : Tapped ScriptedNetwork}, Recorded fails n →
      Recorded fails (t.transmitAll n states).2 := by
  induction states with
  | nil => exact fun h => h
  | cons a rest ih => exact fun h => ih (h.transmit _ a)

theorem transmit_polls (t : Transmitter) (net : ScriptedNetwork) (a : ActuatorState) :
    (t.transmit net a).state.2.polls = net.polls := by
  rcases hsocket : t.socket with _ | destination
  · simp only [transmit, hsocket]
  · rw [(transmit_of_socket net a hsocket).2.2]
    simp only [NetworkStack.send, ScriptedNetwork.record]
    split <;> rfl

/-- Transmissions poll no network. -/
theorem transmitAll_polls (states : List ActuatorState) :
    ∀ (t : Transmitter) (net : ScriptedNetwork),
      (t.transmitAll net states).2.polls = net.polls := by
  induction states with
  | nil => exact fun _ _ => rfl
  | cons a rest ih => exact fun t net => (ih _ _).trans (t.transmit_polls net a)

/-- The transmission of some states on a network that has recorded nothing yet. -/
theorem transmitAll_scripted {t : Transmitter} {net : ScriptedNetwork}
    (states : List ActuatorState) (hsocket : t.socket.isSome = true)
    (hsent : t.sent = 0) (hfailed : t.failed = 0) (hattempts : net.attempts = 0)
    (hdatagrams : net.datagrams = []) :
    (t.transmitAll net states).1.seqnum = seqnumAfter t.seqnum states.length ∧
    (t.transmitAll net states).2.attempts = states.length ∧
    (t.transmitAll net states).2.datagrams =
      survivors net.failAttempts (encodings t.seqnum states) ∧
    Counted (t.transmitAll net states).1 (t.transmitAll net states).2 := by
  have hrecorded : Recorded net.failAttempts
      (t.transmitAll (⟨net, []⟩ : Tapped ScriptedNetwork) states).2 :=
    transmitAll_recorded states ⟨rfl, hattempts, hdatagrams⟩
  have hhanded : (t.transmitAll (⟨net, []⟩ : Tapped ScriptedNetwork) states).2.handed =
      encodings t.seqnum states := attempts_eq net states hsocket
  have hcounted : Counted t net := by
    refine ⟨?_, ?_⟩
    · rw [hsent, hdatagrams, List.length_nil]
    · rw [hsent, hfailed, hattempts]
  have hinner : (t.transmitAll (⟨net, []⟩ : Tapped ScriptedNetwork) states).2.inner =
      (t.transmitAll net states).2 := (transmitAll_tapped states t ⟨net, []⟩).2
  refine ⟨transmitAll_seqnum net states hsocket, ?_, ?_, hcounted.transmitAll states⟩
  · rw [← hinner, hrecorded.attempts_eq, hhanded, encodings, List.length_mapIdx]
  · rw [← hinner, hrecorded.datagrams_eq, hhanded]

end Transmitter

end Telemetry
