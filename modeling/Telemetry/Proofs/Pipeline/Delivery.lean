/-
What a pipeline sends, whatever the order of its steps.

Samples pass through the pipeline in single file. Behind the attempts already made come
the state in hand, the queued states, the sample in hand and the queued samples, and all
of these together, read from front to back, are a sublist of the entries taken so far: a
loss takes an item out of the file and never changes the order of the rest.

* `Aligned` — this invariant, with the laws and numbers of the items;
* `step_aligned` — every step of every stage preserves it;
* `Setup.attempts_follow_waveform` — the attempts of any schedule carry the commands for
  entries at increasing positions, numbered one by one, and the datagrams are the attempts
  that were not made to fail.

Design notes: a failed send leaves nothing in the network, so the attempts are read from a
tap, which changes no run (`Pipeline.steps_tapped`).
-/
import Mathlib.Data.List.NodupEquivFin
import Mathlib.Order.Monotone.Defs
import Telemetry.Proofs.Pipeline.Setup
import Telemetry.Proofs.Pipeline.Tap
import Telemetry.Proofs.Wire.Message

namespace Telemetry

/-- The `k`-th sequence number after `s`. -/
def seqnumAfter (s : UInt32) (k : ℕ) : UInt32 := UInt32.ofNat ((s.toNat + k) % 2 ^ 32)

@[simp] theorem seqnumAfter_zero (s : UInt32) : seqnumAfter s 0 = s := by
  simp [seqnumAfter]

theorem seqnumAfter_succ (s : UInt32) (k : ℕ) : seqnumAfter s (k + 1) = seqnumAfter s k + 1 := by
  rw [← UInt32.toNat_inj, UInt32.toNat_add]
  simp only [seqnumAfter, UInt32.toNat_ofNat', UInt32.toNat_one]
  omega

/-- The buffers of states that are sent one after the other behind the number `s`. -/
def encodings (s : UInt32) (states : List ActuatorState) : List (List UInt8) :=
  states.mapIdx fun k a => (Message.actuatorState (seqnumAfter s (k + 1)) a).encode

theorem encodings_concat (s : UInt32) (states : List ActuatorState) (a : ActuatorState) :
    encodings s (states ++ [a]) =
      encodings s states ++
        [(Message.actuatorState (seqnumAfter s (states.length + 1)) a).encode] := by
  rw [encodings, List.mapIdx_concat, encodings]

/-- A transmission over an open socket is one more attempt, whatever the network answers. -/
theorem Transmitter.transmit_numbered {ν : Type} [NetworkStack ν] {t : Transmitter}
    {n : Tapped ν} {s : UInt32} {done : List ActuatorState} (a : ActuatorState)
    (hsocket : t.socket.isSome = true) (hseqnum : t.seqnum = seqnumAfter s done.length)
    (hhanded : n.handed = encodings s done) :
    (t.transmit n a).state.1.socket.isSome = true ∧
    (t.transmit n a).state.1.seqnum = seqnumAfter s (done ++ [a]).length ∧
    (t.transmit n a).state.2.handed = encodings s (done ++ [a]) := by
  obtain ⟨destination, hdestination⟩ := Option.isSome_iff_exists.mp hsocket
  obtain ⟨hnumber, hopen, hnetwork⟩ := transmit_of_socket n a hdestination
  have hnext : t.seqnum + 1 = seqnumAfter s (done ++ [a]).length := by
    rw [hseqnum, List.length_append, List.length_singleton, seqnumAfter_succ]
  refine ⟨by rw [hopen]; rfl, hnumber.trans hnext, ?_⟩
  rw [hnetwork, Tapped.send_handed, hhanded, encodings_concat, nextMessage, hnext,
    List.length_append, List.length_singleton]

/-- The entries up to one of them, this one included. -/
theorem Waveform.take_succ_of_get {w : Waveform} {k : ℕ} {s : Sample} (h : w.get? k = some s) :
    w.samples.take (k + 1) = w.samples.take k ++ [s] := by
  rw [List.take_add_one, show w.samples[k]? = some s from h]
  rfl

/-! ### Items in single file -/

/-- The pipeline `p` has made attempts with the states `done`, from the entries of `w`
under `law` and behind the number `s`. -/
structure Aligned {ν : Type} (w : Waveform) (law : Sample → Except Error Command) (s : UInt32)
    (done : List ActuatorState) (p : Pipeline ν) : Prop where
  waveform : p.sampler.waveform = w
  law_eq : p.transform.law = law
  socket : p.transmitter.socket.isSome = true
  seqnum : p.transmitter.seqnum = seqnumAfter s done.length
  lawful : ∀ a ∈ done ++ p.stateInHand.toList ++ p.states.queue, law a.sample = .ok a.command
  inOrder : ((done ++ p.stateInHand.toList ++ p.states.queue).map (·.sample) ++
    p.sampleInHand.toList ++ p.samples.queue).Sublist (w.samples.take p.sampler.position)

variable {ν : Type} [NetworkStack ν] {w : Waveform} {law : Sample → Except Error Command}
  {s : UInt32} {done : List ActuatorState}

namespace Aligned

theorem tick {p : Pipeline ν} (h : Aligned w law s done p) :
    Aligned w law s done (p.step .tick).state := by
  have hticked := p.sampler.tick_ticked p.samples
  show Aligned w law s done { p with
    sampler := (p.sampler.tick p.samples).state.1
    samples := (p.sampler.tick p.samples).state.2 }
  generalize p.sampler.tick p.samples = ticked at hticked ⊢
  -- whatever becomes of the entry, one more of them has been taken
  have htake : ∀ {sample}, p.sampler.waveform.get? p.sampler.position = some sample →
      w.samples.take (p.sampler.position + 1) =
        w.samples.take p.sampler.position ++ [sample] := by
    intro sample hget
    rw [h.waveform] at hget
    exact Waveform.take_succ_of_get hget
  cases hticked with
  | idle => exact h
  | taken hphase hget =>
    refine { h with inOrder := ?_ }
    show List.Sublist _ (w.samples.take (p.sampler.position + 1))
    rw [htake hget, ← List.append_assoc]
    exact h.inOrder.append (List.Sublist.refl _)
  | dropped hphase hget =>
    refine { h with inOrder := ?_ }
    show List.Sublist _ (w.samples.take (p.sampler.position + 1))
    rw [htake hget]
    exact h.inOrder.trans (List.sublist_append_left _ _)
  | refused hphase hget =>
    refine { h with inOrder := ?_ }
    show List.Sublist _ (w.samples.take (p.sampler.position + 1))
    rw [htake hget]
    exact h.inOrder.trans (List.sublist_append_left _ _)

theorem takeSample {p : Pipeline ν} (h : Aligned w law s done p) :
    Aligned w law s done (p.step .takeSample).state := by
  rcases p.step_takeSample with hstep | ⟨sample, rest, hhand, hqueue, hstep⟩
  · rw [hstep]
    exact h
  · rw [hstep]
    have hinOrder := h.inOrder
    rw [hhand, hqueue, Option.toList_none, List.append_nil] at hinOrder
    refine { h with inOrder := ?_ }
    simpa using hinOrder

theorem handleSample {p : Pipeline ν} (h : Aligned w law s done p) :
    Aligned w law s done (p.step .handleSample).state := by
  rcases p.step_handleSample with ⟨-, hstep⟩ | ⟨sample, hhand, hstep⟩
  · rw [hstep]
    exact h
  · have hhandled := p.transform.handle_handled p.states sample
    rw [hstep]
    generalize p.transform.handle p.states sample = handled at hhandled ⊢
    have hinOrder := h.inOrder
    rw [hhand] at hinOrder
    -- a sample that is lost here leaves the middle of the file
    have hlost : List.Sublist ((done ++ p.stateInHand.toList ++ p.states.queue).map (·.sample) ++
        [] ++ p.samples.queue) (w.samples.take p.sampler.position) :=
      (((List.Sublist.refl _).append (List.nil_sublist _)).append (List.Sublist.refl _)).trans
        hinOrder
    cases hhandled with
    | failed => exact { h with inOrder := hlost }
    | dropped => exact { h with inOrder := hlost }
    | refused => exact { h with inOrder := hlost }
    | @taken c hlaw =>
      refine { h with lawful := ?_, inOrder := ?_ }
      · intro a ha
        rw [← List.append_assoc, List.mem_append, List.mem_singleton] at ha
        rcases ha with ha | rfl
        · exact h.lawful a ha
        · rw [← h.law_eq]
          exact hlaw
      · simpa using hinOrder

theorem takeState {p : Pipeline ν} (h : Aligned w law s done p) :
    Aligned w law s done (p.step .takeState).state := by
  rcases p.step_takeState with hstep | ⟨a, rest, hhand, hqueue, hstep⟩
  · rw [hstep]
    exact h
  · rw [hstep]
    have hfile : done ++ p.stateInHand.toList ++ p.states.queue = done ++ [a] ++ rest := by
      simp [hhand, hqueue]
    have hlawful := h.lawful
    have hinOrder := h.inOrder
    rw [hfile] at hlawful hinOrder
    exact { h with lawful := hlawful, inOrder := hinOrder }

/-- A transmission turns the state in hand into one more attempt. -/
theorem transmitState {p : Pipeline (Tapped ν)} (h : Aligned w law s done p)
    (hhanded : p.network.handed = encodings s done) :
    ∃ done', Aligned w law s done' (p.step .transmitState).state ∧
      (p.step .transmitState).state.network.handed = encodings s done' := by
  rcases p.step_transmitState with ⟨-, hstep⟩ | ⟨a, hhand, hstep⟩
  · rw [hstep]
    exact ⟨done, h, hhanded⟩
  · rw [hstep]
    obtain ⟨hsocket, hseqnum, hhanded'⟩ :=
      Transmitter.transmit_numbered a h.socket h.seqnum hhanded
    -- the state in hand joins the attempts from behind, so the file reads as before
    have hfile : done ++ p.stateInHand.toList ++ p.states.queue =
        done ++ [a] ++ [] ++ p.states.queue := by
      rw [hhand, Option.toList_some, List.append_nil]
    have hlawful := h.lawful
    have hinOrder := h.inOrder
    rw [hfile] at hlawful hinOrder
    exact ⟨done ++ [a], ⟨h.waveform, h.law_eq, hsocket, hseqnum, hlawful, hinOrder⟩, hhanded'⟩

end Aligned

/-- Every step keeps the items in single file, and the tap in line with the attempts. -/
theorem step_aligned (p : Pipeline (Tapped ν)) (a : Action)
    (h : ∃ done, Aligned w law s done p ∧ p.network.handed = encodings s done) :
    ∃ done, Aligned w law s done (p.step a).state ∧
      (p.step a).state.network.handed = encodings s done := by
  obtain ⟨done, h, hhanded⟩ := h
  by_cases ha : a = .transmitState
  · subst ha
    exact h.transmitState hhanded
  · refine ⟨done, ?_, by rw [p.step_network ha]; exact hhanded⟩
    cases a with
    | tick => exact h.tick
    | takeSample => exact h.takeSample
    | handleSample => exact h.handleSample
    | takeState => exact h.takeState
    | transmitState => exact absurd rfl ha

/-- What is in single file stays so along every schedule. -/
theorem steps_aligned (p : Pipeline ν) (as : List Action) (h : Aligned w law s [] p) :
    ∃ done, Aligned w law s done (p.steps as).state ∧ p.attempts as = encodings s done := by
  have htapped : Aligned w law s [] p.tapped :=
    ⟨h.waveform, h.law_eq, h.socket, h.seqnum, h.lawful, h.inOrder⟩
  obtain ⟨done, hdone, hhanded⟩ :=
    Pipeline.steps_invariant (P := fun p : Pipeline (Tapped ν) =>
      ∃ done, Aligned w law s done p ∧ p.network.handed = encodings s done)
      step_aligned as ⟨[], htapped, rfl⟩
  refine ⟨done, ?_, hhanded⟩
  rw [← p.steps_tapped as]
  exact ⟨hdone.waveform, hdone.law_eq, hdone.socket, hdone.seqnum, hdone.lawful, hdone.inOrder⟩

/-! ### Attempts and datagrams -/

/-- The attempts, numbered from one, that are not among those to fail. -/
def survivors (fails : List ℕ) (attempts : List (List UInt8)) : List (List UInt8) :=
  ((attempts.zipIdx 1).filter fun attempt => attempt.2 ∉ fails).map (·.1)

theorem survivors_concat (fails : List ℕ) (attempts : List (List UInt8)) (bytes : List UInt8) :
    survivors fails (attempts ++ [bytes]) =
      survivors fails attempts ++ if attempts.length + 1 ∈ fails then [] else [bytes] := by
  rw [survivors, survivors, List.zipIdx_append, List.filter_append, List.map_append]
  by_cases hfail : attempts.length + 1 ∈ fails
  · simp [hfail, Nat.add_comm]
  · simp [hfail, Nat.add_comm]

/-- The tap and the network behind it agree on the attempts and on what became of them. -/
structure Recorded (fails : List ℕ) (n : Tapped ScriptedNetwork) : Prop where
  fails_eq : n.inner.failAttempts = fails
  attempts_eq : n.inner.attempts = n.handed.length
  datagrams_eq : n.inner.datagrams = survivors fails n.handed

theorem Recorded.send {fails : List ℕ} {n : Tapped ScriptedNetwork} (h : Recorded fails n)
    (destination : SocketAddr) (bytes : List UInt8) :
    Recorded fails (NetworkStack.send n destination bytes).2 := by
  have hinner : (NetworkStack.send n destination bytes).2.inner = (n.inner.record bytes).2 := rfl
  have hlength : n.inner.attempts + 1 = (n.handed ++ [bytes]).length := by
    rw [h.attempts_eq, List.length_append, List.length_singleton]
  by_cases hfail : n.inner.attempts + 1 ∈ n.inner.failAttempts
  · refine ⟨?_, ?_, ?_⟩ <;> rw [hinner] <;> simp only [ScriptedNetwork.record, if_pos hfail]
    · exact h.fails_eq
    · exact hlength
    · rw [h.fails_eq, h.attempts_eq] at hfail
      rw [Tapped.send_handed, survivors_concat, if_pos hfail, List.append_nil]
      exact h.datagrams_eq
  · refine ⟨?_, ?_, ?_⟩ <;> rw [hinner] <;> simp only [ScriptedNetwork.record, if_neg hfail]
    · exact h.fails_eq
    · exact hlength
    · rw [h.fails_eq, h.attempts_eq] at hfail
      rw [Tapped.send_handed, survivors_concat, if_neg hfail, h.datagrams_eq]

theorem Recorded.transmit {fails : List ℕ} {n : Tapped ScriptedNetwork} (h : Recorded fails n)
    (t : Transmitter) (a : ActuatorState) : Recorded fails (t.transmit n a).state.2 := by
  rcases hsocket : t.socket with _ | destination
  · rw [show t.transmit n a = ⟨.error (.transmitFailed "socket not open"), (t, n), []⟩ by
      simp [Transmitter.transmit, hsocket]]
    exact h
  · rw [(Transmitter.transmit_of_socket n a hsocket).2.2]
    exact h.send destination _

theorem step_recorded {fails : List ℕ} (p : Pipeline (Tapped ScriptedNetwork)) (a : Action)
    (h : Recorded fails p.network) : Recorded fails (p.step a).state.network := by
  by_cases ha : a = .transmitState
  · subst ha
    rcases p.step_transmitState with ⟨-, hstep⟩ | ⟨state, -, hstep⟩
    · rw [hstep]
      exact h
    · rw [hstep]
      exact h.transmit p.transmitter state
  · rw [p.step_network ha]
    exact h

/-- The datagrams of a schedule are the attempts that were not made to fail. -/
theorem datagrams_eq_survivors (p : Pipeline ScriptedNetwork) (as : List Action)
    (h : Recorded p.network.failAttempts ⟨p.network, []⟩) :
    (p.steps as).state.network.attempts = (p.attempts as).length ∧
    (p.steps as).state.network.datagrams =
      survivors p.network.failAttempts (p.attempts as) := by
  have hrecorded := Pipeline.steps_invariant
    (P := fun q : Pipeline (Tapped ScriptedNetwork) => Recorded p.network.failAttempts q.network)
    step_recorded as (p := p.tapped) h
  rw [← p.steps_tapped as]
  exact ⟨hrecorded.attempts_eq, hrecorded.datagrams_eq⟩

/-! ### The attempts of a setup -/

/-- A pipeline that has just started has its items in single file. -/
theorem Setup.started_aligned (u : Setup) (now : Instant) :
    Aligned u.waveform u.law u.seqnum [] (u.started now) := by
  refine ⟨rfl, rfl, rfl, ?_, ?_, ?_⟩
  · rw [List.length_nil, seqnumAfter_zero]
    rfl
  · intro a ha
    exact absurd ha (List.not_mem_nil)
  · exact List.nil_sublist _

/-- **Attempts follow the waveform.** Whatever the order of the steps, the `k`-th attempt
carries the `k`-th number and the command for an entry of the waveform, at a position
behind that of the attempt before it; the network counts every attempt, and its datagrams
are the attempts that were not made to fail, in order. -/
theorem Setup.attempts_follow_waveform (u : Setup) (now : Instant) (as : List Action) :
    (∃ position : ℕ → ℕ, StrictMono position ∧
      ∀ k bytes, ((u.started now).attempts as)[k]? = some bytes →
        ∃ s c, u.waveform.get? (position k) = some s ∧ u.law s = .ok c ∧
          bytes = (Message.actuatorState (seqnumAfter u.seqnum (k + 1)) ⟨s, c⟩).encode ∧
          Message.decode bytes =
            .ok (Message.actuatorState (seqnumAfter u.seqnum (k + 1)) ⟨s, c⟩)) ∧
    ((u.started now).steps as).state.network.attempts = ((u.started now).attempts as).length ∧
    ((u.started now).steps as).state.network.datagrams =
      survivors u.failAttempts ((u.started now).attempts as) := by
  obtain ⟨done, haligned, hattempts⟩ := steps_aligned _ as (u.started_aligned now)
  refine ⟨?_, datagrams_eq_survivors _ as ⟨rfl, rfl, rfl⟩⟩
  have hsublist : (done.map (·.sample)).Sublist u.waveform.samples := by
    refine List.Sublist.trans ?_ (haligned.inOrder.trans (List.take_sublist _ _))
    simp only [List.map_append, List.append_assoc]
    exact List.sublist_append_left _ _
  -- the positions are those at which the sublist sits in the waveform
  obtain ⟨position, hposition⟩ :=
    List.sublist_iff_exists_orderEmbedding_getElem?_eq.mp hsublist
  refine ⟨position, position.strictMono, fun k bytes hbytes => ?_⟩
  rw [hattempts, encodings, List.getElem?_mapIdx, Option.map_eq_some_iff] at hbytes
  obtain ⟨a, ha, rfl⟩ := hbytes
  refine ⟨a.sample, a.command, ?_, ?_, rfl, Message.decode_encode_actuatorState _ _⟩
  · have := hposition k
    rw [List.getElem?_map, ha] at this
    exact this.symm
  · refine haligned.lawful a ?_
    rw [List.append_assoc]
    exact List.mem_append_left _ (List.mem_of_getElem? ha)

end Telemetry
