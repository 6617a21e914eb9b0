/-
Nothing is lost uncounted.

Every entry that the sampler takes is at any moment in exactly one place: in a queue, in a
hand, in a datagram, or in the counter of what became of it. Five objects keep the
counters, each for itself, and the balance between them holds after every event of every
course, the ends of the stages included.

* `Balanced` — the equations between the counters, queues and hands;
* `Wired` — what makes them hold: a channel loses its consumer only after its producer, and
  when it is empty; the socket is open; the position is that of the entries offered;
* `occur_balanced` — every event preserves both;
* `Setup.conservation` — the balance at every moment, and after the last one.
-/
import Telemetry.Proofs.Pipeline.Life

namespace Telemetry

/-- The balance of a pipeline after `taken` ticks that took an entry and `lawErrors`
failures of the law. -/
structure Balanced (u : Setup) (p : Pipeline ScriptedNetwork) (taken lawErrors : ℕ) :
    Prop where
  taken_offered : taken = p.samples.sent + p.samples.dropped
  taken_counted : taken = p.sampler.produced + p.sampler.dropped
  samples_sent : p.samples.sent =
    p.transform.processed + p.samples.queue.length + p.sampleInHand.toList.length
  processed : p.transform.processed = lawErrors + p.states.sent + p.states.dropped
  states_sent : p.states.sent = p.transmitter.sent + p.transmitter.failed +
    p.states.queue.length + p.stateInHand.toList.length
  datagrams : p.transmitter.sent = p.network.datagrams.length
  attempts : p.transmitter.sent + p.transmitter.failed = p.network.attempts
  samples_bounded : p.samples.queue.length ≤ u.sampleCapacity
  states_bounded : p.states.queue.length ≤ u.stateCapacity

/-- How the stages of a running pipeline hang together. -/
structure Wired (u : Setup) (p : Pipeline ScriptedNetwork) : Prop where
  waveform : p.sampler.waveform = u.waveform
  position : p.sampler.position = p.sampler.produced + p.sampler.dropped
  exhausted : p.sampler.phase = .suspended → u.waveform.length ≤ p.sampler.position
  position_le : p.sampler.position ≤ u.waveform.length
  sampleCapacity : p.samples.capacity = u.sampleCapacity
  stateCapacity : p.states.capacity = u.stateCapacity
  socket : p.transmitter.socket.isSome = true
  transform_ends : p.states.senderAlive = p.samples.receiverAlive
  transform_last : p.samples.receiverAlive = true ∨
    p.samples.senderAlive = false ∧ p.samples.queue = [] ∧ p.sampleInHand = none
  transmitter_last : p.states.receiverAlive = true ∨
    p.states.senderAlive = false ∧ p.states.queue = [] ∧ p.stateInHand = none

variable {u : Setup} {p : Pipeline ScriptedNetwork} {taken lawErrors : ℕ}

/-- A consumer outlives its producer, so no offer of the sampler is refused. -/
theorem Wired.samples_received (hw : Wired u p) (halive : p.alive .sampler = true) :
    p.samples.receiverAlive = true := by
  rcases hw.transform_last with h | ⟨hgone, -⟩
  · exact h
  · exact absurd (halive.symm.trans hgone) (by simp)

/-- No offer of the transform stage is refused either. -/
theorem Wired.states_received (hw : Wired u p) (halive : p.alive .transform = true) :
    p.states.receiverAlive = true := by
  rcases hw.transmitter_last with h | ⟨hgone, -⟩
  · exact h
  · exact absurd (halive.symm.trans (hw.transform_ends.symm.trans hgone)) (by simp)

/-! ### The sampler -/

theorem tick_balanced (hw : Wired u p) (hb : Balanced u p taken lawErrors)
    (halive : p.alive .sampler = true) :
    Wired u (p.step .tick).state ∧
    Balanced u (p.step .tick).state
      (taken + (p.sampler.tick p.samples).answer.isSome.toNat) lawErrors := by
  have hreceiver := hw.samples_received halive
  have hticked := p.sampler.tick_ticked p.samples
  show Wired u { p with
      sampler := (p.sampler.tick p.samples).state.1
      samples := (p.sampler.tick p.samples).state.2 } ∧
    Balanced u { p with
      sampler := (p.sampler.tick p.samples).state.1
      samples := (p.sampler.tick p.samples).state.2 } _ _
  generalize p.sampler.tick p.samples = ticked at hticked ⊢
  have hposition := hw.position
  have hoffered := hb.taken_offered
  have hcounted := hb.taken_counted
  have hsent := hb.samples_sent
  have hlt : ∀ {sample}, p.sampler.waveform.get? p.sampler.position = some sample →
      p.sampler.position + 1 ≤ u.waveform.length := by
    intro sample hget
    rw [hw.waveform] at hget
    exact (List.getElem?_eq_some_iff.mp hget).1
  have hend : p.sampler.phase = .reading → p.sampler.next.phase = .suspended →
      u.waveform.length ≤ p.sampler.position + 1 := by
    intro hphase hnext
    rw [← hw.waveform]
    exact Sampler.length_le_of_next_suspended hphase hnext
  cases hticked with
  | idle => exact ⟨hw, hb⟩
  | @taken sample hphase hget _ hroom =>
    refine ⟨{ hw with
      position := ?_, exhausted := hend hphase, position_le := hlt hget
      transform_last := Or.inl hreceiver }, { hb with
      taken_offered := ?_, taken_counted := ?_, samples_sent := ?_, samples_bounded := ?_ }⟩
    · show p.sampler.position + 1 = p.sampler.produced + 1 + p.sampler.dropped
      omega
    · show taken + 1 = p.samples.sent + 1 + p.samples.dropped
      omega
    · show taken + 1 = p.sampler.produced + 1 + p.sampler.dropped
      omega
    · show p.samples.sent + 1 = p.transform.processed + (p.samples.queue ++ [sample]).length +
        p.sampleInHand.toList.length
      rw [List.length_append, List.length_singleton]
      omega
    · show (p.samples.queue ++ [sample]).length ≤ u.sampleCapacity
      rw [List.length_append, List.length_singleton, ← hw.sampleCapacity]
      omega
  | dropped hphase hget =>
    refine ⟨{ hw with
      position := ?_, exhausted := hend hphase, position_le := hlt hget
      transform_last := Or.inl hreceiver }, { hb with
      taken_offered := ?_, taken_counted := ?_ }⟩
    · show p.sampler.position + 1 = p.sampler.produced + (p.sampler.dropped + 1)
      omega
    · show taken + 1 = p.samples.sent + (p.samples.dropped + 1)
      omega
    · show taken + 1 = p.sampler.produced + (p.sampler.dropped + 1)
      omega
  | refused hphase hget hgone => exact absurd (hreceiver.symm.trans hgone) (by simp)

/-! ### The transform stage -/

theorem takeSample_balanced (hw : Wired u p) (hb : Balanced u p taken lawErrors)
    (halive : p.alive .transform = true) :
    Wired u (p.step .takeSample).state ∧ Balanced u (p.step .takeSample).state taken lawErrors := by
  rcases p.step_takeSample with hstep | ⟨s, rest, hhand, hqueue, hstep⟩
  · rw [hstep]
    exact ⟨hw, hb⟩
  · rw [hstep]
    have hlength : p.samples.queue.length = rest.length + 1 := by
      rw [hqueue, List.length_cons]
    have hsent := hb.samples_sent
    have hbounded := hb.samples_bounded
    refine ⟨{ hw with transform_last := Or.inl halive }, { hb with
      samples_sent := ?_, samples_bounded := ?_ }⟩
    · show p.samples.sent = p.transform.processed + rest.length + 1
      rw [hhand, Option.toList_none, List.length_nil] at hsent
      omega
    · show rest.length ≤ u.sampleCapacity
      omega

theorem handleSample_balanced (hw : Wired u p) (hb : Balanced u p taken lawErrors)
    (halive : p.alive .transform = true) :
    Wired u (p.step .handleSample).state ∧
    Balanced u (p.step .handleSample).state taken
      (lawErrors + (p.failsLaw (.act .handleSample)).toNat) := by
  rcases p.step_handleSample with ⟨hhand, hstep⟩ | ⟨s, hhand, hstep⟩
  · rw [hstep, show p.failsLaw (.act .handleSample) = false by simp [Pipeline.failsLaw, hhand]]
    exact ⟨hw, hb⟩
  · have hreceiver := hw.states_received halive
    have hhandled := p.transform.handle_handled p.states s
    rw [hstep, show p.failsLaw (.act .handleSample) =
        Pipeline.isLawFailure (p.transform.handle p.states s).answer by
          simp [Pipeline.failsLaw, hhand, halive]]
    generalize p.transform.handle p.states s = handled at hhandled ⊢
    have hsent := hb.samples_sent
    have hprocessed := hb.processed
    have hstates := hb.states_sent
    rw [hhand, Option.toList_some, List.length_singleton] at hsent
    -- the sample leaves the hand, and is processed whatever comes of it
    have hsamples : p.samples.sent = p.transform.processed + 1 + p.samples.queue.length + 0 := by
      omega
    cases hhandled with
    | failed =>
      refine ⟨{ hw with transform_last := Or.inl halive }, { hb with
        samples_sent := hsamples, processed := ?_ }⟩
      show p.transform.processed + 1 = lawErrors + 1 + p.states.sent + p.states.dropped
      omega
    | @taken c _ _ hroom =>
      refine ⟨{ hw with
        transform_last := Or.inl halive, transmitter_last := Or.inl hreceiver }, { hb with
        samples_sent := hsamples, processed := ?_, states_sent := ?_, states_bounded := ?_ }⟩
      · show p.transform.processed + 1 = lawErrors + (p.states.sent + 1) + p.states.dropped
        omega
      · show p.states.sent + 1 = p.transmitter.sent + p.transmitter.failed +
          (p.states.queue ++ [(⟨s, c⟩ : ActuatorState)]).length + p.stateInHand.toList.length
        rw [List.length_append, List.length_singleton]
        omega
      · show (p.states.queue ++ [(⟨s, c⟩ : ActuatorState)]).length ≤ u.stateCapacity
        rw [List.length_append, List.length_singleton, ← hw.stateCapacity]
        omega
    | dropped =>
      refine ⟨{ hw with
        transform_last := Or.inl halive, transmitter_last := Or.inl hreceiver }, { hb with
        samples_sent := hsamples, processed := ?_ }⟩
      show p.transform.processed + 1 = lawErrors + p.states.sent + (p.states.dropped + 1)
      omega
    | refused _ hgone => exact absurd (hreceiver.symm.trans hgone) (by simp)

/-! ### The transmitter -/

theorem takeState_balanced (hw : Wired u p) (hb : Balanced u p taken lawErrors)
    (halive : p.alive .transmitter = true) :
    Wired u (p.step .takeState).state ∧ Balanced u (p.step .takeState).state taken lawErrors := by
  rcases p.step_takeState with hstep | ⟨a, rest, hhand, hqueue, hstep⟩
  · rw [hstep]
    exact ⟨hw, hb⟩
  · rw [hstep]
    have hlength : p.states.queue.length = rest.length + 1 := by
      rw [hqueue, List.length_cons]
    have hsent := hb.states_sent
    have hbounded := hb.states_bounded
    refine ⟨{ hw with transmitter_last := Or.inl halive }, { hb with
      states_sent := ?_, states_bounded := ?_ }⟩
    · show p.states.sent = p.transmitter.sent + p.transmitter.failed + rest.length + 1
      rw [hhand, Option.toList_none, List.length_nil] at hsent
      omega
    · show rest.length ≤ u.stateCapacity
      omega

theorem transmitState_balanced (hw : Wired u p) (hb : Balanced u p taken lawErrors)
    (halive : p.alive .transmitter = true) :
    Wired u (p.step .transmitState).state ∧
    Balanced u (p.step .transmitState).state taken lawErrors := by
  rcases p.step_transmitState with ⟨-, hstep⟩ | ⟨a, hhand, hstep⟩
  · rw [hstep]
    exact ⟨hw, hb⟩
  · have hdone := p.transmitter.transmit_transmitted p.network a
    rw [hstep]
    generalize p.transmitter.transmit p.network a = transmitted at hdone ⊢
    have hsent := hb.states_sent
    have hdatagrams := hb.datagrams
    have hattempts := hb.attempts
    rw [hhand, Option.toList_some, List.length_singleton] at hsent
    cases hdone with
    | unopened hsocket => exact absurd (hw.socket.symm.trans (by rw [hsocket])) (by simp)
    | @sent _ _ net hsocket hsend =>
      obtain ⟨-, -, hcount, hrecord⟩ := ScriptedNetwork.of_record_ok hsend
      refine ⟨{ hw with transmitter_last := Or.inl halive }, { hb with
        states_sent := ?_, datagrams := ?_, attempts := ?_ }⟩
      · show p.states.sent = p.transmitter.sent + 1 + p.transmitter.failed +
          p.states.queue.length + 0
        omega
      · show p.transmitter.sent + 1 = net.datagrams.length
        rw [hrecord, List.length_append, List.length_singleton, hdatagrams]
      · show p.transmitter.sent + 1 + p.transmitter.failed = net.attempts
        omega
    | @failed _ _ net hsocket hsend =>
      obtain ⟨-, -, -, hcount, hrecord⟩ := ScriptedNetwork.of_record_error hsend
      refine ⟨{ hw with transmitter_last := Or.inl halive }, { hb with
        states_sent := ?_, datagrams := ?_, attempts := ?_ }⟩
      · show p.states.sent = p.transmitter.sent + (p.transmitter.failed + 1) +
          p.states.queue.length + 0
        omega
      · show p.transmitter.sent = net.datagrams.length
        rw [hrecord, hdatagrams]
      · show p.transmitter.sent + (p.transmitter.failed + 1) = net.attempts
        omega

/-! ### The ends of the stages -/

theorem leave_balanced (hw : Wired u p) (hb : Balanced u p taken lawErrors) (s : Stage)
    (halive : p.alive s = true) :
    Wired u (p.leave s).state ∧ Balanced u (p.leave s).state taken lawErrors := by
  cases s with
  | sampler =>
    exact ⟨{ hw with transform_last := Or.inl (hw.samples_received halive) }, { hb with }⟩
  | transform =>
    rcases p.leave_transform with hleave | ⟨hhand, hqueue, hgone, hleave⟩
    · rw [hleave]
      exact ⟨hw, hb⟩
    · rw [hleave]
      exact ⟨{ hw with
        transform_ends := rfl
        transform_last := Or.inr ⟨hgone, hqueue, hhand⟩
        transmitter_last := Or.inl (hw.states_received halive) }, { hb with }⟩
  | transmitter =>
    rcases p.leave_transmitter with hleave | ⟨hhand, hqueue, hgone, hleave⟩
    · rw [hleave]
      exact ⟨hw, hb⟩
    · rw [hleave]
      exact ⟨{ hw with transmitter_last := Or.inr ⟨hgone, hqueue, hhand⟩ }, { hb with }⟩

/-! ### Courses -/

/-- Every event preserves the balance. -/
theorem occur_balanced (hw : Wired u p) (hb : Balanced u p taken lawErrors) (e : Event) :
    Wired u (p.occur e).state ∧
    Balanced u (p.occur e).state (taken + (p.takesEntry e).toNat)
      (lawErrors + (p.failsLaw e).toNat) := by
  cases e with
  | leave s =>
    by_cases halive : p.alive s = true
    · rw [Pipeline.occur, if_pos halive]
      exact leave_balanced hw hb s halive
    · rw [Pipeline.occur, if_neg halive]
      exact ⟨hw, hb⟩
  | act a =>
    by_cases halive : p.alive a.stage = true
    · rw [Pipeline.occur, if_pos halive]
      cases a with
      | tick =>
        rw [show p.takesEntry (.act .tick) = (p.sampler.tick p.samples).answer.isSome by
          rw [Pipeline.takesEntry, show p.alive .sampler = true from halive, Bool.true_and]]
        exact tick_balanced hw hb halive
      | takeSample => exact takeSample_balanced hw hb halive
      | handleSample => exact handleSample_balanced hw hb halive
      | takeState => exact takeState_balanced hw hb halive
      | transmitState => exact transmitState_balanced hw hb halive
    · rw [Pipeline.occur, if_neg halive]
      have hgone : p.alive a.stage = false := by simpa using halive
      cases a with
      | tick =>
        rw [show p.takesEntry (.act .tick) = false by
          rw [Pipeline.takesEntry, show p.alive .sampler = false from hgone, Bool.false_and]]
        exact ⟨hw, hb⟩
      | handleSample =>
        rw [show p.failsLaw (.act .handleSample) = false by
          rw [Pipeline.failsLaw, show p.alive .transform = false from hgone, Bool.false_and]]
        exact ⟨hw, hb⟩
      | takeSample => exact ⟨hw, hb⟩
      | takeState => exact ⟨hw, hb⟩
      | transmitState => exact ⟨hw, hb⟩

/-- Every course preserves the balance. -/
theorem course_balanced (es : List Event) : ∀ {p : Pipeline ScriptedNetwork} {taken lawErrors : ℕ},
    Wired u p → Balanced u p taken lawErrors →
    Wired u (p.course es).state ∧
    Balanced u (p.course es).state (taken + p.tally Pipeline.takesEntry es)
      (lawErrors + p.tally Pipeline.failsLaw es) := by
  -- on the events, for all counts to begin with: each event adds its own to them
  induction es with
  | nil => exact fun hw hb => ⟨hw, hb⟩
  | cons e rest ih =>
    intro p taken lawErrors hw hb
    obtain ⟨hw', hb'⟩ := occur_balanced hw hb e
    have := ih hw' hb'
    rwa [Nat.add_assoc, Nat.add_assoc] at this

/-- A pipeline that has just started is balanced. -/
theorem Setup.started_balanced (u : Setup) (now : Instant) :
    Wired u (u.started now) ∧ Balanced u (u.started now) 0 0 := by
  refine ⟨⟨rfl, rfl, fun hphase => ?_, Nat.zero_le _, rfl, rfl, rfl, rfl, Or.inl rfl, Or.inl rfl⟩,
    ⟨rfl, rfl, rfl, rfl, rfl, rfl, rfl, Nat.zero_le _, Nat.zero_le _⟩⟩
  rcases hsamples : u.waveform.samples with _ | ⟨s, rest⟩
  · simp [Waveform.length, hsamples]
  · simp [Setup.started, Pipeline.start, Pipeline.create, Sampler.create, Sampler.start,
      hsamples] at hphase

/-- When every stage is gone, nothing is left on the way. -/
theorem Wired.empty (hw : Wired u p) (hgone : ∀ s, p.alive s = false) :
    p.samples.queue = [] ∧ p.sampleInHand = none ∧ p.states.queue = [] ∧ p.stateInHand = none := by
  have htransform : p.samples.receiverAlive = false := hgone .transform
  have htransmitter : p.states.receiverAlive = false := hgone .transmitter
  rcases hw.transform_last with h | ⟨-, hsamples, hsample⟩
  · exact absurd (h.symm.trans htransform) (by simp)
  · rcases hw.transmitter_last with h | ⟨-, hstates, hstate⟩
    · exact absurd (h.symm.trans htransmitter) (by simp)
    · exact ⟨hsamples, hsample, hstates, hstate⟩

/-- **Conservation.** In every course of a pipeline, at every moment, the counters, queues
and hands are in balance; and when the waveform is exhausted and all stages are gone, both
channels are empty and every entry of the waveform is a datagram or counted as lost. -/
theorem Setup.conservation (u : Setup) (now : Instant) (es : List Event) :
    let p := u.started now
    let q := (p.course es).state
    let taken := p.tally Pipeline.takesEntry es
    let lawErrors := p.tally Pipeline.failsLaw es
    Balanced u q taken lawErrors ∧
    (q.sampler.phase = .suspended → (∀ s, q.alive s = false) →
      q.samples.queue = [] ∧ q.states.queue = [] ∧
      u.waveform.length = q.network.datagrams.length + q.transmitter.failed + lawErrors +
        q.samples.dropped + q.states.dropped) := by
  intro p q taken lawErrors
  obtain ⟨hw, hb⟩ := u.started_balanced now
  obtain ⟨hw, hb⟩ := course_balanced es hw hb
  rw [Nat.zero_add, Nat.zero_add] at hb
  refine ⟨hb, fun hphase hgone => ?_⟩
  obtain ⟨hsamples, hsample, hstates, hstate⟩ := hw.empty hgone
  refine ⟨hsamples, hstates, ?_⟩
  have hlength : u.waveform.length = q.sampler.position :=
    Nat.le_antisymm (hw.exhausted hphase) hw.position_le
  have hposition : q.sampler.position = taken := hw.position.trans hb.taken_counted.symm
  have hoffered : taken = q.samples.sent + q.samples.dropped := hb.taken_offered
  have hsent : q.samples.sent = q.transform.processed := by
    have := hb.samples_sent
    rwa [hsamples, hsample] at this
  have hprocessed : q.transform.processed = lawErrors + q.states.sent + q.states.dropped :=
    hb.processed
  have hforwarded : q.states.sent = q.transmitter.sent + q.transmitter.failed := by
    have := hb.states_sent
    rwa [hstates, hstate] at this
  have hdatagrams : q.transmitter.sent = q.network.datagrams.length := hb.datagrams
  omega

/-- A setup with one place in each channel, a law that fails for one of five samples, and a
network that loses the first datagram. -/
def Setup.lossy : Setup where
  waveform := ⟨[5, 7, 9, 11, 13]⟩
  period := 1000
  law := fun s => if s = 7 then .error (.script "odd") else .ok (invert s)
  description := "lossy"
  sampleCapacity := 1
  stateCapacity := 1
  destination := ⟨.loopback, 9889⟩
  readyPoll := 1000
  seqnum := 0
  upAfter := 0
  failAttempts := [1]

/-- A whole life in which one entry is lost in every way, and one arrives. -/
def Event.wholeLife : List Event :=
  [.act .tick, .act .takeSample, .act .handleSample, .act .tick, .act .takeSample,
    .act .handleSample, .act .tick, .act .takeSample, .act .handleSample, .act .takeState,
    .act .transmitState, .act .tick, .act .tick, .leave .sampler, .act .takeSample,
    .act .handleSample, .leave .transform, .act .takeState, .act .transmitState,
    .leave .transmitter]

theorem Setup.conservation_lossy :
    let q := ((Setup.lossy.started 0).course Event.wholeLife).state
    q.sampler.phase = .suspended ∧ (∀ s, q.alive s = false) ∧
    Setup.lossy.waveform.length = q.network.datagrams.length + q.transmitter.failed +
      (Setup.lossy.started 0).tally Pipeline.failsLaw Event.wholeLife +
      q.samples.dropped + q.states.dropped := by
  intro q
  have hphase : q.sampler.phase = .suspended := by rfl
  have hgone : ∀ s, q.alive s = false := by
    intro s
    cases s <;> rfl
  obtain ⟨-, hend⟩ := Setup.lossy.conservation 0 Event.wholeLife
  obtain ⟨-, -, hlength⟩ := hend hphase hgone
  exact ⟨hphase, hgone, hlength⟩

end Telemetry
