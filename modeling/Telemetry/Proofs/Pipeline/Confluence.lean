/-
Runs that lose nothing end alike.

A waveform that is no longer than either channel cannot overrun them. Then every entry taken
is somewhere on its way, in order, and what the sampler has taken determines what is handled,
made and attempted up to the items still queued or in hand. When nothing is left on the way,
the order of the steps has left no trace.

* `Unbroken` — the entries taken and the states made of them, all still in the file;
* `occur_unbroken` — every event preserves it, so no step of any course drops an item;
* `Underway.totals_of_complete`, `RunToEnd.totals_of_room` — what a complete course and the staged
  run leave behind, as a function of the setup;
* `Setup.schedule_independence` — complete courses end alike, and like the staged run.
-/
import Telemetry.Proofs.Pipeline.Conservation
import Telemetry.Proofs.Pipeline.Staged

namespace Telemetry

/-! ### Courses behind a tap -/

namespace Pipeline

variable {ν : Type}

theorem alive_untapped (p : Pipeline (Tapped ν)) (s : Stage) : p.untapped.alive s = p.alive s := by
  cases s <;> rfl

theorem leave_untapped (p : Pipeline (Tapped ν)) (s : Stage) :
    (p.leave s).state.untapped = (p.untapped.leave s).state := by
  obtain ⟨sampler, samples, transform, sampleInHand, states, transmitter, stateInHand, network⟩ := p
  cases s with
  | sampler => rfl
  | transform =>
    rcases sampleInHand with _ | s
    · simp only [leave, untapped]
      rcases samples.receive with ⟨_ | _ | _, rx⟩ <;> rfl
    · rfl
  | transmitter =>
    rcases stateInHand with _ | a
    · simp only [leave, untapped]
      rcases states.receive with ⟨_ | _ | _, rx⟩ <;> rfl
    · rfl

/-- The end of a stage leaves the network as it is. -/
theorem leave_network (p : Pipeline ν) (s : Stage) : (p.leave s).state.network = p.network := by
  cases s with
  | sampler => rfl
  | transform => rcases p.leave_transform with h | ⟨-, -, -, h⟩ <;> rw [h]
  | transmitter => rcases p.leave_transmitter with h | ⟨-, -, -, h⟩ <;> rw [h]

variable [NetworkStack ν]

theorem occur_untapped (p : Pipeline (Tapped ν)) (e : Event) :
    (p.occur e).state.untapped = (p.untapped.occur e).state := by
  cases e with
  | act a =>
    simp only [occur, alive_untapped]
    split
    · exact p.step_untapped a
    · rfl
  | leave s =>
    simp only [occur, alive_untapped]
    split
    · exact p.leave_untapped s
    · rfl

/-- A tap does not change the course of a pipeline. -/
theorem course_untapped (es : List Event) : ∀ p : Pipeline (Tapped ν),
    (p.course es).state.untapped = (p.untapped.course es).state := by
  induction es with
  | nil => exact fun _ => rfl
  | cons e rest ih =>
    intro p
    show ((p.occur e).state.course rest).state.untapped = _
    rw [ih, occur_untapped]
    rfl

/-- The buffers that a course hands to the network, sent or not, in order. -/
def courseAttempts (p : Pipeline ν) (es : List Event) : List (List UInt8) :=
  (p.tapped.course es).state.network.handed

end Pipeline

theorem occur_recorded {fails : List ℕ} (p : Pipeline (Tapped ScriptedNetwork)) (e : Event)
    (h : Recorded fails p.network) : Recorded fails (p.occur e).state.network := by
  refine p.occur_preserves (P := fun q => Recorded fails q.network) e h
    (fun a _ => step_recorded p a h) (fun s _ => ?_)
  rw [p.leave_network s]
  exact h

/-! ### Nothing is lost on the way -/

/-- A pipeline has handled the entries `handled` and attempted the states `done`, and has
dropped nothing: all entries taken are in the file, and so are all states made. -/
structure Unbroken (u : Setup) (handled : List Sample) (done : List ActuatorState)
    (p : Pipeline (Tapped ScriptedNetwork)) : Prop where
  law_eq : p.transform.law = u.law
  entries : handled ++ p.sampleInHand.toList ++ p.samples.queue =
    u.waveform.samples.take p.sampler.position
  made : done ++ p.stateInHand.toList ++ p.states.queue = Transform.lawful u.law handled
  seqnum : p.transmitter.seqnum = seqnumAfter u.seqnum done.length
  handed : p.network.handed = encodings u.seqnum done
  samples_kept : p.samples.dropped = 0
  states_kept : p.states.dropped = 0
  sampler_kept : p.sampler.dropped = 0

variable {u : Setup} {handled : List Sample} {done : List ActuatorState}
  {p : Pipeline (Tapped ScriptedNetwork)}

namespace Transform

theorem lawful_concat (law : Sample → Except Error Command) (samples : List Sample) (s : Sample) :
    lawful law (samples ++ [s]) = lawful law samples ++ (lawfulState law s).toList := by
  rw [lawful, lawful, List.filterMap_append, List.filterMap_cons]
  rcases lawfulState law s with _ | a <;> rfl

theorem length_lawful_le (law : Sample → Except Error Command) (samples : List Sample) :
    (lawful law samples).length ≤ samples.length :=
  List.length_filterMap_le _ _

end Transform

namespace Unbroken

/-- The first channel and the hand behind it hold entries taken and not yet handled. -/
theorem length_entries (h : Unbroken u handled done p) :
    handled.length + p.sampleInHand.toList.length + p.samples.queue.length ≤
      p.sampler.position := by
  have hlength := congrArg List.length h.entries
  rw [List.length_append, List.length_append, List.length_take] at hlength
  omega

/-- The second channel and the hand behind it hold states of entries handled. -/
theorem length_made (h : Unbroken u handled done p) :
    done.length + p.stateInHand.toList.length + p.states.queue.length ≤ handled.length := by
  have hlength := congrArg List.length h.made
  rw [List.length_append, List.length_append] at hlength
  exact hlength.trans_le (Transform.length_lawful_le u.law handled)

theorem tick (h : Unbroken u handled done p) (hw : Wired u p.untapped)
    (hroom : u.waveform.length ≤ u.sampleCapacity) (halive : p.alive .sampler = true) :
    Unbroken u handled done (p.step .tick).state := by
  have hreceiver : p.samples.receiverAlive = true := hw.samples_received halive
  have hwaveform : p.sampler.waveform = u.waveform := hw.waveform
  have hcapacity : p.samples.capacity = u.sampleCapacity := hw.sampleCapacity
  have hlength := h.length_entries
  have hticked := p.sampler.tick_ticked p.samples
  show Unbroken u handled done { p with
    sampler := (p.sampler.tick p.samples).state.1
    samples := (p.sampler.tick p.samples).state.2 }
  generalize p.sampler.tick p.samples = ticked at hticked ⊢
  cases hticked with
  | idle => exact h
  | @taken sample _ hget =>
    rw [hwaveform] at hget
    refine { h with entries := ?_ }
    show handled ++ p.sampleInHand.toList ++ (p.samples.queue ++ [sample]) =
      u.waveform.samples.take (p.sampler.position + 1)
    rw [← List.append_assoc, h.entries, Waveform.take_succ_of_get hget]
  | dropped _ hget _ hfull =>
    -- fewer entries are on their way than the channel has places
    rw [hwaveform] at hget
    have hlt : p.sampler.position < u.waveform.length := (List.getElem?_eq_some_iff.mp hget).1
    omega
  | refused _ _ hgone => exact absurd (hreceiver.symm.trans hgone) (by simp)

theorem takeSample (h : Unbroken u handled done p) :
    Unbroken u handled done (p.step .takeSample).state := by
  rcases p.step_takeSample with hstep | ⟨sample, rest, hhand, hqueue, hstep⟩
  · rw [hstep]
    exact h
  · rw [hstep]
    have hentries := h.entries
    rw [hhand, hqueue, Option.toList_none, List.append_nil] at hentries
    refine { h with entries := ?_ }
    simpa using hentries

theorem handleSample (h : Unbroken u handled done p) (hw : Wired u p.untapped)
    (hroom : u.waveform.length ≤ u.stateCapacity) (halive : p.alive .transform = true) :
    ∃ handled', Unbroken u handled' done (p.step .handleSample).state := by
  rcases p.step_handleSample with ⟨-, hstep⟩ | ⟨sample, hhand, hstep⟩
  · rw [hstep]
    exact ⟨handled, h⟩
  · have hreceiver : p.states.receiverAlive = true := hw.states_received halive
    have hcapacity : p.states.capacity = u.stateCapacity := hw.stateCapacity
    have hposition : p.sampler.position ≤ u.waveform.length := hw.position_le
    have hentries := h.length_entries
    have hmade := h.length_made
    rw [hhand, Option.toList_some, List.length_singleton] at hentries
    have hfile : handled ++ [sample] ++ [] ++ p.samples.queue =
        u.waveform.samples.take p.sampler.position := by
      have := h.entries
      rwa [hhand, Option.toList_some, ← List.append_nil (handled ++ [sample])] at this
    have hhandled := p.transform.handle_handled p.states sample
    rw [hstep]
    generalize p.transform.handle p.states sample = outcome at hhandled ⊢
    refine ⟨handled ++ [sample], ?_⟩
    cases hhandled with
    | @failed e hlaw =>
      rw [h.law_eq] at hlaw
      refine { h with entries := hfile, made := ?_ }
      rw [Transform.lawful_concat, Transform.lawfulState, hlaw, Option.toList_none,
        List.append_nil]
      exact h.made
    | @taken c hlaw =>
      rw [h.law_eq] at hlaw
      refine { h with entries := hfile, made := ?_ }
      show done ++ p.stateInHand.toList ++ (p.states.queue ++ [⟨sample, c⟩]) = _
      rw [Transform.lawful_concat, Transform.lawfulState, hlaw, Option.toList_some,
        ← List.append_assoc, h.made]
    | dropped _ _ hfull =>
      -- fewer states are on their way than entries have been handled
      omega
    | refused _ hgone => exact absurd (hreceiver.symm.trans hgone) (by simp)

theorem takeState (h : Unbroken u handled done p) :
    Unbroken u handled done (p.step .takeState).state := by
  rcases p.step_takeState with hstep | ⟨a, rest, hhand, hqueue, hstep⟩
  · rw [hstep]
    exact h
  · rw [hstep]
    have hmade := h.made
    rw [hhand, hqueue, Option.toList_none, List.append_nil] at hmade
    refine { h with made := ?_ }
    simpa using hmade

theorem transmitState (h : Unbroken u handled done p) (hw : Wired u p.untapped) :
    ∃ done', Unbroken u handled done' (p.step .transmitState).state := by
  rcases p.step_transmitState with ⟨-, hstep⟩ | ⟨a, hhand, hstep⟩
  · rw [hstep]
    exact ⟨done, h⟩
  · rw [hstep]
    have hsocket : p.transmitter.socket.isSome = true := hw.socket
    obtain ⟨-, hseqnum, hhanded⟩ :=
      Transmitter.transmit_numbered a hsocket h.seqnum h.handed
    have hmade := h.made
    rw [hhand, Option.toList_some, ← List.append_nil (done ++ [a])] at hmade
    exact ⟨done ++ [a], { h with made := hmade, seqnum := hseqnum, handed := hhanded }⟩

theorem leave (h : Unbroken u handled done p) (s : Stage) :
    Unbroken u handled done (p.leave s).state := by
  cases s with
  | sampler => exact { h with }
  | transform =>
    rcases p.leave_transform with hleave | ⟨-, -, -, hleave⟩
    · rw [hleave]
      exact h
    · rw [hleave]
      exact { h with }
  | transmitter =>
    rcases p.leave_transmitter with hleave | ⟨-, -, -, hleave⟩
    · rw [hleave]
      exact h
    · rw [hleave]
      exact { h with }

end Unbroken

/-- No event breaks the file, if the waveform is no longer than the channels. -/
theorem occur_unbroken (hsamples : u.waveform.length ≤ u.sampleCapacity)
    (hstates : u.waveform.length ≤ u.stateCapacity) (h : Unbroken u handled done p)
    (hw : Wired u p.untapped) (e : Event) :
    ∃ handled' done', Unbroken u handled' done' (p.occur e).state := by
  refine p.occur_preserves (P := fun q => ∃ handled' done', Unbroken u handled' done' q) e
    ⟨handled, done, h⟩ (fun a halive => ?_) (fun s _ => ⟨handled, done, h.leave s⟩)
  cases a with
  | tick => exact ⟨handled, done, h.tick hw hsamples halive⟩
  | takeSample => exact ⟨handled, done, h.takeSample⟩
  | handleSample =>
    obtain ⟨handled', h'⟩ := h.handleSample hw hstates halive
    exact ⟨handled', done, h'⟩
  | takeState => exact ⟨handled, done, h.takeState⟩
  | transmitState =>
    obtain ⟨done', h'⟩ := h.transmitState hw
    exact ⟨handled, done', h'⟩

/-! ### Courses -/

/-- What is known of a pipeline at every moment of a course without overrun. -/
structure Underway (u : Setup) (p : Pipeline (Tapped ScriptedNetwork)) : Prop where
  wired : Wired u p.untapped
  balanced : ∃ taken lawErrors, Balanced u p.untapped taken lawErrors
  recorded : Recorded u.failAttempts p.network
  unbroken : ∃ handled done, Unbroken u handled done p

theorem course_underway (hsamples : u.waveform.length ≤ u.sampleCapacity)
    (hstates : u.waveform.length ≤ u.stateCapacity) (es : List Event) :
    ∀ {p : Pipeline (Tapped ScriptedNetwork)}, Underway u p → Underway u (p.course es).state := by
  induction es with
  | nil => exact fun h => h
  | cons e rest ih =>
    intro p h
    obtain ⟨taken, lawErrors, hb⟩ := h.balanced
    obtain ⟨handled, done, hunbroken⟩ := h.unbroken
    obtain ⟨hwired, hbalanced⟩ := occur_balanced h.wired hb e
    rw [← p.occur_untapped e] at hwired hbalanced
    exact ih ⟨hwired, ⟨_, _, hbalanced⟩, occur_recorded p e h.recorded,
      occur_unbroken hsamples hstates hunbroken h.wired e⟩

theorem Setup.started_underway (u : Setup) (now : Instant) : Underway u (u.started now).tapped := by
  obtain ⟨hw, hb⟩ := u.started_balanced now
  refine ⟨hw, ⟨0, 0, hb⟩, ⟨rfl, rfl, rfl⟩, [], [], ⟨rfl, rfl, rfl, ?_, rfl, rfl, rfl, rfl⟩⟩
  rw [List.length_nil, seqnumAfter_zero]
  rfl

/-- Nothing has been dropped on the way: every entry taken has been sent to the transform
stage, and every state made of the entries handled has been sent on. -/
structure NothingLost (u : Setup) (p : Pipeline ScriptedNetwork) : Prop where
  samples_kept : p.samples.dropped = 0
  states_kept : p.states.dropped = 0
  sampler_kept : p.sampler.dropped = 0
  samples_sent : p.samples.sent = p.sampler.position
  states_sent : p.states.sent =
    (Transform.lawful u.law (u.waveform.samples.take p.transform.processed)).length

/-- The entries handled are the first of the waveform. -/
theorem Unbroken.take_handled (h : Unbroken u handled done p) :
    u.waveform.samples.take handled.length = handled := by
  have hprefix : handled <+: u.waveform.samples := by
    refine List.IsPrefix.trans ?_ (List.take_prefix p.sampler.position _)
    rw [← h.entries, List.append_assoc]
    exact List.prefix_append _ _
  exact (List.prefix_iff_eq_take.mp hprefix).symm

theorem Underway.samples_sent (h : Underway u p) : p.samples.sent = p.sampler.position := by
  obtain ⟨taken, lawErrors, hb⟩ := h.balanced
  obtain ⟨handled, done, hunbroken⟩ := h.unbroken
  have hoffered : taken = p.samples.sent + p.samples.dropped := hb.taken_offered
  have hcounted : taken = p.sampler.produced + p.sampler.dropped := hb.taken_counted
  have hposition : p.sampler.position = p.sampler.produced + p.sampler.dropped :=
    h.wired.position
  have hkept := hunbroken.samples_kept
  omega

theorem Underway.processed_eq (h : Underway u p) (hunbroken : Unbroken u handled done p) :
    p.transform.processed = handled.length := by
  obtain ⟨taken, lawErrors, hb⟩ := h.balanced
  have hsent : p.samples.sent =
      p.transform.processed + p.samples.queue.length + p.sampleInHand.toList.length :=
    hb.samples_sent
  have hposition : p.sampler.position ≤ u.waveform.samples.length := h.wired.position_le
  have hlength := congrArg List.length hunbroken.entries
  rw [List.length_append, List.length_append, List.length_take, Nat.min_eq_left hposition,
    ← h.samples_sent] at hlength
  omega

theorem Underway.states_sent (h : Underway u p) (hunbroken : Unbroken u handled done p) :
    p.states.sent = (Transform.lawful u.law handled).length := by
  obtain ⟨taken, lawErrors, hb⟩ := h.balanced
  have hsent : p.states.sent = p.transmitter.sent + p.transmitter.failed +
      p.states.queue.length + p.stateInHand.toList.length := hb.states_sent
  have hattempts : p.transmitter.sent + p.transmitter.failed = p.network.inner.attempts :=
    hb.attempts
  rw [h.recorded.attempts_eq, hunbroken.handed, encodings, List.length_mapIdx] at hattempts
  have hmade := congrArg List.length hunbroken.made
  rw [List.length_append, List.length_append] at hmade
  omega

theorem Underway.nothingLost (h : Underway u p) : NothingLost u p.untapped := by
  obtain ⟨handled, done, hunbroken⟩ := h.unbroken
  refine ⟨hunbroken.samples_kept, hunbroken.states_kept, hunbroken.sampler_kept,
    h.samples_sent, (h.states_sent hunbroken).trans ?_⟩
  show _ = (Transform.lawful u.law (u.waveform.samples.take p.transform.processed)).length
  rw [h.processed_eq hunbroken, hunbroken.take_handled]

/-! ### What a run leaves behind -/

/-- What can be read from a pipeline when it is over. -/
structure Totals where
  datagrams : List (List UInt8)
  seqnum : UInt32
  sent : ℕ
  failed : ℕ
  processed : ℕ
  samplesSent : ℕ
  samplesDropped : ℕ
  statesSent : ℕ
  statesDropped : ℕ
deriving DecidableEq

/-- What a pipeline has left behind so far. -/
def Pipeline.totals (p : Pipeline ScriptedNetwork) : Totals where
  datagrams := p.network.datagrams
  seqnum := p.transmitter.seqnum
  sent := p.transmitter.sent
  failed := p.transmitter.failed
  processed := p.transform.processed
  samplesSent := p.samples.sent
  samplesDropped := p.samples.dropped
  statesSent := p.states.sent
  statesDropped := p.states.dropped

/-- The waveform is exhausted, and every stage is gone. -/
def Pipeline.Complete {ν : Type} (p : Pipeline ν) : Prop :=
  p.sampler.phase = .suspended ∧ ∀ s, p.alive s = false

namespace Setup

/-- The states of the entries on which the law succeeds. -/
def lawfulStates (u : Setup) : List ActuatorState := Transform.lawful u.law u.waveform.samples

/-- The attempts of a run that loses nothing: these states, under consecutive numbers. -/
def losslessAttempts (u : Setup) : List (List UInt8) := encodings u.seqnum u.lawfulStates

/-- What a run leaves behind that loses nothing. -/
def losslessTotals (u : Setup) : Totals where
  datagrams := survivors u.failAttempts u.losslessAttempts
  seqnum := seqnumAfter u.seqnum u.lawfulStates.length
  sent := (survivors u.failAttempts u.losslessAttempts).length
  failed := u.lawfulStates.length - (survivors u.failAttempts u.losslessAttempts).length
  processed := u.waveform.length
  samplesSent := u.waveform.length
  samplesDropped := 0
  statesSent := u.lawfulStates.length
  statesDropped := 0

theorem length_losslessAttempts (u : Setup) :
    u.losslessAttempts.length = u.lawfulStates.length := by
  rw [losslessAttempts, encodings, List.length_mapIdx]

end Setup

/-- A complete run without overrun has attempted every state there is to make. -/
theorem Underway.done_of_complete (h : Underway u p) (hcomplete : p.untapped.Complete) :
    Unbroken u u.waveform.samples u.lawfulStates p := by
  obtain ⟨hphase, hgone⟩ := hcomplete
  obtain ⟨handled, done, hunbroken⟩ := h.unbroken
  obtain ⟨hsamples, hsample, hstates, hstate⟩ := h.wired.empty hgone
  have hposition : u.waveform.samples.length ≤ p.sampler.position := h.wired.exhausted hphase
  have hentries : handled ++ p.sampleInHand.toList ++ p.samples.queue =
      u.waveform.samples := by
    rw [hunbroken.entries, List.take_of_length_le hposition]
  rw [show p.sampleInHand = none from hsample, show p.samples.queue = [] from hsamples,
    Option.toList_none, List.append_nil, List.append_nil] at hentries
  have hmade := hunbroken.made
  rw [show p.stateInHand = none from hstate, show p.states.queue = [] from hstates,
    Option.toList_none, List.append_nil, List.append_nil, hentries] at hmade
  rw [Setup.lawfulStates, ← hmade, ← hentries]
  exact hunbroken

/-- So what it leaves behind does not depend on the order of its steps. -/
theorem Underway.totals_of_complete (h : Underway u p) (hcomplete : p.untapped.Complete) :
    p.untapped.totals = u.losslessTotals ∧ p.network.handed = u.losslessAttempts := by
  have hdone := h.done_of_complete hcomplete
  obtain ⟨taken, lawErrors, hb⟩ := h.balanced
  have hposition : p.untapped.sampler.position = u.waveform.length :=
    Nat.le_antisymm h.wired.position_le (h.wired.exhausted hcomplete.1)
  have hsamples : p.untapped.samples.sent = u.waveform.length :=
    h.samples_sent.trans hposition
  have hprocessed : p.untapped.transform.processed = u.waveform.length := h.processed_eq hdone
  have hstates : p.untapped.states.sent = u.lawfulStates.length := h.states_sent hdone
  have hsamplesKept : p.untapped.samples.dropped = 0 := hdone.samples_kept
  have hstatesKept : p.untapped.states.dropped = 0 := hdone.states_kept
  have hseqnum : p.untapped.transmitter.seqnum = seqnumAfter u.seqnum u.lawfulStates.length :=
    hdone.seqnum
  have hhanded : p.network.handed = u.losslessAttempts := hdone.handed
  have hdatagrams : p.untapped.network.datagrams = survivors u.failAttempts u.losslessAttempts := by
    rw [← hhanded]
    exact h.recorded.datagrams_eq
  have hsent : p.untapped.transmitter.sent =
      (survivors u.failAttempts u.losslessAttempts).length := by
    rw [hb.datagrams, hdatagrams]
  have hattempts : p.untapped.transmitter.sent + p.untapped.transmitter.failed =
      u.lawfulStates.length := by
    rw [hb.attempts, ← u.length_losslessAttempts, ← hhanded]
    exact h.recorded.attempts_eq
  refine ⟨?_, hhanded⟩
  rw [Pipeline.totals, Setup.losslessTotals, hdatagrams, hseqnum, hsent, hprocessed, hsamples,
    hsamplesKept, hstates, hstatesKept, Totals.mk.injEq]
  refine ⟨rfl, rfl, rfl, ?_, rfl, rfl, rfl, rfl, rfl⟩
  omega

section Staged

variable (hsamples : u.waveform.length ≤ u.sampleCapacity)
  (hstates : u.waveform.length ≤ u.stateCapacity)

include hsamples in
/-- With room for every entry, the staged run makes all states there are to make. -/
theorem Setup.stagedStates_of_room : u.stagedStates = u.lawfulStates := by
  have hentries : u.stagedEntries = u.waveform.samples := List.take_of_length_le hsamples
  rw [stagedStates, hentries, lawfulStates]

include hstates in
theorem Setup.length_lawfulStates_le : u.lawfulStates.length ≤ u.stateCapacity :=
  (Transform.length_lawful_le u.law u.waveform.samples).trans hstates

include hsamples hstates in
theorem Setup.stagedAttempts_of_room : u.stagedAttempts = u.lawfulStates.length := by
  rw [stagedAttempts, stagedStates_of_room hsamples,
    Nat.min_eq_left (length_lawfulStates_le hstates)]

include hsamples hstates in
/-- The staged run loses nothing either, if the waveform is no longer than the channels. -/
theorem RunToEnd.totals_of_room {answer : Option (Except Error Unit)} {p : Pipeline ScriptedNetwork}
    (h : RunToEnd u answer p) : p.totals = u.losslessTotals := by
  have hmade : u.stagedStates = u.lawfulStates := Setup.stagedStates_of_room hsamples
  have hroom := Setup.length_lawfulStates_le hstates
  have hattempts := Setup.stagedAttempts_of_room hsamples hstates
  have hsamplesSent : p.samples.sent = u.waveform.length := by
    rw [h.samples_sent, Nat.min_eq_left hsamples]
  have hsamplesDropped : p.samples.dropped = 0 := by
    rw [h.samples_dropped, Nat.min_eq_left hsamples, Nat.sub_self]
  have hprocessed : p.transform.processed = u.waveform.length := by
    rw [h.processed, Nat.min_eq_left hsamples]
  have hstatesSent : p.states.sent = u.lawfulStates.length := by
    rw [h.states_sent, hmade, Nat.min_eq_left hroom]
  have hstatesDropped : p.states.dropped = 0 := by
    rw [h.states_dropped, hmade, Nat.min_eq_left hroom, Nat.sub_self]
  have hseqnum : p.transmitter.seqnum = seqnumAfter u.seqnum u.lawfulStates.length := by
    rw [h.seqnum, hattempts]
  have hdatagrams : p.network.datagrams = survivors u.failAttempts u.losslessAttempts := by
    rw [h.datagrams, hmade, hattempts, List.take_length, Setup.losslessAttempts]
  -- the failed attempts are those that have not become datagrams
  have hsurvivors := length_survivors u.failAttempts u.losslessAttempts
  have hfailed := h.failed
  have hsent := h.sent
  rw [u.length_losslessAttempts] at hsurvivors
  rw [hattempts] at hfailed hsent
  rw [Pipeline.totals, Setup.losslessTotals, hdatagrams, hseqnum, hprocessed, hsamplesSent,
    hsamplesDropped, hstatesSent, hstatesDropped, Totals.mk.injEq]
  refine ⟨rfl, rfl, ?_, ?_, rfl, rfl, rfl, rfl, rfl⟩
  · omega
  · omega

end Staged

/-- **Schedule independence.** If the waveform is no longer than either channel, no event of
any course drops an item; any two complete courses leave the same behind, and hand the same
buffers to the network; and what they leave behind is that of the stages run one after the
other until the network is up, with an attempt for every entry on which the law succeeds, in
order. -/
theorem Setup.schedule_independence (u : Setup)
    (hsamples : u.waveform.length ≤ u.sampleCapacity)
    (hstates : u.waveform.length ≤ u.stateCapacity) (now now' : Instant) :
    (∀ es, NothingLost u ((u.started now).course es).state) ∧
    (∀ es es', ((u.started now).course es).state.Complete →
      ((u.started now').course es').state.Complete →
      ((u.started now).course es).state.totals = ((u.started now').course es').state.totals ∧
      (u.started now).courseAttempts es = (u.started now').courseAttempts es') ∧
    (∀ es, ((u.started now).course es).state.Complete →
      (∀ rounds, u.upAfter < rounds →
        ((u.started now).course es).state.totals = (u.pipeline.runStaged rounds).state.totals) ∧
      (u.started now).courseAttempts es =
        encodings u.seqnum (Transform.lawful u.law u.waveform.samples)) := by
  have hunderway : ∀ now es, Underway u ((u.started now).tapped.course es).state :=
    fun now es => course_underway hsamples hstates es (u.started_underway now)
  have huntapped : ∀ now es, ((u.started now).tapped.course es).state.untapped =
      ((u.started now).course es).state :=
    fun now es => Pipeline.course_untapped es (u.started now).tapped
  have hstaged : ∀ rounds, u.upAfter < rounds →
      (u.pipeline.runStaged rounds).state.totals = u.losslessTotals := fun rounds hrounds =>
    (runBehind_runToEnd hrounds (Sampler.start_ticks_exhausts u.waveform u.period 0
      u.pipeline.samples)).totals_of_room hsamples hstates
  have hend : ∀ now es, ((u.started now).course es).state.Complete →
      ((u.started now).course es).state.totals = u.losslessTotals ∧
      (u.started now).courseAttempts es = u.losslessAttempts := by
    intro now es hcomplete
    rw [← huntapped now es] at hcomplete ⊢
    exact (hunderway now es).totals_of_complete hcomplete
  refine ⟨fun es => ?_, fun es es' h h' => ?_, fun es h => ?_⟩
  · rw [← huntapped now es]
    exact (hunderway now es).nothingLost
  · obtain ⟨htotals, hattempts⟩ := hend now es h
    obtain ⟨htotals', hattempts'⟩ := hend now' es' h'
    exact ⟨htotals.trans htotals'.symm, hattempts.trans hattempts'.symm⟩
  · obtain ⟨htotals, hattempts⟩ := hend now es h
    exact ⟨fun rounds hrounds => htotals.trans (hstaged rounds hrounds).symm, hattempts⟩

/-- A setup with room for its three entries, whose law fails for the second of them, and whose
first attempt carries the number zero and is lost. -/
def Setup.roomy : Setup where
  waveform := ⟨[5, 7, 9]⟩
  period := 1000
  law := fun s => if s = 7 then .error (.script "odd") else .ok (invert s)
  description := "roomy"
  sampleCapacity := 3
  stateCapacity := 3
  destination := ⟨.loopback, 9889⟩
  readyPoll := 1000
  seqnum := 0xFFFFFFFF
  upAfter := 2
  failAttempts := [1]

/-- Each stage goes to its end before the next begins. -/
def Event.inTurn : List Event :=
  [.act .tick, .act .tick, .act .tick, .leave .sampler,
    .act .takeSample, .act .handleSample, .act .takeSample, .act .handleSample,
    .act .takeSample, .act .handleSample, .leave .transform,
    .act .takeState, .act .transmitState, .act .takeState, .act .transmitState,
    .leave .transmitter]

/-- Every entry goes all the way before the next is taken. -/
def Event.oneByOne : List Event :=
  [.act .tick, .act .takeSample, .act .handleSample, .act .takeState, .act .transmitState,
    .act .tick, .act .takeSample, .act .handleSample,
    .act .tick, .leave .sampler, .act .takeSample, .act .handleSample, .act .takeState,
    .leave .transform, .act .transmitState, .leave .transmitter]

theorem Setup.schedule_independence_roomy :
    let p := ((Setup.roomy.started 0).course Event.inTurn).state
    let q := ((Setup.roomy.started 7).course Event.oneByOne).state
    p.Complete ∧ q.Complete ∧ p.totals = q.totals ∧
    q.totals.sent = 1 ∧ q.totals.failed = 1 ∧
    p.totals = (Setup.roomy.pipeline.runStaged 3).state.totals ∧
    (Setup.roomy.started 7).courseAttempts Event.oneByOne =
      encodings 0xFFFFFFFF [⟨5, invert 5⟩, ⟨9, invert 9⟩] := by
  intro p q
  have hp : p.Complete := ⟨rfl, fun s => by cases s <;> rfl⟩
  have hq : q.Complete := ⟨rfl, fun s => by cases s <;> rfl⟩
  have hsamples : Setup.roomy.waveform.length ≤ Setup.roomy.sampleCapacity := by decide
  have hstates : Setup.roomy.waveform.length ≤ Setup.roomy.stateCapacity := by decide
  obtain ⟨-, hpair, hstaged⟩ := Setup.roomy.schedule_independence hsamples hstates 0 7
  obtain ⟨htotals, hattempts⟩ := hpair Event.inTurn Event.oneByOne hp hq
  obtain ⟨hruns, hlawful⟩ := hstaged Event.inTurn hp
  exact ⟨hp, hq, htotals, rfl, rfl, hruns 3 (by decide), hattempts.symm.trans hlawful⟩

end Telemetry
