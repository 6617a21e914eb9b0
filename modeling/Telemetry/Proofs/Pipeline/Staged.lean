/-
The three stages one after the other.

Run one after the other, each stage finds a channel that holds all it will ever hold and has
lost its producer. So what is left behind can be written down: the first channel keeps as many
entries as it has places, the second as many of their states, and these are the attempts.

* `Pipeline.runBehind` — the last two stages behind a sampler that is done, and
  `Pipeline.runTimed`, where the sampler waits for its deadlines before;
* `length_survivors` — what arrives and what fails are all attempts;
* `Transmitter.run_scripted` — a transmitter on a scripted network, its wait included;
* `RunToEnd`, `StillWaiting` — what the stages leave behind when the network is up, and before;
* `Setup.staged_closed_form` — counters, polls, numbers and datagrams of the staged run.

Design notes: the last stage is followed for a number of polls. With too few of them it is seen
waiting, and has sent nothing; with enough of them the number no longer matters.
-/
import Mathlib.Order.Interval.Finset.Nat
import Telemetry.Proofs.Stage.Loop
import Telemetry.Proofs.Stage.Readiness
import Telemetry.Proofs.Stage.Transmission

namespace Telemetry

/-- The attempts that are not made to fail, and those that are, are all attempts. -/
theorem length_survivors (fails : List ℕ) (attempts : List (List UInt8)) :
    (survivors fails attempts).length +
      (Finset.Icc 1 attempts.length ∩ fails.toFinset).card = attempts.length := by
  induction attempts using List.reverseRecOn with
  | nil => rfl
  | append_singleton attempts bytes ih =>
    have hnumbers : Finset.Icc 1 (attempts.length + 1) =
        insert (attempts.length + 1) (Finset.Icc 1 attempts.length) := by
      ext k
      simp only [Finset.mem_Icc, Finset.mem_insert]
      omega
    have hnew : attempts.length + 1 ∉ Finset.Icc 1 attempts.length ∩ fails.toFinset := by
      simp
    rw [survivors_concat, List.length_append, List.length_append, List.length_singleton, hnumbers]
    by_cases hfail : attempts.length + 1 ∈ fails
    · rw [Finset.insert_inter_of_mem (List.mem_toFinset.mpr hfail),
        Finset.card_insert_of_notMem hnew, if_pos hfail, List.length_nil]
      omega
    · rw [Finset.insert_inter_of_notMem (by rwa [List.mem_toFinset]), if_neg hfail,
        List.length_singleton]
      omega

/-! ### The transmitter -/

namespace Transmitter

/-- A transmitter on a scripted network waits for it, opens its socket, and transmits what
its channel holds. -/
theorem run_scripted (t : Transmitter) {net : ScriptedNetwork} {rx : Channel ActuatorState}
    {rounds : ℕ} (hpolls : net.polls ≤ net.upAfter) (hrounds : net.upAfter < net.polls + rounds)
    (hgone : rx.senderAlive = false) :
    (t.run rounds net rx).answer = some (.ok ()) ∧
    (t.run rounds net rx).state =
      let done := transmitAll { t with socket := some t.destination }
        ({ net with polls := net.upAfter + 1 } : ScriptedNetwork) rx.queue
      (done.1, done.2, { rx with queue := [] }) := by
  obtain ⟨hup, hwait⟩ := (waitForNetwork_scripted net hpolls rounds).1 hrounds
  have hopen : ∀ net' : ScriptedNetwork, t.openSocket net' =
      ⟨.ok (), ({ t with socket := some t.destination }, net'), [.socketOpen t.destination]⟩ :=
    fun _ => rfl
  simp only [run, hup, hwait, hopen, true_and]
  exact drain_of_gone _ hgone (Nat.lt_succ_self _)

end Transmitter

/-! ### The stages behind each other -/

namespace Pipeline

variable {ν : Type} [NetworkStack ν]

/-- The last two stages, each to the end of what its channel holds, behind a sampler that has
left `after` behind and is gone. -/
def runBehind (p : Pipeline ν) (rounds : ℕ) (after : Sampler × Channel Sample) :
    Step (Pipeline ν) (Option (Except Error Unit)) :=
  let handled := p.transform.run after.2.dropSender p.states
  let sent := p.transmitter.run rounds p.network handled.state.2.2.dropSender
  ⟨sent.answer,
    { p with
      sampler := after.1, samples := handled.state.2.1, transform := handled.state.1,
      states := sent.state.2.2, transmitter := sent.state.1, network := sent.state.2.1 },
    handled.notices ++ sent.notices⟩

theorem runBehind_eq {p : Pipeline ν} {rounds : ℕ} {after : Sampler × Channel Sample}
    {t : Transform} {samples : Channel Sample} {states states' : Channel ActuatorState}
    {t' : Transmitter} {net : ν} {answer : Option (Except Error Unit)}
    (hhandled : (p.transform.run after.2.dropSender p.states).state = (t, samples, states))
    (hanswer : (p.transmitter.run rounds p.network states.dropSender).answer = answer)
    (hsent : (p.transmitter.run rounds p.network states.dropSender).state = (t', net, states')) :
    (p.runBehind rounds after).answer = answer ∧
    (p.runBehind rounds after).state = { p with
      sampler := after.1, samples := samples, transform := t, states := states'
      transmitter := t', network := net } := by
  simp only [runBehind, hhandled, hanswer, hsent]
  exact ⟨trivial, trivial⟩

/-- The staged run with a sampler that waits for its deadlines on a clock. -/
def runTimed (p : Pipeline ν) (clock : ℕ → Instant) (rounds : ℕ) :
    Step (Pipeline ν) (Option (Except Error Unit)) :=
  let sampled := p.sampler.run p.samples clock
  let behind := p.runBehind rounds sampled.state
  ⟨behind.answer, behind.state, sampled.notices ++ behind.notices⟩

/-- Once there is an answer, more polls change nothing. -/
theorem runStaged_of_le {p : Pipeline ν} {rounds more : ℕ}
    (hanswer : (p.runStaged rounds).answer ≠ none) (hle : rounds ≤ more) :
    p.runStaged more = p.runStaged rounds := by
  simp only [runStaged] at hanswer ⊢
  rw [Transmitter.run_of_le hanswer hle]

end Pipeline

namespace Setup

/-- The pipeline of a setup before any of its stages has begun. -/
def pipeline (u : Setup) : Pipeline ScriptedNetwork :=
  Pipeline.create u.waveform u.period u.law u.description u.sampleCapacity u.stateCapacity
    u.transmitter u.network

/-- The entries for which the first channel has room. -/
def stagedEntries (u : Setup) : List Sample := u.waveform.samples.take u.sampleCapacity

/-- The states of these entries, as far as the law succeeds on them. -/
def stagedStates (u : Setup) : List ActuatorState := Transform.lawful u.law u.stagedEntries

/-- The number of states for which the second channel has room, and so of attempts. -/
def stagedAttempts (u : Setup) : ℕ := min u.stagedStates.length u.stateCapacity

/-- The transmitter of a setup with its socket open, and its network once it is up. -/
def opened (u : Setup) : Transmitter × ScriptedNetwork :=
  ({ u.transmitter with socket := some u.destination },
    { u.network with polls := u.upAfter + 1 })

/-- Transmitter and network at the end of the staged run. -/
def stagedEnd (u : Setup) : Transmitter × ScriptedNetwork :=
  u.opened.1.transmitAll u.opened.2 (u.stagedStates.take u.stagedAttempts)

theorem length_stagedEntries (u : Setup) :
    u.stagedEntries.length = min u.waveform.length u.sampleCapacity := by
  rw [stagedEntries, List.length_take, Nat.min_comm]
  rfl

/-- The end of the staged run: every state is an attempt, and each of these is a datagram or
has failed. -/
theorem stagedEnd_scripted (u : Setup) :
    u.stagedEnd.1.seqnum = seqnumAfter u.seqnum u.stagedAttempts ∧
    u.stagedEnd.1.failed = (Finset.Icc 1 u.stagedAttempts ∩ u.failAttempts.toFinset).card ∧
    u.stagedEnd.1.sent = u.stagedAttempts - u.stagedEnd.1.failed ∧
    u.stagedEnd.2.polls = u.upAfter + 1 ∧
    u.stagedEnd.2.attempts = u.stagedAttempts ∧
    u.stagedEnd.2.datagrams =
      survivors u.failAttempts (encodings u.seqnum (u.stagedStates.take u.stagedAttempts)) := by
  have hlength : (u.stagedStates.take u.stagedAttempts).length = u.stagedAttempts := by
    rw [List.length_take]
    exact Nat.min_eq_left (Nat.min_le_left _ _)
  have hpolls : u.stagedEnd.2.polls = u.upAfter + 1 := Transmitter.transmitAll_polls _ _ _
  obtain ⟨hseqnum, hattempts, hdatagrams, hcounted⟩ := @Transmitter.transmitAll_scripted
    u.opened.1 u.opened.2 (u.stagedStates.take u.stagedAttempts) rfl rfl rfl rfl rfl
  rw [hlength] at hseqnum hattempts
  have hsurvivors := length_survivors u.failAttempts
    (encodings u.seqnum (u.stagedStates.take u.stagedAttempts))
  have hattempted : u.stagedEnd.1.sent + u.stagedEnd.1.failed = u.stagedAttempts :=
    hcounted.attempts.trans hattempts
  have hsent : u.stagedEnd.1.sent = (survivors u.failAttempts
      (encodings u.seqnum (u.stagedStates.take u.stagedAttempts))).length :=
    hcounted.sent.trans (congrArg List.length hdatagrams)
  rw [← hsent, encodings, List.length_mapIdx, hlength] at hsurvivors
  exact ⟨hseqnum, by omega, by omega, hpolls, hattempts, hdatagrams⟩

/-- The first channel when the second stage is done with it. -/
def stagedSamples (u : Setup) : Channel Sample :=
  ⟨Pipeline.sampleChannel, u.sampleCapacity, [], min u.waveform.length u.sampleCapacity,
    u.waveform.length - u.sampleCapacity, false, true⟩

/-- The second stage when it is done. -/
def stagedTransform (u : Setup) : Transform := ⟨u.law, u.description, u.stagedEntries.length⟩

/-- The second channel when the second stage is done and gone, with a queue that is still there or
has been emptied. -/
def stagedChannel (u : Setup) (queue : List ActuatorState) : Channel ActuatorState :=
  ⟨Pipeline.stateChannel, u.stateCapacity, queue, u.stagedAttempts,
    u.stagedStates.length - u.stateCapacity, false, true⟩

/-- The second stage behind a sampler that has offered every entry. -/
theorem transform_run_state (u : Setup) :
    (u.pipeline.transform.run (u.pipeline.samples.sendAll u.waveform.samples).dropSender
      u.pipeline.states).state =
      (u.stagedTransform, u.stagedSamples,
        { u.stagedChannel (u.stagedStates.take u.stagedAttempts) with senderAlive := true }) := by
  have hsamples : u.pipeline.samples.sendAll u.waveform.samples =
      ⟨Pipeline.sampleChannel, u.sampleCapacity, u.stagedEntries,
        min u.waveform.length u.sampleCapacity, u.waveform.length - u.sampleCapacity,
        true, true⟩ := Channel.sendAll_create _ _ _
  have htake : u.stagedStates.take u.stateCapacity = u.stagedStates.take u.stagedAttempts := by
    rw [stagedAttempts, Nat.min_comm]
    exact List.take_eq_take_min
  have hstates : u.pipeline.states.sendAll u.stagedStates =
      { u.stagedChannel (u.stagedStates.take u.stagedAttempts) with senderAlive := true } := by
    rw [← htake]
    exact Channel.sendAll_create _ _ _
  have hhandled : (u.pipeline.transform.run
      (u.pipeline.samples.sendAll u.waveform.samples).dropSender u.pipeline.states).state =
      (⟨u.law, u.description, 0 + u.stagedEntries.length⟩, u.stagedSamples,
        u.pipeline.states.sendAll u.stagedStates) := by
    rw [hsamples]
    exact Transform.drain_of_gone _ rfl (Nat.lt_succ_self _)
  rwa [hstates, Nat.zero_add] at hhandled

variable {rounds : ℕ}

/-- The last two stages behind a sampler that has offered every entry, when the network comes up. -/
theorem runBehind_of_lt (u : Setup) (hrounds : u.upAfter < rounds) (sampler : Sampler) :
    (u.pipeline.runBehind rounds
        (sampler, u.pipeline.samples.sendAll u.waveform.samples)).answer = some (.ok ()) ∧
    (u.pipeline.runBehind rounds
        (sampler, u.pipeline.samples.sendAll u.waveform.samples)).state = { u.pipeline with
      sampler := sampler
      samples := u.stagedSamples
      transform := u.stagedTransform
      states := u.stagedChannel []
      transmitter := u.stagedEnd.1
      network := u.stagedEnd.2 } := by
  obtain ⟨hanswer, hsent⟩ := @Transmitter.run_scripted u.transmitter u.network
    (u.stagedChannel (u.stagedStates.take u.stagedAttempts)) rounds (Nat.zero_le _)
    (by rwa [show u.network.polls = 0 from rfl, Nat.zero_add]) rfl
  exact Pipeline.runBehind_eq u.transform_run_state hanswer hsent

/-- The last two stages behind a sampler that has offered every entry, while the network is
down. -/
theorem runBehind_of_le (u : Setup) (hrounds : rounds ≤ u.upAfter) (sampler : Sampler) :
    (u.pipeline.runBehind rounds
        (sampler, u.pipeline.samples.sendAll u.waveform.samples)).answer = none ∧
    (u.pipeline.runBehind rounds
        (sampler, u.pipeline.samples.sendAll u.waveform.samples)).state = { u.pipeline with
      sampler := sampler
      samples := u.stagedSamples
      transform := u.stagedTransform
      states := u.stagedChannel (u.stagedStates.take u.stagedAttempts)
      network := { u.network with polls := rounds } } := by
  have hpolls : u.network.polls = 0 := rfl
  obtain ⟨hdown, hwait⟩ := (Transmitter.waitForNetwork_scripted u.network
    (Nat.zero_le _) rounds).2 (by rwa [hpolls, Nat.zero_add])
  obtain ⟨hanswer, hstate⟩ := Transmitter.run_of_down u.transmitter
    (u.stagedChannel (u.stagedStates.take u.stagedAttempts)) hdown
  rw [hwait, hpolls, Nat.zero_add] at hstate
  exact Pipeline.runBehind_eq u.transform_run_state hanswer hstate

end Setup

/-- What the three stages of a setup leave behind if each runs to its end before the next. -/
structure RunToEnd (u : Setup) (answer : Option (Except Error Unit))
    (p : Pipeline ScriptedNetwork) : Prop where
  answer : answer = some (.ok ())
  exhausted : p.sampler.phase = .suspended
  samples_sent : p.samples.sent = min u.waveform.length u.sampleCapacity
  samples_dropped : p.samples.dropped =
    u.waveform.length - min u.waveform.length u.sampleCapacity
  processed : p.transform.processed = min u.waveform.length u.sampleCapacity
  states_sent : p.states.sent = min u.stagedStates.length u.stateCapacity
  states_dropped : p.states.dropped =
    u.stagedStates.length - min u.stagedStates.length u.stateCapacity
  polls : p.network.polls = u.upAfter + 1
  attempts : p.network.attempts = u.stagedAttempts
  failed : p.transmitter.failed =
    (Finset.Icc 1 u.stagedAttempts ∩ u.failAttempts.toFinset).card
  sent : p.transmitter.sent = u.stagedAttempts - p.transmitter.failed
  seqnum : p.transmitter.seqnum = seqnumAfter u.seqnum u.stagedAttempts
  datagrams : p.network.datagrams =
    survivors u.failAttempts (encodings u.seqnum (u.stagedStates.take u.stagedAttempts))
  queues : p.samples.queue = [] ∧ p.states.queue = []

/-- What the stages of a setup have left behind when the last one has polled its network `rounds`
times, and it is still down: the states wait in their channel, and nothing has been sent. -/
structure StillWaiting (u : Setup) (rounds : ℕ) (answer : Option (Except Error Unit))
    (p : Pipeline ScriptedNetwork) : Prop where
  answer : answer = none
  exhausted : p.sampler.phase = .suspended
  processed : p.transform.processed = min u.waveform.length u.sampleCapacity
  queue : p.states.queue = u.stagedStates.take u.stagedAttempts
  transmitter : p.transmitter = u.transmitter
  network : p.network = { u.network with polls := rounds }

namespace Setup

variable {u : Setup} {rounds : ℕ} {after : Sampler × Channel Sample}

/-- The last two stages behind a sampler that has offered its whole waveform, when the network
comes up. -/
theorem runBehind_runToEnd (hrounds : u.upAfter < rounds)
    (h : u.pipeline.sampler.Exhausts u.pipeline.samples after) :
    RunToEnd u (u.pipeline.runBehind rounds after).answer
      (u.pipeline.runBehind rounds after).state := by
  obtain ⟨sampler, samples⟩ := after
  obtain ⟨-, hphase, hchannel⟩ := h
  obtain rfl : samples = u.pipeline.samples.sendAll u.waveform.samples := hchannel
  obtain ⟨hanswer, hstate⟩ := u.runBehind_of_lt hrounds sampler
  obtain ⟨hseqnum, hfailed, hsent, hpolls, hattempts, hdatagrams⟩ := u.stagedEnd_scripted
  rw [hstate]
  exact {
    answer := hanswer
    exhausted := hphase
    samples_sent := rfl
    samples_dropped := by
      show u.waveform.length - u.sampleCapacity = _
      omega
    processed := u.length_stagedEntries
    states_sent := rfl
    states_dropped := by
      show u.stagedStates.length - u.stateCapacity = _
      omega
    polls := hpolls
    attempts := hattempts
    failed := hfailed
    sent := hsent
    seqnum := hseqnum
    datagrams := hdatagrams
    queues := ⟨rfl, rfl⟩ }

/-- The last two stages behind a sampler that has offered its whole waveform, while the network is
down. -/
theorem runBehind_stillWaiting (hrounds : rounds ≤ u.upAfter)
    (h : u.pipeline.sampler.Exhausts u.pipeline.samples after) :
    StillWaiting u rounds (u.pipeline.runBehind rounds after).answer
      (u.pipeline.runBehind rounds after).state := by
  obtain ⟨sampler, samples⟩ := after
  obtain ⟨-, hphase, hchannel⟩ := h
  obtain rfl : samples = u.pipeline.samples.sendAll u.waveform.samples := hchannel
  obtain ⟨hanswer, hstate⟩ := u.runBehind_of_le hrounds sampler
  rw [hstate]
  exact ⟨hanswer, hphase, u.length_stagedEntries, rfl, rfl, rfl⟩

/-- **Closed form of the staged run.** Whether its sampler merely ticks or waits for its
deadlines on any clock: a setup whose stages run one after the other fills its channels in
order, drops the rest, polls the network until it is up, and attempts the states for which
there was room under consecutive numbers; the datagrams are the attempts not made to fail.
The poll at which the network is up is the first one after those for which it is to be down. When
the run is followed for fewer polls, its last stage still waits; when for more, nothing changes. -/
theorem staged_closed_form (u : Setup) (clock : ℕ → Instant) (rounds : ℕ) :
    (u.upAfter < rounds →
      (Transmitter.waitForNetwork rounds u.network).answer = some (u.upAfter + 1) ∧
      RunToEnd u (u.pipeline.runStaged rounds).answer (u.pipeline.runStaged rounds).state ∧
      RunToEnd u (u.pipeline.runTimed clock rounds).answer
        (u.pipeline.runTimed clock rounds).state) ∧
    (rounds ≤ u.upAfter →
      StillWaiting u rounds (u.pipeline.runStaged rounds).answer
        (u.pipeline.runStaged rounds).state ∧
      StillWaiting u rounds (u.pipeline.runTimed clock rounds).answer
        (u.pipeline.runTimed clock rounds).state) ∧
    (u.upAfter < rounds → ∀ more ≥ rounds,
      u.pipeline.runStaged more = u.pipeline.runStaged rounds) := by
  have hticked := Sampler.start_ticks_exhausts u.waveform u.period 0 u.pipeline.samples
  have hdriven := Sampler.run_exhausts u.waveform u.period clock u.pipeline.samples
  have hend : u.upAfter < rounds →
      RunToEnd u (u.pipeline.runStaged rounds).answer (u.pipeline.runStaged rounds).state :=
    fun hrounds => runBehind_runToEnd hrounds hticked
  refine ⟨fun hrounds => ⟨?_, hend hrounds, runBehind_runToEnd hrounds hdriven⟩,
    fun hrounds => ⟨runBehind_stillWaiting hrounds hticked,
      runBehind_stillWaiting hrounds hdriven⟩,
    fun hrounds more hmore => Pipeline.runStaged_of_le ?_ hmore⟩
  · have hwait := (Transmitter.waitForNetwork_scripted u.network (Nat.zero_le _) rounds).1
    rw [show u.network.polls = 0 from rfl, Nat.zero_add] at hwait
    exact (hwait hrounds).1
  · rw [(hend hrounds).answer]
    exact Option.some_ne_none _

/-- A setup with little room: of five entries the first channel drops one, the law fails on
another, and the second channel drops a state. The network is up at the third poll, and the first
of two attempts, which carries the number zero, is lost. -/
def cramped : Setup where
  waveform := ⟨[5, 7, 9, -3, 11]⟩
  period := 1000
  law := fun s => if s = 7 then .error (.script "odd") else .ok (invert s)
  description := "cramped"
  sampleCapacity := 4
  stateCapacity := 2
  destination := ⟨.loopback, 9889⟩
  readyPoll := 1000
  seqnum := 0xFFFFFFFF
  upAfter := 2
  failAttempts := [1]

theorem staged_closed_form_cramped :
    let early := cramped.pipeline.runStaged 2
    let late := cramped.pipeline.runStaged 3
    early.answer = none ∧ early.state.network.polls = 2 ∧ early.state.network.datagrams = [] ∧
    late.answer = some (.ok ()) ∧ late.state.network.polls = 3 ∧
    late.state.samples.dropped = 1 ∧ late.state.states.dropped = 1 ∧
    late.state.transmitter.seqnum = 1 ∧ late.state.transmitter.failed = 1 ∧
    late.state.network.datagrams = [(Message.actuatorState 1 ⟨9, -9⟩).encode] ∧
    cramped.pipeline.runStaged 7 = late := by
  intro early late
  obtain ⟨-, hwaiting, -⟩ := cramped.staged_closed_form (fun _ => 0) 2
  obtain ⟨hend, -, hmore⟩ := cramped.staged_closed_form (fun _ => 0) 3
  obtain ⟨hearly, -⟩ := hwaiting (by decide)
  obtain ⟨-, hlate, -⟩ := hend (by decide)
  refine ⟨hearly.answer, ?_, ?_, hlate.answer, hlate.polls, hlate.samples_dropped,
    hlate.states_dropped, hlate.seqnum, hlate.failed, hlate.datagrams,
    hmore (by decide) 7 (by decide)⟩
  · rw [hearly.network]
  · rw [hearly.network]
    rfl

end Setup

end Telemetry
