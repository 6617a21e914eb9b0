/-
No entry is lost in silence.

An entry that the sampler takes may come to grief in many places: either channel may be full or
without its consumer, the law may have no command, the network may fail, and a stage may go away
with items in its queue and in its hand. Wherever it happens, the entry has one fate and leaves
one mark: a datagram, a notice of its loss, or a place among the items that were left behind.

* `Incident`, `Pipeline.incur` — an event of a course, or the sudden end of a stage;
* `Occurrence` — all that an incident comes to;
* `Fate`, `Befalls` — the mark of an entry, and which marks the entry at a position can leave;
* `Afoot` — the positions of the entries that wait in the channels and hands;
* `Tells` — the marks that one incident makes, and `Afoot.incur`, that it makes them;
* `Setup.no_silent_loss` — the marks of a run are those of the entries taken, one for each.

Design notes: a queue and the hand behind it are one list, so that taking an item in hand
changes nothing. The journal of a run has the positions of the entries that met their fate, in
the order in which they met it; datagrams and notices are read off it in that order.
-/
import Mathlib.Data.List.Forall2
import Telemetry.Proofs.Pipeline.Delivery
import Telemetry.Proofs.Pipeline.Life

namespace Telemetry

/-! ### Losses and their causes -/

/-- The cause of the loss that a notice reports, if it reports one. -/
def Notice.loss? : Notice → Option PipelineError
  | .sampleDropped _ e => some e
  | .sampleUndelivered _ e => some e
  | .lawFailed _ e => some e
  | .stateDropped _ e => some e
  | .stateUndelivered _ e => some e
  | .sendFailed e => some e
  | _ => none

/-- The level at which a loss is reported, by its cause. -/
def PipelineError.lossLevel? : PipelineError → Option Level
  | .channelFull _ => some .warn
  | .channelClosed _ => some .debug
  | .controlLaw _ => some .error
  | .transmitFailed _ => some .error
  | .deadlineMissed _ => none

def PipelineError.isControlLaw : PipelineError → Bool
  | .controlLaw _ => true
  | _ => false

def PipelineError.isTransmitFailed : PipelineError → Bool
  | .transmitFailed _ => true
  | _ => false

/-! ### Incidents -/

/-- What happens in a run: an event of a course, or the sudden end of a stage. -/
inductive Incident where
  | event (e : Event)
  | drop (s : Stage)
deriving DecidableEq

/-- All that an incident comes to: the pipeline after it, its notices, the samples of the items
it leaves behind, whether it takes an entry, and whether the law fails in it. -/
structure Occurrence (ν : Type) where
  state : Pipeline ν
  notices : List Notice := []
  left : List Sample := []
  takes : Bool := false
  failsLaw : Bool := false

namespace Pipeline

variable {ν : Type}

/-- The samples that wait for the transform stage, the one in its hand first. -/
def waitingSamples (p : Pipeline ν) : List Sample :=
  if p.alive .transform then p.sampleInHand.toList ++ p.samples.queue else []

/-- The states that wait for the transmitter, the one in its hand first. -/
def waitingStates (p : Pipeline ν) : List ActuatorState :=
  if p.alive .transmitter then p.stateInHand.toList ++ p.states.queue else []

/-- The sudden end of a stage, whatever is in its hand and in its channel. -/
def discard (p : Pipeline ν) : Stage → Occurrence ν
  | .sampler => { state := { p with samples := p.samples.dropSender } }
  | .transform =>
    { state := { p with
        samples := p.samples.dropReceiver, sampleInHand := none, states := p.states.dropSender }
      left := p.waitingSamples }
  | .transmitter =>
    { state := { p with states := p.states.dropReceiver, stateInHand := none }
      left := p.waitingStates.map (·.sample) }

variable [NetworkStack ν]

/-- One incident; nothing happens to a stage that is gone. -/
def incur (p : Pipeline ν) : Incident → Occurrence ν
  | .event e =>
    { state := (p.occur e).state
      notices := (p.occur e).notices
      takes := p.takesEntry e
      failsLaw := p.failsLaw e }
  | .drop s => if p.alive s then p.discard s else { state := p }

/-- What the incidents of a run come to, one after the other. -/
def history (p : Pipeline ν) : List Incident → List (Occurrence ν)
  | [] => []
  | i :: rest => p.incur i :: history (p.incur i).state rest

/-- The pipeline after the incidents of a run. -/
def after (p : Pipeline ν) : List Incident → Pipeline ν
  | [] => p
  | i :: rest => after (p.incur i).state rest

end Pipeline

/-! ### Fates -/

/-- What becomes of an entry. -/
inductive Fate where
  | sent (bytes : List UInt8)
  | reported (n : Notice)
  | left (s : Sample)

namespace Fate

def datagram? : Fate → Option (List UInt8)
  | .sent bytes => some bytes
  | _ => none

def report? : Fate → Option Notice
  | .reported n => some n
  | _ => none

def left? : Fate → Option Sample
  | .left s => some s
  | _ => none

def cause? (f : Fate) : Option PipelineError := f.report?.bind Notice.loss?

theorem of_report? {f : Fate} {n : Notice} (h : f.report? = some n) : f = .reported n := by
  cases f <;> cases h
  rfl

end Fate

/-- The entry at a position is the sample `s`. -/
def Setup.Carries (u : Setup) (i : ℕ) (s : Sample) : Prop := u.waveform.get? i = some s

/-- The entry at a position has the sample and the command of the state `a`. -/
def Setup.Yields (u : Setup) (i : ℕ) (a : ActuatorState) : Prop :=
  u.Carries i a.sample ∧ u.law a.sample = .ok a.command

/-- What can become of the entry at position `i`, with the text of a report and the bytes of a
datagram. -/
inductive Befalls (u : Setup) (i : ℕ) : Fate → Prop
  | sampleDropped {s : Sample} (hcarries : u.Carries i s) :
      Befalls u i (.reported (.sampleDropped s (.channelFull Pipeline.sampleChannel)))
  | sampleUndelivered {s : Sample} (hcarries : u.Carries i s) :
      Befalls u i (.reported (.sampleUndelivered s (.channelClosed Pipeline.sampleChannel)))
  | lawFailed {s : Sample} {e : Error} (hcarries : u.Carries i s) (hlaw : u.law s = .error e) :
      Befalls u i (.reported (.lawFailed s (.controlLaw e.message)))
  | stateDropped {a : ActuatorState} (hyields : u.Yields i a) :
      Befalls u i (.reported (.stateDropped a (.channelFull Pipeline.stateChannel)))
  | stateUndelivered {a : ActuatorState} (hyields : u.Yields i a) :
      Befalls u i (.reported (.stateUndelivered a (.channelClosed Pipeline.stateChannel)))
  | sendFailed {a : ActuatorState} {k : ℕ} (hyields : u.Yields i a) (hfail : k ∈ u.failAttempts) :
      Befalls u i (.reported
        (.sendFailed (Transmitter.sendFailure (seqnumAfter u.seqnum k) (.scripted k))))
  | sent {a : ActuatorState} {k : ℕ} (hyields : u.Yields i a) (hfail : k ∉ u.failAttempts) :
      Befalls u i (.sent (Message.actuatorState (seqnumAfter u.seqnum k) a).encode)
  | left {s : Sample} (hcarries : u.Carries i s) : Befalls u i (.left s)

/-- The causes of the losses in a journal. -/
def causes (journal : List (ℕ × Fate)) : List PipelineError := journal.filterMap (·.2.cause?)

/-- A loss is reported at the level of its cause. -/
theorem Befalls.level {u : Setup} {i : ℕ} {n : Notice} {e : PipelineError}
    (h : Befalls u i (.reported n)) (hloss : n.loss? = some e) : e.lossLevel? = some n.level := by
  cases h <;> cases hloss <;> rfl

/-! ### Entries on their way -/

/-- In the pipeline `p` of a setup, the entries at the positions `samples` wait for the transform
stage, and those at the positions `states` for the transmitter. -/
structure Afoot (u : Setup) (p : Pipeline ScriptedNetwork) (samples states : List ℕ) : Prop where
  waveform : p.sampler.waveform = u.waveform
  law_eq : p.transform.law = u.law
  sampleChannel : p.samples.name = Pipeline.sampleChannel
  stateChannel : p.states.name = Pipeline.stateChannel
  socket : p.transmitter.socket.isSome = true
  seqnum : p.transmitter.seqnum = seqnumAfter u.seqnum p.network.attempts
  failAttempts : p.network.failAttempts = u.failAttempts
  samples : List.Forall₂ u.Carries samples p.waitingSamples
  states : List.Forall₂ u.Yields states p.waitingStates

/-- The occurrence `o` in the pipeline `p` makes the marks `news`, and counts them. -/
structure Tells (u : Setup) (p : Pipeline ScriptedNetwork) (o : Occurrence ScriptedNetwork)
    (news : List (ℕ × Fate)) : Prop where
  befalls : ∀ entry ∈ news, Befalls u entry.1 entry.2
  reports : o.notices.filter (·.loss?.isSome) = news.filterMap (·.2.report?)
  left : o.left = news.filterMap (·.2.left?)
  datagrams : o.state.network.datagrams = p.network.datagrams ++ news.filterMap (·.2.datagram?)
  samplesDropped : o.state.samples.dropped =
    p.samples.dropped + (causes news).count (.channelFull Pipeline.sampleChannel)
  statesDropped : o.state.states.dropped =
    p.states.dropped + (causes news).count (.channelFull Pipeline.stateChannel)
  lawErrors : o.failsLaw.toNat = (causes news).countP PipelineError.isControlLaw
  failed : o.state.transmitter.failed =
    p.transmitter.failed + (causes news).countP PipelineError.isTransmitFailed
  position : o.state.sampler.position = p.sampler.position + o.takes.toNat

/-- The occurrence `o` makes its marks for some of the entries on their way, the one that it
takes included, and leaves the others on their way. -/
def Follows (u : Setup) (p : Pipeline ScriptedNetwork) (o : Occurrence ScriptedNetwork)
    (samples states : List ℕ) : Prop :=
  ∃ news samples' states', Tells u p o news ∧ Afoot u o.state samples' states' ∧
    (news.map Prod.fst ++ (samples' ++ states')).Perm
      (samples ++ states ++ if o.takes then [p.sampler.position] else [])

variable {u : Setup} {p : Pipeline ScriptedNetwork} {samples states : List ℕ}

/-- What reports no loss and moves no figure leaves all entries on their way. -/
theorem Follows.silent {q : Pipeline ScriptedNetwork} {notices : List Notice}
    (h : Afoot u q samples states) (hnotices : notices.filter (·.loss?.isSome) = [])
    (hdatagrams : q.network.datagrams = p.network.datagrams)
    (hsamples : q.samples.dropped = p.samples.dropped)
    (hstates : q.states.dropped = p.states.dropped)
    (hfailed : q.transmitter.failed = p.transmitter.failed)
    (hposition : q.sampler.position = p.sampler.position) :
    Follows u p { state := q, notices := notices } samples states := by
  refine ⟨[], samples, states, ?_, h, ?_⟩
  · exact ⟨List.forall_mem_nil _, hnotices, rfl, hdatagrams.trans (List.append_nil _).symm,
      hsamples, hstates, rfl, hfailed, hposition⟩
  · exact List.Perm.of_eq (List.append_nil _).symm

theorem Afoot.idle (h : Afoot u p samples states) : Follows u p { state := p } samples states :=
  Follows.silent h rfl rfl rfl rfl rfl rfl

theorem Pipeline.waitingSamples_of_alive (h : p.samples.receiverAlive = true) :
    p.waitingSamples = p.sampleInHand.toList ++ p.samples.queue := if_pos h

theorem Pipeline.waitingStates_of_alive (h : p.states.receiverAlive = true) :
    p.waitingStates = p.stateInHand.toList ++ p.states.queue := if_pos h

theorem Sampler.ending_silent (s : Sampler) : s.ending.filter (·.loss?.isSome) = [] := by
  rw [ending]
  by_cases hend : s.waveform.length ≤ s.position
  · rw [if_pos hend]
    rfl
  · rw [if_neg hend]
    rfl

/-- Items that are left behind make one mark each, and an occurrence that makes no other mark
makes these. -/
theorem Tells.exists_left {o : Occurrence ScriptedNetwork} {positions : List ℕ}
    (h : Tells u p { o with left := [] } []) (hleft : List.Forall₂ u.Carries positions o.left) :
    ∃ news : List (ℕ × Fate), news.map Prod.fst = positions ∧ Tells u p o news := by
  have hnews : ∃ news : List (ℕ × Fate), news.map Prod.fst = positions ∧
      news.filterMap (·.2.left?) = o.left ∧
      ∀ entry ∈ news, ∃ s, entry.2 = .left s ∧ u.Carries entry.1 s := by
    generalize o.left = left at hleft
    induction hleft with
    | nil => exact ⟨[], rfl, rfl, List.forall_mem_nil _⟩
    | @cons i s _ _ hcarries _ ih =>
      obtain ⟨news, rfl, rfl, hnews⟩ := ih
      exact ⟨(i, .left s) :: news, rfl, rfl, List.forall_mem_cons.mpr ⟨⟨s, rfl, hcarries⟩, hnews⟩⟩
  obtain ⟨news, hpositions, hleft, hnews⟩ := hnews
  -- none of the marks is a datagram or a notice
  have hnone : ∀ {α : Type} (mark? : Fate → Option α), (∀ s, mark? (.left s) = none) →
      news.filterMap (fun entry => mark? entry.2) = [] := by
    intro α mark? hmark
    refine List.filterMap_eq_nil_iff.mpr fun entry hentry => ?_
    obtain ⟨s, hs, _⟩ := hnews entry hentry
    rw [hs, hmark]
  have hcauses : causes news = causes [] := hnone Fate.cause? fun _ => rfl
  refine ⟨news, hpositions, ?_, ?_, hleft.symm, ?_, ?_, ?_, ?_, ?_, h.position⟩
  · intro entry hentry
    obtain ⟨s, hs, hcarries⟩ := hnews entry hentry
    rw [hs]
    exact .left hcarries
  · rw [hnone Fate.report? fun _ => rfl]
    exact h.reports
  · rw [hnone Fate.datagram? fun _ => rfl]
    exact h.datagrams
  · rw [hcauses]
    exact h.samplesDropped
  · rw [hcauses]
    exact h.statesDropped
  · rw [hcauses]
    exact h.lawErrors
  · rw [hcauses]
    exact h.failed

/-! ### One incident -/

theorem Pipeline.incur_act {a : Action} (halive : p.alive a.stage = true) :
    p.incur (.event (.act a)) =
      { state := (p.step a).state
        notices := (p.step a).notices
        takes := p.takesEntry (.act a)
        failsLaw := p.failsLaw (.act a) } := by
  rw [incur, occur, if_pos halive]

theorem Pipeline.incur_act_gone {a : Action} (hgone : p.alive a.stage = false) :
    p.incur (.event (.act a)) = { state := p } := by
  have hoccur : p.occur (.act a) = ⟨(), p, []⟩ := if_neg (by simp [hgone])
  have htakes : p.takesEntry (.act a) = false := by
    cases a with
    | tick => rw [takesEntry, show p.alive .sampler = false from hgone, Bool.false_and]
    | _ => rfl
  have hlaw : p.failsLaw (.act a) = false := by
    cases a with
    | handleSample => rw [failsLaw, show p.alive .transform = false from hgone, Bool.false_and]
    | _ => rfl
  rw [incur, hoccur, htakes, hlaw]

namespace Afoot

theorem tick (h : Afoot u p samples states) (halive : p.alive .sampler = true) :
    Follows u p (p.incur (.event (.act .tick))) samples states := by
  have htakes : p.takesEntry (.act .tick) = (p.sampler.tick p.samples).answer.isSome := by
    rw [Pipeline.takesEntry, halive, Bool.true_and]
  rw [Pipeline.incur_act halive, htakes]
  show Follows u p
    { state := { p with
        sampler := (p.sampler.tick p.samples).state.1
        samples := (p.sampler.tick p.samples).state.2 }
      notices := (p.sampler.tick p.samples).notices
      takes := (p.sampler.tick p.samples).answer.isSome } samples states
  have hticked := p.sampler.tick_ticked p.samples
  generalize p.sampler.tick p.samples = ticked at hticked ⊢
  have hcarries : ∀ {s}, p.sampler.waveform.get? p.sampler.position = some s →
      u.Carries p.sampler.position s := by
    intro s hget
    rwa [h.waveform] at hget
  have hfull : p.samples.full = .channelFull Pipeline.sampleChannel := congrArg _ h.sampleChannel
  have hclosed : p.samples.closed = .channelClosed Pipeline.sampleChannel :=
    congrArg _ h.sampleChannel
  cases hticked with
  | idle => exact h.idle
  | @taken s hphase hget hreceiver hroom =>
    -- the entry joins the end of the queue
    have hsamples := h.samples
    rw [p.waitingSamples_of_alive hreceiver] at hsamples
    refine ⟨[], samples ++ [p.sampler.position], states, ?_, { h with samples := ?_ }, ?_⟩
    · exact ⟨List.forall_mem_nil _, Sampler.ending_silent _, rfl, (List.append_nil _).symm, rfl,
        rfl, rfl, rfl, rfl⟩
    · show List.Forall₂ u.Carries _ (if p.samples.receiverAlive = true then
        p.sampleInHand.toList ++ (p.samples.queue ++ [s]) else [])
      rw [if_pos hreceiver, ← List.append_assoc]
      exact List.rel_append hsamples (.cons (hcarries hget) .nil)
    · show (samples ++ [p.sampler.position] ++ states).Perm
        (samples ++ states ++ [p.sampler.position])
      rw [List.append_assoc, List.append_assoc]
      exact List.perm_append_comm.append_left samples
  | @dropped s hphase hget hreceiver hfullUp =>
    rw [hfull]
    refine ⟨[(p.sampler.position,
      .reported (.sampleDropped s (.channelFull Pipeline.sampleChannel)))], samples, states, ?_,
      { h with }, ?_⟩
    · exact ⟨List.forall_mem_singleton.mpr (.sampleDropped (hcarries hget)),
        congrArg (List.cons _) (Sampler.ending_silent _), rfl, (List.append_nil _).symm, rfl, rfl,
        rfl, rfl, rfl⟩
    · exact List.perm_append_comm
  | @refused s hphase hget hgone =>
    rw [hclosed]
    refine ⟨[(p.sampler.position,
      .reported (.sampleUndelivered s (.channelClosed Pipeline.sampleChannel)))], samples, states,
      ?_, { h with }, ?_⟩
    · exact ⟨List.forall_mem_singleton.mpr (.sampleUndelivered (hcarries hget)),
        congrArg (List.cons _) (Sampler.ending_silent _), rfl, (List.append_nil _).symm, rfl, rfl,
        rfl, rfl, rfl⟩
    · exact List.perm_append_comm

theorem takeSample (h : Afoot u p samples states) (halive : p.alive .transform = true) :
    Follows u p (p.incur (.event (.act .takeSample))) samples states := by
  rw [Pipeline.incur_act halive]
  rcases p.step_takeSample with hstep | ⟨s, rest, hhand, hqueue, hstep⟩
  · rw [hstep]
    exact h.idle
  · rw [hstep]
    refine Follows.silent { h with samples := ?_ } rfl rfl rfl rfl rfl rfl
    have hsamples := h.samples
    rw [Pipeline.waitingSamples, hhand, hqueue] at hsamples
    exact hsamples

/-- What the transform stage has in hand, and what waits behind it. -/
theorem sampleInHand {s : Sample} (h : Afoot u p samples states)
    (halive : p.alive .transform = true) (hhand : p.sampleInHand = some s) :
    ∃ i rest, samples = i :: rest ∧ u.Carries i s ∧
      List.Forall₂ u.Carries rest p.samples.queue := by
  have hsamples := h.samples
  rw [p.waitingSamples_of_alive halive, hhand] at hsamples
  obtain ⟨i, rest, hcarries, hrest, rfl⟩ := List.forall₂_cons_right_iff.mp hsamples
  exact ⟨i, rest, rfl, hcarries, hrest⟩

theorem handleSample (h : Afoot u p samples states) (halive : p.alive .transform = true) :
    Follows u p (p.incur (.event (.act .handleSample))) samples states := by
  rcases hhand : p.sampleInHand with _ | s
  · have hlaw : p.failsLaw (.act .handleSample) = false := by
      rw [Pipeline.failsLaw, hhand]
      exact Bool.and_false _
    rw [Pipeline.incur_act halive, hlaw, show p.step .handleSample = ⟨(), p, []⟩ by
      simp [Pipeline.step, hhand]]
    exact h.idle
  · have hlaw : p.failsLaw (.act .handleSample) =
        Pipeline.isLawFailure (p.transform.handle p.states s).answer := by
      rw [Pipeline.failsLaw, halive, hhand]
      rfl
    have hincur : p.incur (.event (.act .handleSample)) =
        { state := { p with
            transform := (p.transform.handle p.states s).state.1
            states := (p.transform.handle p.states s).state.2
            sampleInHand := none }
          notices := (p.transform.handle p.states s).notices
          failsLaw := Pipeline.isLawFailure (p.transform.handle p.states s).answer } := by
      rw [Pipeline.incur_act halive, hlaw]
      simp [Pipeline.step, hhand, Pipeline.takesEntry]
    obtain ⟨i, rest, rfl, hcarries, hrest⟩ := h.sampleInHand halive hhand
    -- whatever comes of the sample, those behind it go on waiting
    have hwaiting : List.Forall₂ u.Carries rest
        (if p.alive .transform = true then [] ++ p.samples.queue else []) := by
      rw [if_pos halive]
      exact hrest
    have hhandled := p.transform.handle_handled p.states s
    rw [hincur]
    generalize p.transform.handle p.states s = handled at hhandled ⊢
    have hfull : p.states.full = .channelFull Pipeline.stateChannel := congrArg _ h.stateChannel
    have hclosed : p.states.closed = .channelClosed Pipeline.stateChannel :=
      congrArg _ h.stateChannel
    cases hhandled with
    | @failed e hlaw =>
      rw [h.law_eq] at hlaw
      refine ⟨[(i, .reported (.lawFailed s (.controlLaw e.message)))], rest, states, ?_,
        { h with samples := hwaiting }, ?_⟩
      · exact ⟨List.forall_mem_singleton.mpr (.lawFailed hcarries hlaw), rfl, rfl,
          (List.append_nil _).symm, rfl, rfl, rfl, rfl, rfl⟩
      · exact List.Perm.of_eq (List.append_nil _).symm
    | @taken c hlaw hreceiver hroom =>
      -- the entry changes over to the next channel, behind all that wait there
      rw [h.law_eq] at hlaw
      have hstates := h.states
      rw [p.waitingStates_of_alive hreceiver] at hstates
      refine ⟨[], rest, states ++ [i], ?_, { h with samples := hwaiting, states := ?_ }, ?_⟩
      · exact ⟨List.forall_mem_nil _, rfl, rfl, (List.append_nil _).symm, rfl, rfl, rfl, rfl, rfl⟩
      · show List.Forall₂ u.Yields _ (if p.states.receiverAlive = true then
          p.stateInHand.toList ++ (p.states.queue ++ [⟨s, c⟩]) else [])
        rw [if_pos hreceiver, ← List.append_assoc]
        exact List.rel_append hstates (.cons ⟨hcarries, hlaw⟩ .nil)
      · show (rest ++ (states ++ [i])).Perm ((i :: rest) ++ states ++ [])
        rw [List.append_nil, ← List.append_assoc]
        exact List.perm_append_comm
    | @dropped c hlaw hreceiver hfullUp =>
      rw [h.law_eq] at hlaw
      rw [hfull]
      refine ⟨[(i, .reported (.stateDropped ⟨s, c⟩ (.channelFull Pipeline.stateChannel)))], rest,
        states, ?_, { h with samples := hwaiting }, ?_⟩
      · exact ⟨List.forall_mem_singleton.mpr (.stateDropped ⟨hcarries, hlaw⟩), rfl, rfl,
          (List.append_nil _).symm, rfl, rfl, rfl, rfl, rfl⟩
      · exact List.Perm.of_eq (List.append_nil _).symm
    | @refused c hlaw hgone =>
      rw [h.law_eq] at hlaw
      rw [hclosed]
      refine ⟨[(i, .reported (.stateUndelivered ⟨s, c⟩ (.channelClosed Pipeline.stateChannel)))],
        rest, states, ?_, { h with samples := hwaiting }, ?_⟩
      · exact ⟨List.forall_mem_singleton.mpr (.stateUndelivered ⟨hcarries, hlaw⟩), rfl, rfl,
          (List.append_nil _).symm, rfl, rfl, rfl, rfl, rfl⟩
      · exact List.Perm.of_eq (List.append_nil _).symm

theorem takeState (h : Afoot u p samples states) (halive : p.alive .transmitter = true) :
    Follows u p (p.incur (.event (.act .takeState))) samples states := by
  rw [Pipeline.incur_act halive]
  rcases p.step_takeState with hstep | ⟨a, rest, hhand, hqueue, hstep⟩
  · rw [hstep]
    exact h.idle
  · rw [hstep]
    refine Follows.silent { h with states := ?_ } rfl rfl rfl rfl rfl rfl
    have hstates := h.states
    rw [Pipeline.waitingStates, hhand, hqueue] at hstates
    exact hstates

/-- What the transmitter has in hand, and what waits behind it. -/
theorem stateInHand {a : ActuatorState} (h : Afoot u p samples states)
    (halive : p.alive .transmitter = true) (hhand : p.stateInHand = some a) :
    ∃ i rest, states = i :: rest ∧ u.Yields i a ∧ List.Forall₂ u.Yields rest p.states.queue := by
  have hstates := h.states
  rw [p.waitingStates_of_alive halive, hhand] at hstates
  obtain ⟨i, rest, hyields, hrest, rfl⟩ := List.forall₂_cons_right_iff.mp hstates
  exact ⟨i, rest, rfl, hyields, hrest⟩

theorem transmitState (h : Afoot u p samples states) (halive : p.alive .transmitter = true) :
    Follows u p (p.incur (.event (.act .transmitState))) samples states := by
  rcases hhand : p.stateInHand with _ | a
  · rw [Pipeline.incur_act halive, show p.step .transmitState = ⟨(), p, []⟩ by
      simp [Pipeline.step, hhand]]
    exact h.idle
  · have hincur : p.incur (.event (.act .transmitState)) =
        { state := { p with
            transmitter := (p.transmitter.transmit p.network a).state.1
            network := (p.transmitter.transmit p.network a).state.2
            stateInHand := none }
          notices := (p.transmitter.transmit p.network a).notices ++
            Transmitter.failureNotice (p.transmitter.transmit p.network a).answer } := by
      rw [Pipeline.incur_act halive]
      simp [Pipeline.step, hhand, Pipeline.takesEntry, Pipeline.failsLaw]
    obtain ⟨i, rest, rfl, hyields, hrest⟩ := h.stateInHand halive hhand
    have hwaiting : List.Forall₂ u.Yields rest
        (if p.alive .transmitter = true then [] ++ p.states.queue else []) := by
      rw [if_pos halive]
      exact hrest
    -- the state in hand meets its fate either way, and its attempt has the next number
    have hperm : (i :: (samples ++ rest)).Perm (samples ++ i :: rest ++ []) := by
      rw [List.append_nil]
      exact List.perm_middle.symm
    have hseqnum : p.transmitter.seqnum + 1 = seqnumAfter u.seqnum (p.network.attempts + 1) := by
      rw [h.seqnum, seqnumAfter_succ]
    have hdone := p.transmitter.transmit_transmitted p.network a
    rw [hincur]
    generalize p.transmitter.transmit p.network a = transmitted at hdone ⊢
    cases hdone with
    | unopened hsocket => exact absurd (h.socket.symm.trans (by rw [hsocket])) (by simp)
    | @sent destination n net hsocket hsend =>
      obtain ⟨hfail, hfails, hcount, hrecord⟩ := ScriptedNetwork.of_record_ok hsend
      rw [h.failAttempts] at hfail
      have hnumber : p.transmitter.seqnum + 1 = seqnumAfter u.seqnum net.attempts := by
        rw [hseqnum, hcount]
      refine ⟨[(i, .sent (p.transmitter.nextMessage a).encode)], samples, rest, ?_, { h with
        seqnum := hnumber
        failAttempts := hfails.trans h.failAttempts
        states := hwaiting }, hperm⟩
      refine ⟨List.forall_mem_singleton.mpr ?_, rfl, rfl, hrecord, rfl, rfl, rfl, rfl, rfl⟩
      show Befalls u i (.sent (Message.actuatorState (p.transmitter.seqnum + 1) a).encode)
      rw [hseqnum]
      exact .sent hyields hfail
    | @failed destination e net hsocket hsend =>
      obtain ⟨hfail, rfl, hfails, hcount, hrecord⟩ := ScriptedNetwork.of_record_error hsend
      rw [h.failAttempts] at hfail
      have hnumber : seqnumAfter u.seqnum (p.network.attempts + 1) =
          seqnumAfter u.seqnum net.attempts := by
        rw [hcount]
      rw [hseqnum]
      refine ⟨[(i, .reported (.sendFailed (Transmitter.sendFailure
          (seqnumAfter u.seqnum (p.network.attempts + 1)) (.scripted (p.network.attempts + 1)))))],
        samples, rest, ?_, { h with
          seqnum := hnumber
          failAttempts := hfails.trans h.failAttempts
          states := hwaiting }, hperm⟩
      exact ⟨List.forall_mem_singleton.mpr (.sendFailed hyields hfail), rfl, rfl,
        hrecord.trans (List.append_nil _).symm, rfl, rfl, rfl, rfl, rfl⟩

/-- A stage that comes to its end leaves nothing behind. -/
theorem leave (h : Afoot u p samples states) (s : Stage) (halive : p.alive s = true) :
    Follows u p (p.incur (.event (.leave s))) samples states := by
  rw [Pipeline.incur, Pipeline.occur, if_pos halive]
  cases s with
  | sampler =>
    exact Follows.silent { h with } rfl rfl rfl rfl rfl rfl
  | transform =>
    rcases p.leave_transform with hleave | ⟨hhand, hqueue, hgone, hleave⟩
    · rw [hleave]
      exact h.idle
    · rw [hleave]
      refine Follows.silent { h with samples := ?_ } rfl rfl rfl rfl rfl rfl
      have hsamples := h.samples
      rwa [p.waitingSamples_of_alive halive, hhand, hqueue] at hsamples
  | transmitter =>
    rcases p.leave_transmitter with hleave | ⟨hhand, hqueue, hgone, hleave⟩
    · rw [hleave]
      exact h.idle
    · rw [hleave]
      refine Follows.silent { h with states := ?_ } rfl rfl rfl rfl rfl rfl
      have hstates := h.states
      rwa [p.waitingStates_of_alive halive, hhand, hqueue] at hstates

/-- A stage that goes away suddenly leaves behind what waits for it. -/
theorem drop (h : Afoot u p samples states) (s : Stage) :
    Follows u p (p.discard s) samples states := by
  cases s with
  | sampler =>
    exact Follows.silent { h with } rfl rfl rfl rfl rfl rfl
  | transform =>
    have hquiet : Tells u p { p.discard .transform with left := [] } [] :=
      ⟨List.forall_mem_nil _, rfl, rfl, (List.append_nil _).symm, rfl, rfl, rfl, rfl, rfl⟩
    obtain ⟨news, hpositions, htells⟩ := hquiet.exists_left h.samples
    refine ⟨news, [], states, htells, { h with samples := .nil }, ?_⟩
    rw [hpositions]
    exact List.Perm.of_eq (List.append_nil _).symm
  | transmitter =>
    have hcarries : List.Forall₂ u.Carries states (p.waitingStates.map (·.sample)) := by
      rw [List.forall₂_map_right_iff]
      exact h.states.imp fun _ _ hyields => hyields.1
    have hquiet : Tells u p { p.discard .transmitter with left := [] } [] :=
      ⟨List.forall_mem_nil _, rfl, rfl, (List.append_nil _).symm, rfl, rfl, rfl, rfl, rfl⟩
    obtain ⟨news, hpositions, htells⟩ := hquiet.exists_left hcarries
    refine ⟨news, samples, [], htells, { h with states := .nil }, ?_⟩
    rw [hpositions, List.append_nil]
    exact (List.append_nil _).symm ▸ List.perm_append_comm

/-- Every incident makes the marks of the entries that meet their fate in it. -/
theorem incur (h : Afoot u p samples states) (i : Incident) :
    Follows u p (p.incur i) samples states := by
  cases i with
  | drop s =>
    rw [Pipeline.incur]
    by_cases halive : p.alive s = true
    · rw [if_pos halive]
      exact h.drop s
    · rw [if_neg halive]
      exact h.idle
  | event e =>
    cases e with
    | leave s =>
      by_cases halive : p.alive s = true
      · exact h.leave s halive
      · rw [Pipeline.incur, Pipeline.occur, if_neg halive]
        exact h.idle
    | act a =>
      by_cases halive : p.alive a.stage = true
      · cases a with
        | tick => exact h.tick halive
        | takeSample => exact h.takeSample halive
        | handleSample => exact h.handleSample halive
        | takeState => exact h.takeState halive
        | transmitState => exact h.transmitState halive
      · rw [Pipeline.incur_act_gone (by simpa using halive)]
        exact h.idle

end Afoot

/-! ### The journal of a run -/

/-- The pipeline `p` has come about by the occurrences `past`, which made the marks of the
`journal`; the other entries taken are on their way. -/
structure Journaled (u : Setup) (past : List (Occurrence ScriptedNetwork))
    (p : Pipeline ScriptedNetwork) (journal : List (ℕ × Fate)) (samples states : List ℕ) :
    Prop where
  afoot : Afoot u p samples states
  positions : (journal.map Prod.fst ++ (samples ++ states)).Perm (List.range p.sampler.position)
  befalls : ∀ entry ∈ journal, Befalls u entry.1 entry.2
  reports : (past.flatMap (·.notices)).filter (·.loss?.isSome) = journal.filterMap (·.2.report?)
  left : past.flatMap (·.left) = journal.filterMap (·.2.left?)
  datagrams : p.network.datagrams = journal.filterMap (·.2.datagram?)
  samplesDropped : p.samples.dropped =
    (causes journal).count (.channelFull Pipeline.sampleChannel)
  statesDropped : p.states.dropped = (causes journal).count (.channelFull Pipeline.stateChannel)
  lawErrors : past.countP (·.failsLaw) = (causes journal).countP PipelineError.isControlLaw
  failed : p.transmitter.failed = (causes journal).countP PipelineError.isTransmitFailed
  position : p.sampler.position = past.countP (·.takes)

theorem causes_append (journal news : List (ℕ × Fate)) :
    causes (journal ++ news) = causes journal ++ causes news := List.filterMap_append

/-- What the past has told and what an occurrence tells make the journal after it. -/
theorem Journaled.concat {past : List (Occurrence ScriptedNetwork)}
    {o : Occurrence ScriptedNetwork} {journal : List (ℕ × Fate)}
    (h : Journaled u past p journal samples states) (hfollows : Follows u p o samples states) :
    ∃ journal' samples' states', Journaled u (past ++ [o]) o.state journal' samples' states' := by
  obtain ⟨news, samples', states', htells, hafoot, hperm⟩ := hfollows
  refine ⟨journal ++ news, samples', states', hafoot, ?_, ?_, ?_, ?_, ?_, ?_, ?_, ?_, ?_, ?_⟩
  · have hrange : List.range o.state.sampler.position = List.range p.sampler.position ++
        if o.takes then [p.sampler.position] else [] := by
      rw [htells.position]
      cases o.takes
      · exact (List.append_nil _).symm
      · exact List.range_succ
    have hmoved := hperm.append_left (journal.map Prod.fst)
    rw [← List.append_assoc (journal.map Prod.fst) (samples ++ states)] at hmoved
    rw [List.map_append, List.append_assoc, hrange]
    exact hmoved.trans (h.positions.append_right _)
  · intro entry hentry
    rcases List.mem_append.mp hentry with hentry | hentry
    · exact h.befalls entry hentry
    · exact htells.befalls entry hentry
  · rw [List.flatMap_append, List.flatMap_singleton, List.filter_append, List.filterMap_append,
      h.reports, htells.reports]
  · rw [List.flatMap_append, List.flatMap_singleton, List.filterMap_append, h.left, htells.left]
  · rw [htells.datagrams, List.filterMap_append, h.datagrams]
  · rw [htells.samplesDropped, causes_append, List.count_append, h.samplesDropped]
  · rw [htells.statesDropped, causes_append, List.count_append, h.statesDropped]
  · rw [List.countP_append, List.countP_singleton, causes_append, List.countP_append, h.lawErrors,
      ← htells.lawErrors]
    cases o.failsLaw <;> rfl
  · rw [htells.failed, causes_append, List.countP_append, h.failed]
  · rw [htells.position, List.countP_append, List.countP_singleton, h.position]
    cases o.takes <;> rfl

/-- Every run keeps its journal. -/
theorem Journaled.after (incidents : List Incident) :
    ∀ {past : List (Occurrence ScriptedNetwork)} {p : Pipeline ScriptedNetwork}
      {journal : List (ℕ × Fate)} {samples states : List ℕ},
    Journaled u past p journal samples states →
    ∃ journal' samples' states', Journaled u (past ++ p.history incidents) (p.after incidents)
      journal' samples' states' := by
  -- on the incidents, for every past: each of them adds its marks to the journal
  induction incidents with
  | nil =>
    intro past p journal samples states h
    rw [Pipeline.history, List.append_nil]
    exact ⟨journal, samples, states, h⟩
  | cons i rest ih =>
    intro past p journal samples states h
    obtain ⟨journal', samples', states', h'⟩ := h.concat (h.afoot.incur i)
    have hrest := ih h'
    rw [List.append_assoc] at hrest
    exact hrest

theorem Setup.started_journaled (u : Setup) (now : Instant) :
    Journaled u [] (u.started now) [] [] [] := by
  refine ⟨⟨rfl, rfl, rfl, rfl, rfl, ?_, rfl, .nil, .nil⟩, List.Perm.refl _, List.forall_mem_nil _,
    rfl, rfl, rfl, rfl, rfl, rfl, rfl, rfl⟩
  show u.seqnum = seqnumAfter u.seqnum 0
  rw [seqnumAfter_zero]

/-- When the last two stages are gone, no entry is on its way. -/
theorem Afoot.empty (h : Afoot u p samples states) (htransform : p.alive .transform = false)
    (htransmitter : p.alive .transmitter = false) : samples = [] ∧ states = [] := by
  have hsamples := h.samples
  have hstates := h.states
  rw [Pipeline.waitingSamples, if_neg (by simp [htransform])] at hsamples
  rw [Pipeline.waitingStates, if_neg (by simp [htransmitter])] at hstates
  exact ⟨List.forall₂_nil_right_iff.mp hsamples, List.forall₂_nil_right_iff.mp hstates⟩

/-- The notices of a journal carry its causes. -/
theorem causes_eq {notices : List Notice} {journal : List (ℕ × Fate)}
    (h : notices.filter (·.loss?.isSome) = journal.filterMap (·.2.report?)) :
    notices.filterMap Notice.loss? = causes journal := by
  have hsame : notices.filterMap Notice.loss? =
      (notices.filter (·.loss?.isSome)).filterMap Notice.loss? := by
    rw [List.filterMap_filter]
    refine List.filterMap_congr fun n _ => ?_
    cases n.loss? <;> rfl
  rw [hsame, h, List.filterMap_filterMap]
  rfl

/-- **No silent loss.** In every run of a pipeline, whatever the order of its steps and whichever
stages go away early, there is a journal of the entries that met their fate. It has each entry
taken at most once, and once all stages are gone exactly once; and with every position it has a
mark that the entry there can leave. Read in order, its marks are the datagrams that were sent,
the losses that were reported and the items that were left behind, without any other. Each loss
is reported at the level of its cause, and the reports of each cause are as many as the counter
of that cause says. -/
theorem Setup.no_silent_loss (u : Setup) (now : Instant) (incidents : List Incident) :
    let p := u.started now
    let run := p.history incidents
    let q := p.after incidents
    let notices := run.flatMap (·.notices)
    let losses := notices.filterMap Notice.loss?
    (∃ (journal : List (ℕ × Fate)) (underway : List ℕ),
      (journal.map Prod.fst ++ underway).Perm (List.range (run.countP (·.takes))) ∧
      underway.length = q.waitingSamples.length + q.waitingStates.length ∧
      ((∀ s, q.alive s = false) → underway = []) ∧
      (∀ entry ∈ journal, Befalls u entry.1 entry.2) ∧
      q.network.datagrams = journal.filterMap (·.2.datagram?) ∧
      notices.filter (·.loss?.isSome) = journal.filterMap (·.2.report?) ∧
      run.flatMap (·.left) = journal.filterMap (·.2.left?)) ∧
    (∀ n ∈ notices, ∀ e, n.loss? = some e → e.lossLevel? = some n.level) ∧
    losses.count (.channelFull Pipeline.sampleChannel) = q.samples.dropped ∧
    losses.count (.channelFull Pipeline.stateChannel) = q.states.dropped ∧
    losses.countP PipelineError.isControlLaw = run.countP (·.failsLaw) ∧
    losses.countP PipelineError.isTransmitFailed = q.transmitter.failed := by
  intro p run q notices losses
  obtain ⟨journal, samples, states, h⟩ := (u.started_journaled now).after incidents
  have hlosses : losses = causes journal := causes_eq h.reports
  refine ⟨⟨journal, samples ++ states, ?_, ?_, ?_, h.befalls, h.datagrams, h.reports, h.left⟩,
    ?_, ?_, ?_, ?_, ?_⟩
  · rw [show run.countP (·.takes) = q.sampler.position from h.position.symm]
    exact h.positions
  · rw [List.length_append, h.afoot.samples.length_eq, h.afoot.states.length_eq]
  · intro hgone
    obtain ⟨rfl, rfl⟩ := h.afoot.empty (hgone .transform) (hgone .transmitter)
    rfl
  · intro n hn e hloss
    -- a notice of a loss is in the journal, and so it is one of those that can be there
    have hreported : n ∈ journal.filterMap (·.2.report?) := by
      rw [← h.reports, List.mem_filter, hloss]
      exact ⟨hn, rfl⟩
    obtain ⟨⟨i, f⟩, hentry, hreport⟩ := List.mem_filterMap.mp hreported
    have hbefalls := h.befalls _ hentry
    rw [Fate.of_report? hreport] at hbefalls
    exact hbefalls.level hloss
  · rw [hlosses, ← h.samplesDropped]
  · rw [hlosses, ← h.statesDropped]
  · rw [hlosses, ← h.lawErrors]
    rfl
  · rw [hlosses, ← h.failed]

/-- A setup with one place in each channel, a law that fails for one sample, and a network that
loses the first datagram. -/
def Setup.hapless : Setup where
  waveform := ⟨[5, 7, 9, 11, 13, 15, 17, 19, 21]⟩
  period := 1000
  law := fun s => if s = 7 then .error (.script "odd") else .ok (invert s)
  description := "hapless"
  sampleCapacity := 1
  stateCapacity := 1
  destination := ⟨.loopback, 9889⟩
  readyPoll := 1000
  seqnum := 0
  upAfter := 0
  failAttempts := [1]

/-- A run in which each of nine entries meets another fate: the transmitter goes away with a state
in its queue, and the transform stage with a sample in its own. -/
def Incident.mishaps : List Incident :=
  let next : List Incident :=
    [.event (.act .tick), .event (.act .takeSample), .event (.act .handleSample)]
  let send : List Incident := [.event (.act .takeState), .event (.act .transmitState)]
  next ++ send ++ next ++ next ++ next ++ send ++
    [.event (.act .tick), .event (.act .tick), .event (.act .takeSample),
      .event (.act .handleSample), .drop .transmitter] ++
    next ++ [.event (.act .tick), .drop .transform, .event (.act .tick), .event (.leave .sampler)]

set_option maxRecDepth 2000 in
theorem Setup.no_silent_loss_hapless :
    let run := (Setup.hapless.started 0).history Incident.mishaps
    let q := (Setup.hapless.started 0).after Incident.mishaps
    (∀ s, q.alive s = false) ∧ q.network.datagrams.length = 1 ∧
    ((run.flatMap (·.notices)).filter (·.loss?.isSome)).length = 6 ∧
    run.flatMap (·.left) = [13, 19] ∧
    ∃ journal : List (ℕ × Fate), (journal.map Prod.fst).Perm (List.range 9) ∧
      (∀ entry ∈ journal, Befalls Setup.hapless entry.1 entry.2) ∧
      q.network.datagrams = journal.filterMap (·.2.datagram?) ∧
      (run.flatMap (·.notices)).filter (·.loss?.isSome) = journal.filterMap (·.2.report?) := by
  intro run q
  have hgone : ∀ s, q.alive s = false := by
    intro s
    cases s <;> rfl
  have htaken : run.countP (·.takes) = 9 := by rfl
  obtain ⟨⟨journal, underway, hperm, -, hempty, hbefalls, hdatagrams, hreports, -⟩, -⟩ :=
    Setup.hapless.no_silent_loss 0 Incident.mishaps
  refine ⟨hgone, rfl, rfl, rfl, journal, ?_, hbefalls, hdatagrams, hreports⟩
  rw [← htaken, ← List.append_nil (journal.map Prod.fst), ← hempty hgone]
  exact hperm

end Telemetry
