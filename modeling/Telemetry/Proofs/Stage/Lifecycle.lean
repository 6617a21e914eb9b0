/-
The life of a sampler under every use.

The stage is started, ticks one at a time or in a run, and the consumer of its channel receives
or goes away, in any order. What has been done is kept as a list of deeds, and it decides all
that the stage shows: its phase, its position, its timer and its counters.

* `Sampler.Operation`, `Sampler.perform` — what the stage and the consumer do;
* `Sampler.round` — one wait and one tick of a run;
* `Sampler.Agrees` — phase, position, timer and counters agree with the deeds and the channel;
* `Sampler.use_agrees` — they do so after every use;
* `Sampler.drive_state`, `Sampler.drive_extra` — a run is its rounds, and when it has come to its
  end there are no more of them;
* `Sampler.lifecycle` — phases, entries, counters, and the end of every run.

Design notes: a run is entered whatever was done before, so its bound on rounds is shown to be no
bound: with more of them it does the same, on every clock.
-/
import Telemetry.Proofs.Stage.Loop

namespace Telemetry

/-- The order in which a sampler goes through its phases. -/
def Phase.rank : Phase → ℕ
  | .init => 0
  | .reading => 1
  | .suspended => 2

namespace Sampler

/-- What the stage and the consumer of its channel do. A start reads the clock once, and a run
once more before each of its ticks; the consumer does not wait for a run to end, so the rounds
of its loop are operations too. -/
inductive Operation where
  | start (now : Instant)
  | tick
  | run (clock : ℕ → Instant)
  | round (now : Instant)
  | receive
  | dropReceiver

/-- Whether an operation is a round of a run. -/
def Operation.isRound : Operation → Bool
  | .round _ => true
  | _ => false

/-- What the stage has done: a tick comes with the entry that it took, if any, and what the
channel answered to it. -/
inductive Deed where
  | started
  | waited (outcome : Wait)
  | ticked (taken : Option (Sample × Except PipelineError Unit))

namespace Deed

def isStart : Deed → Bool
  | .started => true
  | _ => false

def isWait : Deed → Bool
  | .waited _ => true
  | _ => false

/-- Whether a wait has reported a missed deadline. -/
def isLate : Deed → Bool
  | .waited outcome => outcome.error?.isSome
  | _ => false

def isTick : Deed → Bool
  | .ticked _ => true
  | _ => false

/-- Whether a tick has found the channel closed. -/
def isRefusal : Deed → Bool
  | .ticked (some (_, .error (.channelClosed _))) => true
  | _ => false

def taken? : Deed → Option Sample
  | .ticked taken => taken.map (·.1)
  | _ => none

end Deed

/-- The deed of a tick into the channel `tx`. -/
def tickDeed (s : Sampler) (tx : Channel Sample) : Deed :=
  .ticked ((s.tick tx).answer.map fun sample => (sample, (tx.send sample).1))

/-- One round of the loop of a run, when the clock reads `now`: a wait and a tick. -/
def round (now : Instant) (c : Sampler × Channel Sample) :
    List Deed × (Sampler × Channel Sample) :=
  match c.1.phase, c.1.timer with
  | .reading, some timer =>
    let s := (c.1.await timer now).1
    ([.waited (timer.wait now).1, s.tickDeed c.2], (s.tick c.2).state)
  | _, _ => ([], c)

/-- Some rounds, from the `k`-th reading of the clock on. -/
def rounds (clock : ℕ → Instant) : ℕ → ℕ → Sampler × Channel Sample →
    List Deed × (Sampler × Channel Sample)
  | 0, _, c => ([], c)
  | n + 1, k, c =>
    let done := round (clock k) c
    let later := rounds clock n (k + 1) done.2
    (done.1 ++ later.1, later.2)

/-- One operation, and what the stage did in it. -/
def perform (c : Sampler × Channel Sample) : Operation → List Deed × (Sampler × Channel Sample)
  | .start now => ([.started], ((c.1.start now).state, c.2))
  | .tick => ([c.1.tickDeed c.2], (c.1.tick c.2).state)
  | .run clock =>
    (.started :: (rounds clock (c.1.waveform.length - c.1.position) 1
        ((c.1.start (clock 0)).state, c.2)).1,
      (c.1.run c.2 clock).state)
  | .round now => round now c
  | .receive => ([], if c.2.receiverAlive then (c.1, c.2.receive.2) else c)
  | .dropReceiver => ([], (c.1, c.2.dropReceiver))

/-- Operations one after the other, and what the stage did. -/
def use (c : Sampler × Channel Sample) : List Operation → List Deed × (Sampler × Channel Sample)
  | [] => ([], c)
  | op :: rest =>
    let done := perform c op
    let later := use done.2 rest
    (done.1 ++ later.1, later.2)

/-- The samples that ticks returned, in order. -/
def taken (past : List Deed) : List Sample := past.filterMap Deed.taken?

/-- Whether the stage has been started, whatever came of it. -/
def isStarted (past : List Deed) : Bool := past.any Deed.isStart

/-- The sampler `s` with the channel `tx` agrees with the deeds `past` of a sampler of the
waveform `w`. -/
structure Agrees (w : Waveform) (past : List Deed) (s : Sampler) (tx : Channel Sample) :
    Prop where
  waveform_eq : s.waveform = w
  fresh : isStarted past = false → s.phase = .init ∧ s.position = 0
  underway : isStarted past = true → s.OnTrack ∧ s.timer.isSome = true
  bounded : s.position ≤ w.length
  taken_eq : taken past = w.samples.take s.position
  produced_eq : s.produced = tx.sent
  dropped_eq : s.dropped = tx.dropped
  position_eq : s.position = s.produced + s.dropped + past.countP Deed.isRefusal
  missed_eq : s.missed = past.countP Deed.isLate

variable {w : Waveform} {past : List Deed} {s : Sampler} {tx tx' : Channel Sample}

/-! ### Deeds -/

theorem isStarted_append (past more : List Deed) :
    isStarted (past ++ more) = (isStarted past || isStarted more) := List.any_append

theorem taken_append (past more : List Deed) : taken (past ++ more) = taken past ++ taken more :=
  List.filterMap_append

theorem isStarted_start (past : List Deed) : isStarted (past ++ [.started]) = true := by
  rw [isStarted_append]
  exact Bool.or_true _

theorem isStarted_of_earlier {past : List Deed} (more : List Deed) (h : isStarted past = true) :
    isStarted (past ++ more) = true := by
  rw [isStarted_append, h, Bool.true_or]

theorem isStarted_of_not {d : Deed} (past : List Deed) (h : d.isStart = false) :
    isStarted (past ++ [d]) = isStarted past := by
  simp [isStarted, h]

theorem taken_of_none {d : Deed} (past : List Deed) (h : d.taken? = none) :
    taken (past ++ [d]) = taken past := by
  simp [taken, h]

theorem countP_of_not {p : Deed → Bool} {d : Deed} (past : List Deed) (h : p d = false) :
    (past ++ [d]).countP p = past.countP p := by
  simp [List.countP_append, h]

/-! ### Phases -/

theorem OnTrack.reading_iff (h : s.OnTrack) :
    s.phase = .reading ↔ s.position < s.waveform.length := by
  rw [h]
  by_cases hlt : s.position < s.waveform.length
  · simp [hlt]
  · simp [hlt]

theorem OnTrack.suspended_iff (h : s.OnTrack) :
    s.phase = .suspended ↔ s.waveform.length ≤ s.position := by
  rw [h]
  by_cases hlt : s.position < s.waveform.length
  · simp [hlt, Nat.not_le_of_lt hlt]
  · simp [hlt, Nat.le_of_not_lt hlt]

/-! ### Ticks -/

theorem tick_idle (tx : Channel Sample) (h : s.phase ≠ .reading) :
    s.tick tx = ⟨none, (s, tx), []⟩ := by
  rw [Sampler.tick, if_pos h]

/-- A tick that takes an entry is counted once: by the stage and the channel alike, or as a
refusal. -/
theorem tick_counts {sample : Sample} (tx : Channel Sample) (hphase : s.phase = .reading)
    (hget : s.waveform.get? s.position = some sample) :
    ∃ outcome, s.tickDeed tx = .ticked (some (sample, outcome)) ∧
      (s.tick tx).state.1.produced + tx.sent = s.produced + (s.tick tx).state.2.sent ∧
      (s.tick tx).state.1.dropped + tx.dropped = s.dropped + (s.tick tx).state.2.dropped ∧
      (s.tick tx).state.1.produced + (s.tick tx).state.1.dropped +
        [s.tickDeed tx].countP Deed.isRefusal = s.produced + s.dropped + 1 ∧
      (s.tick tx).state.1.missed = s.missed := by
  have hticked := s.tick_ticked tx
  rw [tickDeed]
  generalize s.tick tx = ticked at hticked ⊢
  cases hticked with
  | idle h => exact absurd ((h hphase).symm.trans hget) (by simp)
  | taken _ hget' halive hroom =>
    obtain rfl := Option.some_inj.mp (hget'.symm.trans hget)
    refine ⟨.ok (), ?_, ?_, rfl, ?_, rfl⟩
    · simp [Channel.send, halive, Nat.not_le_of_lt hroom]
    · dsimp only
      omega
    · simp [next, Channel.send, halive, Nat.not_le_of_lt hroom, Deed.isRefusal]
      omega
  | dropped _ hget' halive hfull =>
    obtain rfl := Option.some_inj.mp (hget'.symm.trans hget)
    refine ⟨.error tx.full, ?_, rfl, ?_, ?_, rfl⟩
    · simp [Channel.send, halive, hfull]
    · dsimp only
      omega
    · simp [next, Channel.send, halive, hfull, Deed.isRefusal, Channel.full]
      omega
  | refused _ hget' hgone =>
    obtain rfl := Option.some_inj.mp (hget'.symm.trans hget)
    refine ⟨.error tx.closed, ?_, rfl, rfl, ?_, rfl⟩
    · simp [Channel.send, hgone]
    · simp [next, Channel.send, hgone, Deed.isRefusal, Channel.closed]

namespace Agrees

theorem create (w : Waveform) (period : Duration) (name : String) (capacity : ℕ) :
    Agrees w [] (create w period) (Channel.create Sample name capacity) :=
  ⟨rfl, fun _ => ⟨rfl, rfl⟩, nofun, Nat.zero_le _, rfl, rfl, rfl, rfl, rfl⟩

/-- As many entries have been taken as the position says. -/
theorem length_taken (h : Agrees w past s tx) : (taken past).length = s.position := by
  rw [h.taken_eq, List.length_take]
  exact Nat.min_eq_left h.bounded

theorem init_iff (h : Agrees w past s tx) : s.phase = .init ↔ isStarted past = false := by
  constructor
  · intro hphase
    rcases hstarted : isStarted past with _ | _
    · rfl
    · obtain ⟨htrack, -⟩ := h.underway hstarted
      rw [htrack] at hphase
      split at hphase <;> cases hphase
  · exact fun hfresh => (h.fresh hfresh).1

theorem reading_iff (h : Agrees w past s tx) :
    s.phase = .reading ↔ isStarted past = true ∧ s.position < w.length := by
  rcases hstarted : isStarted past with _ | _
  · rw [(h.fresh hstarted).1]
    simp
  · rw [(h.underway hstarted).1.reading_iff, h.waveform_eq]
    simp

theorem suspended_iff (h : Agrees w past s tx) :
    s.phase = .suspended ↔ isStarted past = true ∧ s.position = w.length := by
  rcases hstarted : isStarted past with _ | _
  · rw [(h.fresh hstarted).1]
    simp
  · rw [(h.underway hstarted).1.suspended_iff, h.waveform_eq]
    simpa using ⟨Nat.le_antisymm h.bounded, fun heq => Nat.le_of_eq heq.symm⟩

/-! ### One deed -/

theorem start (h : Agrees w past s tx) (now : Instant) :
    Agrees w (past ++ [.started]) (s.start now).state tx := by
  have hafter : (s.start now).state.waveform = s.waveform ∧
      (s.start now).state.position = s.position ∧ (s.start now).state.produced = s.produced ∧
      (s.start now).state.dropped = s.dropped ∧ (s.start now).state.missed = s.missed := by
    rw [Sampler.start]
    split <;> exact ⟨rfl, rfl, rfl, rfl, rfl⟩
  -- only the first start has an effect, and what it needs has not been touched before
  have hunderway : (s.start now).state.OnTrack ∧ (s.start now).state.timer.isSome = true := by
    rcases hearlier : isStarted past with _ | _
    · obtain ⟨hphase, hposition⟩ := h.fresh hearlier
      rw [Sampler.start, if_pos hphase]
      refine ⟨?_, rfl⟩
      rcases hsamples : s.waveform.samples with _ | ⟨a, rest⟩
      · simp [OnTrack, Waveform.length, hsamples]
      · simp [OnTrack, Waveform.length, hsamples, hposition]
    · have hphase : s.phase ≠ .init := by
        rw [Ne, h.init_iff, hearlier]
        exact Bool.noConfusion
      rw [Sampler.start, if_neg hphase]
      exact h.underway hearlier
  obtain ⟨hwaveform, hposition, hproduced, hdropped, hmissed⟩ := hafter
  refine ⟨hwaveform.trans h.waveform_eq, fun hfresh => ?_, fun _ => hunderway, ?_, ?_, ?_, ?_, ?_,
    ?_⟩
  · exact absurd (hfresh.symm.trans (isStarted_start past)) Bool.noConfusion
  · rw [hposition]
    exact h.bounded
  · rw [taken_of_none past rfl, hposition, h.taken_eq]
  · rw [hproduced, h.produced_eq]
  · rw [hdropped, h.dropped_eq]
  · rw [hposition, hproduced, hdropped, countP_of_not past rfl, h.position_eq]
  · rw [hmissed, countP_of_not past rfl, h.missed_eq]

/-- A tick that takes no entry leaves no trace. -/
theorem ticked_none (h : Agrees w past s tx) : Agrees w (past ++ [.ticked none]) s tx := by
  have hstarted : isStarted (past ++ [.ticked none]) = isStarted past := isStarted_of_not past rfl
  refine ⟨h.waveform_eq, fun hf => h.fresh (hstarted.symm.trans hf),
    fun hs => h.underway (hstarted.symm.trans hs), h.bounded,
    (taken_of_none past rfl).trans h.taken_eq, h.produced_eq, h.dropped_eq, ?_, ?_⟩
  · rw [countP_of_not past rfl]
    exact h.position_eq
  · rw [countP_of_not past rfl]
    exact h.missed_eq

theorem tick (h : Agrees w past s tx) :
    Agrees w (past ++ [s.tickDeed tx]) (s.tick tx).state.1 (s.tick tx).state.2 := by
  by_cases hreading : s.phase = .reading
  · obtain ⟨hstarted, hlt⟩ := h.reading_iff.mp hreading
    obtain ⟨htrack, htimer⟩ := h.underway hstarted
    have hlt' : s.position < s.waveform.length := by
      rw [h.waveform_eq]
      exact hlt
    obtain ⟨sample, hget⟩ : ∃ sample, s.waveform.get? s.position = some sample :=
      ⟨_, List.getElem?_eq_getElem hlt'⟩
    obtain ⟨htrack', hposition, hwaveform, htimer', -⟩ := tick_of_lt tx htrack hlt'
    obtain ⟨outcome, hdeed, hproduced, hdropped, hsum, hmissed⟩ := tick_counts tx hreading hget
    have htaken : taken (past ++ [s.tickDeed tx]) = taken past ++ [sample] := by
      rw [taken_append, hdeed]
      rfl
    refine ⟨hwaveform.trans h.waveform_eq, fun hfresh => ?_, fun _ => ⟨htrack', ?_⟩, ?_, ?_, ?_,
      ?_, ?_, ?_⟩
    · exact absurd (hfresh.symm.trans (isStarted_of_earlier _ hstarted)) Bool.noConfusion
    · rw [htimer']
      exact htimer
    · rw [hposition]
      exact hlt
    · rw [htaken, hposition, h.taken_eq]
      have hentry : w.samples[s.position]? = some sample := by
        rw [← h.waveform_eq]
        exact hget
      rw [List.take_add_one, hentry]
      rfl
    · have := h.produced_eq
      omega
    · have := h.dropped_eq
      omega
    · have := h.position_eq
      rw [List.countP_append]
      omega
    · rw [hmissed, h.missed_eq, List.countP_append, hdeed]
      rfl
  · have hidle : s.tick tx = ⟨none, (s, tx), []⟩ := tick_idle tx hreading
    rw [tickDeed, hidle]
    exact h.ticked_none

theorem waited (h : Agrees w past s tx) (timer : Timer) (now : Instant) :
    Agrees w (past ++ [.waited (timer.wait now).1]) (s.await timer now).1 tx := by
  have hstarted : isStarted (past ++ [.waited (timer.wait now).1]) = isStarted past :=
    isStarted_of_not past rfl
  have hmissed : (s.await timer now).1.missed =
      s.missed + [Deed.waited (timer.wait now).1].countP Deed.isLate := by
    rw [await]
    rcases timer.wait now with ⟨_ | _, timer'⟩ <;> rfl
  obtain ⟨timer', missed, hawait⟩ := s.await_fst timer now
  rw [hawait] at hmissed ⊢
  refine ⟨h.waveform_eq, fun hf => h.fresh (hstarted.symm.trans hf),
    fun hs => ⟨(h.underway (hstarted.symm.trans hs)).1, rfl⟩, h.bounded,
    (taken_of_none past rfl).trans h.taken_eq, h.produced_eq, h.dropped_eq, ?_, ?_⟩
  · rw [countP_of_not past rfl]
    exact h.position_eq
  · rw [List.countP_append, ← h.missed_eq]
    exact hmissed

/-- What the consumer does leaves the counters of the channel as they are. -/
theorem of_channel (h : Agrees w past s tx) (hsent : tx'.sent = tx.sent)
    (hdropped : tx'.dropped = tx.dropped) : Agrees w past s tx' :=
  { h with
    produced_eq := h.produced_eq.trans hsent.symm
    dropped_eq := h.dropped_eq.trans hdropped.symm }

end Agrees

/-! ### Rounds -/

/-- A round does nothing for a sampler that does not read, or has no timer. -/
theorem round_idle (tx : Channel Sample) (now : Instant) (h : s.phase = .reading → s.timer = none) :
    round now (s, tx) = ([], s, tx) := by
  unfold round
  split
  next timer hphase htimer => exact absurd (htimer.symm.trans (h hphase)) (by simp)
  next => rfl

theorem round_of_reading {timer : Timer} (tx : Channel Sample) (now : Instant)
    (hphase : s.phase = .reading) (htimer : s.timer = some timer) :
    round now (s, tx) =
      ([.waited (timer.wait now).1, (s.await timer now).1.tickDeed tx],
        ((s.await timer now).1.tick tx).state) := by
  unfold round
  split
  next other _ hother =>
    obtain rfl := Option.some_inj.mp (hother.symm.trans htimer)
    rfl
  next h => exact absurd htimer (h timer hphase)

theorem drive_idle (tx : Channel Sample) (clock : ℕ → Instant) (n k : ℕ)
    (h : s.phase = .reading → s.timer = none) :
    drive clock n k (s, tx) = ⟨(), (s, tx), []⟩ := by
  rcases n with _ | n
  · rfl
  · rw [drive]
    split
    next timer hphase htimer => exact absurd (htimer.symm.trans (h hphase)) (by simp)
    next => rfl

theorem drive_of_reading {timer : Timer} (tx : Channel Sample) (clock : ℕ → Instant) (n k : ℕ)
    (hphase : s.phase = .reading) (htimer : s.timer = some timer) :
    drive clock (n + 1) k (s, tx) =
      let late := s.await timer (clock k)
      let ticked := late.1.tick tx
      let rest := drive clock n (k + 1) ticked.state
      ⟨(), rest.state, late.2 ++ ticked.notices ++ rest.notices⟩ := by
  rw [drive]
  split
  next other _ hother =>
    obtain rfl := Option.some_inj.mp (hother.symm.trans htimer)
    rfl
  next h => exact absurd htimer (h timer hphase)

theorem rounds_idle (tx : Channel Sample) (clock : ℕ → Instant) (n : ℕ)
    (h : s.phase = .reading → s.timer = none) : ∀ k : ℕ,
    rounds clock n k (s, tx) = ([], s, tx) := by
  induction n with
  | zero => exact fun _ => rfl
  | succ n ih =>
    intro k
    rw [rounds, round_idle tx (clock k) h, ih]
    rfl

/-- Either a round does nothing at all, or there is a timer to wait for. -/
theorem idle_or_reading (s : Sampler) :
    (s.phase = .reading → s.timer = none) ∨
      s.phase = .reading ∧ ∃ timer, s.timer = some timer := by
  rcases htimer : s.timer with _ | timer
  · exact .inl fun _ => rfl
  · by_cases hphase : s.phase = .reading
    · exact .inr ⟨hphase, timer, rfl⟩
    · exact .inl fun h => absurd h hphase

/-- The loop of a run goes through its rounds, and leaves early only where they do nothing. -/
theorem drive_state (clock : ℕ → Instant) (n : ℕ) : ∀ {k : ℕ} {s : Sampler}
    {tx : Channel Sample}, (drive clock n k (s, tx)).state = (rounds clock n k (s, tx)).2 := by
  induction n with
  | zero => exact rfl
  | succ n ih =>
    intro k s tx
    rcases s.idle_or_reading with hidle | ⟨hphase, timer, htimer⟩
    · rw [drive_idle tx clock (n + 1) k hidle, rounds_idle tx clock (n + 1) hidle]
    · rw [drive_of_reading tx clock n k hphase htimer, rounds,
        round_of_reading tx (clock k) hphase htimer]
      exact ih

/-- Once a run has left the reading phase, the rounds that it might still make are none. -/
theorem drive_extra (clock : ℕ → Instant) (m n : ℕ) : ∀ {k : ℕ} {s : Sampler}
    {tx : Channel Sample}, (drive clock n k (s, tx)).state.1.phase ≠ .reading →
    drive clock (n + m) k (s, tx) = drive clock n k (s, tx) := by
  induction n with
  | zero =>
    intro k s tx h
    exact drive_idle tx clock (0 + m) k fun hphase => absurd hphase h
  | succ n ih =>
    -- the first round is the same, and the rest have left the reading phase if all have
    intro k s tx h
    rw [Nat.add_right_comm]
    rcases s.idle_or_reading with hidle | ⟨hphase, timer, htimer⟩
    · rw [drive_idle tx clock _ k hidle, drive_idle tx clock _ k hidle]
    · rw [drive_of_reading tx clock n k hphase htimer] at h ⊢
      rw [drive_of_reading tx clock _ k hphase htimer]
      simp only [ih h]

namespace Agrees

theorem round (h : Agrees w past s tx) (now : Instant) :
    Agrees w (past ++ (round now (s, tx)).1) (round now (s, tx)).2.1 (round now (s, tx)).2.2 := by
  rcases s.idle_or_reading with hidle | ⟨hphase, timer, htimer⟩
  · rw [round_idle tx now hidle, List.append_nil]
    exact h
  · rw [round_of_reading tx now hphase htimer]
    have hticked := (h.waited timer now).tick
    rw [List.append_assoc] at hticked
    exact hticked

theorem rounds (clock : ℕ → Instant) (n : ℕ) : ∀ {k : ℕ} {past : List Deed} {s : Sampler}
    {tx : Channel Sample}, Agrees w past s tx →
    Agrees w (past ++ (rounds clock n k (s, tx)).1) (rounds clock n k (s, tx)).2.1
      (rounds clock n k (s, tx)).2.2 := by
  induction n with
  | zero =>
    intro k past s tx h
    rw [Sampler.rounds, List.append_nil]
    exact h
  | succ n ih =>
    intro k past s tx h
    have hrest := @ih (k + 1) _ _ _ (h.round (clock k))
    rw [List.append_assoc] at hrest
    exact hrest

/-- While there are entries left, a round waits, and takes the next entry. -/
theorem round_of_left (h : Agrees w past s tx) (hstarted : isStarted past = true)
    (hlt : s.position < w.length) (now : Instant) :
    (Sampler.round now (s, tx)).1.countP Deed.isTick = 1 ∧
    (Sampler.round now (s, tx)).1.countP Deed.isWait = 1 ∧
    (Sampler.round now (s, tx)).2.1.position = s.position + 1 := by
  have hphase : s.phase = .reading := h.reading_iff.mpr ⟨hstarted, hlt⟩
  obtain ⟨htrack, htimer⟩ := h.underway hstarted
  obtain ⟨timer, htimer⟩ := Option.isSome_iff_exists.mp htimer
  obtain ⟨timer', missed, hawait⟩ := s.await_fst timer now
  have hlt' : s.position < s.waveform.length := by
    rw [h.waveform_eq]
    exact hlt
  rw [round_of_reading tx now hphase htimer]
  refine ⟨rfl, rfl, ?_⟩
  rw [hawait]
  exact (tick_of_lt (s := { s with timer := some timer', missed := missed }) tx htrack hlt').2.1

/-- As many rounds as there are entries left take them all. -/
theorem rounds_of_left (clock : ℕ → Instant) (n : ℕ) : ∀ {k : ℕ} {past : List Deed}
    {s : Sampler} {tx : Channel Sample}, Agrees w past s tx → isStarted past = true →
    s.position + n ≤ w.length →
    (Sampler.rounds clock n k (s, tx)).1.countP Deed.isTick = n ∧
    (Sampler.rounds clock n k (s, tx)).1.countP Deed.isWait = n ∧
    (Sampler.rounds clock n k (s, tx)).2.1.position = s.position + n := by
  induction n with
  | zero => exact fun _ _ _ => ⟨rfl, rfl, rfl⟩
  | succ n ih =>
    intro k past s tx h hstarted hleft
    obtain ⟨htick, hwait, hposition⟩ := h.round_of_left hstarted (by omega) (clock k)
    obtain ⟨hticks, hwaits, hend⟩ := @ih (k + 1) _ _ _ (h.round (clock k))
      (isStarted_of_earlier _ hstarted) (by omega)
    rw [Sampler.rounds, List.countP_append, List.countP_append]
    refine ⟨?_, ?_, ?_⟩
    · rw [htick, hticks, Nat.add_comm]
    · rw [hwait, hwaits, Nat.add_comm]
    · rw [hend, hposition, Nat.add_right_comm, Nat.add_assoc]

end Agrees

/-! ### Operations -/

variable {c : Sampler × Channel Sample}

/-- A run is a start and as many rounds as there are entries left. -/
theorem perform_run (s : Sampler) (tx : Channel Sample) (clock : ℕ → Instant) :
    perform (s, tx) (.run clock) =
      let ran := rounds clock (s.waveform.length - s.position) 1 ((s.start (clock 0)).state, tx)
      (.started :: ran.1, ran.2) := by
  rw [perform, run, drive_state]

theorem perform_agrees (h : Agrees w past c.1 c.2) (op : Operation) :
    Agrees w (past ++ (perform c op).1) (perform c op).2.1 (perform c op).2.2 := by
  cases op with
  | start now => exact h.start now
  | tick => exact h.tick
  | run clock =>
    have hrun := (h.start (clock 0)).rounds clock (c.1.waveform.length - c.1.position) (k := 1)
    rw [List.append_assoc] at hrun
    rw [perform_run]
    exact hrun
  | round now => exact h.round now
  | receive =>
    simp only [perform, List.append_nil]
    rcases c.2.receiverAlive with _ | _
    · exact h
    · have hreceived := c.2.receive_received
      simp only [if_true]
      generalize c.2.receive = received at hreceived ⊢
      cases hreceived with
      | item _ => exact h.of_channel rfl rfl
      | waiting _ _ => exact h
      | closed _ _ => exact h
  | dropReceiver =>
    simp only [perform, List.append_nil]
    exact h.of_channel rfl rfl

/-- Whatever is done with a sampler, it agrees with what has been done. -/
theorem use_agrees (ops : List Operation) : ∀ {past : List Deed} {c : Sampler × Channel Sample},
    Agrees w past c.1 c.2 → Agrees w (past ++ (use c ops).1) (use c ops).2.1 (use c ops).2.2 := by
  induction ops with
  | nil =>
    intro past c h
    rw [use, List.append_nil]
    exact h
  | cons op rest ih =>
    intro past c h
    have hrest := ih (perform_agrees h op)
    rw [List.append_assoc] at hrest
    exact hrest

namespace Agrees

variable {more : List Deed} {s' : Sampler}

/-- More deeds do not take an entry back. -/
theorem position_le (h : Agrees w past s tx) (h' : Agrees w (past ++ more) s' tx') :
    s.position ≤ s'.position := by
  rw [← h.length_taken, ← h'.length_taken, taken_append, List.length_append]
  exact Nat.le_add_right _ _

/-- More deeds do not lead back to an earlier phase. -/
theorem rank_le (h : Agrees w past s tx) (h' : Agrees w (past ++ more) s' tx') :
    s.phase.rank ≤ s'.phase.rank := by
  have hposition := h.position_le h'
  have hbounded := h'.bounded
  rcases hphase : s.phase with _ | _ | _
  · exact Nat.zero_le _
  · have hstarted := (h.reading_iff.mp hphase).1
    have hphase' : s'.phase ≠ .init := by
      rw [Ne, h'.init_iff, isStarted_of_earlier more hstarted]
      exact Bool.noConfusion
    rcases hafter : s'.phase with _ | _ | _
    · exact absurd hafter hphase'
    · exact Nat.le_refl _
    · decide
  · obtain ⟨hstarted, hend⟩ := h.suspended_iff.mp hphase
    have hsuspended : s'.phase = .suspended :=
      h'.suspended_iff.mpr ⟨isStarted_of_earlier more hstarted, by omega⟩
    exact Nat.le_of_eq (congrArg Phase.rank hsuspended).symm

end Agrees

/-- A run between whose rounds other things are done takes an entry in every round. -/
theorem use_position_of_rounds (ops : List Operation) : ∀ {past : List Deed}
    {c : Sampler × Channel Sample}, Agrees w past c.1 c.2 → isStarted past = true →
    min w.length (c.1.position + ops.countP Operation.isRound) ≤ (use c ops).2.1.position := by
  induction ops with
  | nil => exact fun _ _ => Nat.min_le_right _ _
  | cons op rest ih =>
    intro past c h hstarted
    have hafter := perform_agrees h op
    have hrest := ih hafter (isStarted_of_earlier _ hstarted)
    have hposition := h.position_le hafter
    -- a round takes an entry if there is one, and nothing that is done gives one back
    have hround : op.isRound = true → c.1.position < w.length →
        (perform c op).2.1.position = c.1.position + 1 := by
      intro hround hlt
      cases op with
      | round now => exact (h.round_of_left hstarted hlt now).2.2
      | _ => cases hround
    have hbounded := hafter.bounded
    rw [List.countP_cons]
    show _ ≤ (use (perform c op).2 rest).2.1.position
    rcases hop : op.isRound with _ | _
    · simp only [Bool.false_eq_true, if_false]
      omega
    · by_cases hlt : c.1.position < w.length
      · have := hround hop hlt
        simp only [if_true]
        omega
      · omega

/-- Some rounds, each taken as an operation. -/
theorem use_rounds (clock : ℕ → Instant) (n : ℕ) : ∀ (k : ℕ) (c : Sampler × Channel Sample),
    use c ((List.range' k n).map fun i => .round (clock i)) = rounds clock n k c := by
  induction n with
  | zero => exact fun _ _ => rfl
  | succ n ih =>
    intro k c
    rw [List.range'_succ, List.map_cons, use, ih, rounds]
    rfl

namespace Agrees

/-- A run takes all the entries that are left, each in one tick behind one wait. -/
theorem run_takes (h : Agrees w past s tx) (clock : ℕ → Instant) :
    (perform (s, tx) (.run clock)).1.countP Deed.isTick = w.length - s.position ∧
    (perform (s, tx) (.run clock)).1.countP Deed.isWait = w.length - s.position ∧
    (perform (s, tx) (.run clock)).2.1.position = w.length := by
  -- the number of rounds is fixed before the start, which leaves the position alone
  have hposition : (s.start (clock 0)).state.position = s.position := by
    rw [Sampler.start]
    split <;> rfl
  have hbounded := h.bounded
  obtain ⟨hticks, hwaits, hend⟩ := (h.start (clock 0)).rounds_of_left clock
    (w.length - s.position) (k := 1) (isStarted_start past) (by omega)
  rw [perform_run, h.waveform_eq]
  refine ⟨?_, ?_, hend.trans (by omega)⟩
  · rw [List.countP_cons_of_neg (by simp [Deed.isTick])]
    exact hticks
  · rw [List.countP_cons_of_neg (by simp [Deed.isWait])]
    exact hwaits

theorem taken_run (h : Agrees w past s tx) (clock : ℕ → Instant) :
    taken (perform (s, tx) (.run clock)).1 = w.samples.drop s.position := by
  have hafter := (perform_agrees (c := (s, tx)) h (.run clock)).taken_eq
  rw [(h.run_takes clock).2.2, taken_append, h.taken_eq] at hafter
  have hwhole : w.samples.take w.length = w.samples := List.take_length
  rw [hwhole] at hafter
  exact List.append_cancel_left (hafter.trans (List.take_append_drop s.position w.samples).symm)

/-- It ends suspended, whatever the clock reads. -/
theorem run_suspends (h : Agrees w past s tx) (clock : ℕ → Instant) :
    (perform (s, tx) (.run clock)).2.1.phase = .suspended := by
  have hafter := perform_agrees (c := (s, tx)) h (.run clock)
  refine hafter.suspended_iff.mpr ⟨?_, (h.run_takes clock).2.2⟩
  rw [isStarted_append]
  exact Bool.or_true _

/-- So further rounds would change nothing. -/
theorem run_extra (h : Agrees w past s tx) (clock : ℕ → Instant) (m : ℕ) :
    drive clock (w.length - s.position + m) 1 ((s.start (clock 0)).state, tx) =
      drive clock (w.length - s.position) 1 ((s.start (clock 0)).state, tx) := by
  have hsuspended := h.run_suspends clock
  rw [perform, run, h.waveform_eq] at hsuspended
  exact drive_extra clock m _ (by
    rw [hsuspended]
    exact Phase.noConfusion)

/-- A run is a start and its rounds, one after the other. -/
theorem run_eq_use (h : Agrees w past s tx) (clock : ℕ → Instant) :
    perform (s, tx) (.run clock) = use (s, tx) (.start (clock 0) ::
      (List.range' 1 (w.length - s.position)).map fun i => .round (clock i)) := by
  rw [use, use_rounds, perform_run, h.waveform_eq]
  rfl

/-- A run whose rounds are mixed with other operations comes to its end as well. -/
theorem rounds_suspend (h : Agrees w past s tx) (now : Instant) {more : List Operation}
    (hrounds : w.length - s.position ≤ more.countP Operation.isRound) :
    (use (s, tx) (.start now :: more)).2.1.phase = .suspended := by
  have hstart := h.start now
  have hreached := use_agrees more (c := ((s.start now).state, tx)) hstart
  have hposition := h.position_le hstart
  have hleast := use_position_of_rounds more (c := ((s.start now).state, tx)) hstart
    (isStarted_start past)
  have hbounded := hreached.bounded
  dsimp only at hleast
  exact hreached.suspended_iff.mpr ⟨isStarted_of_earlier _ (isStarted_start past), by omega⟩

end Agrees

/-- The life of a sampler under every use of the stage and its channel. It goes through its
phases in their order and is suspended exactly when it has been started and has taken the whole
waveform. While it reads, there is a timer and a next entry, which the next tick takes; at any
other time a tick does nothing. What the ticks returned is the waveform up to the position, and
the position counts what the channel accepted, dropped and refused. Whatever the clock reads, a
run makes exactly as many rounds as there are entries left and ends suspended, also if anything
else is done between its rounds. -/
theorem lifecycle (w : Waveform) (period : Duration) (name : String) (capacity : ℕ)
    (ops : List Operation) :
    let used := use (Sampler.create w period, Channel.create Sample name capacity) ops
    let past := used.1
    let s := used.2.1
    let tx := used.2.2
    ((s.phase = .init ↔ isStarted past = false) ∧
      (s.phase = .suspended ↔ isStarted past = true ∧ taken past = w.samples) ∧
      (∀ op, s.phase.rank ≤ (perform (s, tx) op).2.1.phase.rank) ∧
      (s.phase ≠ .init → ∀ now, s.start now = ⟨(), s, []⟩)) ∧
    ((s.phase = .reading → s.position < w.length ∧ s.timer.isSome = true ∧
        ∃ sample, w.get? s.position = some sample ∧ (s.tick tx).answer = some sample) ∧
      (s.phase ≠ .reading → s.tick tx = ⟨none, (s, tx), []⟩) ∧
      taken past = w.samples.take s.position) ∧
    (s.produced = tx.sent ∧ s.dropped = tx.dropped ∧
      s.position = s.produced + s.dropped + past.countP Deed.isRefusal ∧
      s.missed = past.countP Deed.isLate) ∧
    (∀ clock : ℕ → Instant,
      let n := w.length - s.position
      let ran := perform (s, tx) (.run clock)
      ran = use (s, tx) (.start (clock 0) :: (List.range' 1 n).map fun i => .round (clock i)) ∧
      ran.1.countP Deed.isTick = n ∧ ran.1.countP Deed.isWait = n ∧
      taken ran.1 = w.samples.drop s.position ∧ ran.2.1.phase = .suspended ∧
      ran.2.1.missed = s.missed + ran.1.countP Deed.isLate ∧
      ∀ m, drive clock (n + m) 1 ((s.start (clock 0)).state, tx) =
        drive clock n 1 ((s.start (clock 0)).state, tx)) ∧
    ∀ (now : Instant) (more : List Operation),
      w.length - s.position ≤ more.countP Operation.isRound →
      (use (s, tx) (.start now :: more)).2.1.phase = .suspended := by
  intro used past s tx
  have h : Agrees w past s tx :=
    @use_agrees w ops [] (Sampler.create w period, Channel.create Sample name capacity)
      (Agrees.create w period name capacity)
  refine ⟨⟨h.init_iff, ?_, fun op => h.rank_le (perform_agrees (c := (s, tx)) h op), ?_⟩,
    ⟨?_, tick_idle tx, h.taken_eq⟩, ⟨h.produced_eq, h.dropped_eq, h.position_eq, h.missed_eq⟩,
    ?_, fun now more hrounds => h.rounds_suspend now hrounds⟩
  · -- the entries taken are a beginning of the waveform, so their number tells if they are all
    have hwhole : taken past = w.samples ↔ s.position = w.length := by
      constructor
      · intro heq
        rw [← h.length_taken, heq]
        rfl
      · intro heq
        rw [h.taken_eq, heq]
        exact List.take_length
    rw [hwhole]
    exact h.suspended_iff
  · intro hphase now
    rw [Sampler.start, if_neg hphase]
  · intro hphase
    obtain ⟨hstarted, hlt⟩ := h.reading_iff.mp hphase
    have hget : w.get? s.position = some w.samples[s.position] := List.getElem?_eq_getElem hlt
    have hget' : s.waveform.get? s.position = some w.samples[s.position] := by
      rw [h.waveform_eq]
      exact hget
    refine ⟨hlt, (h.underway hstarted).2, _, hget, ?_⟩
    rw [tick_of_get tx hphase hget']
  · intro clock n ran
    obtain ⟨hticks, hwaits, -⟩ := h.run_takes clock
    have hmissed := (perform_agrees (c := (s, tx)) h (.run clock)).missed_eq
    rw [List.countP_append, ← h.missed_eq] at hmissed
    exact ⟨h.run_eq_use clock, hticks, hwaits, h.taken_run clock, h.run_suspends clock, hmissed,
      h.run_extra clock⟩

/-- A tick too early, a start, a tick that fills the channel, and one that finds it closed. -/
def deserted : List Operation := [.tick, .start 0, .tick, .dropReceiver, .tick]

/-- One entry of three is left then; the next tick takes it, and so does a round that is not the
only thing done. -/
theorem lifecycle_deserted :
    let used := use (Sampler.create ⟨[4, 5, 6]⟩ 100, Channel.create Sample "samples" 1) deserted
    used.2.1.phase = .reading ∧ (used.2.1.tick used.2.2).answer = some 6 ∧
    (use used.2 [.start 150, .receive, .round 250]).2.1.phase = .suspended := by
  intro used
  obtain ⟨-, ⟨hreading, -, -⟩, -, -, hrounds⟩ :=
    lifecycle ⟨[4, 5, 6]⟩ 100 "samples" 1 deserted
  have hphase : used.2.1.phase = .reading := by decide
  obtain ⟨-, -, sample, hentry, hanswer⟩ := hreading hphase
  have hsample : sample = 6 := Option.some_inj.mp (hentry.symm.trans (by decide))
  exact ⟨hphase, hanswer.trans (congrArg some hsample),
    hrounds 150 [.receive, .round 250] (by decide)⟩

end Sampler

end Telemetry
