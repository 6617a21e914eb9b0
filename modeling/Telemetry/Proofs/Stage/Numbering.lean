/-
The numbers of a transmitter under every use of it.

A transmitter is opened and made to transmit in any order, and its network answers as it likes.
Each number belongs to one buffer: it is taken only when there is a socket to hand the buffer to,
and it is used up whether the buffer is sent or not.

* `Transmitter.Operation`, `Transmitter.use` — openings and transmissions in any order, each with
  its answer;
* `Transmitter.openSocket_opened` — what an opening can do;
* `Transmitter.openSocket_asked` — it asks the network once and answers as the network does;
* `Transmitter.Numbered`, `Transmitter.use_numbered` — the counters and the buffers handed over
  agree, and the socket is there once an opening has succeeded;
* `Transmitter.numbers_in_step` — every transmission takes one number, and no number comes back
  within a whole round of them.

Design notes: the buffers are read from a tap in front of the network (`Tapped`), which changes no
answer (`Transmitter.use_tapped`). Nothing is assumed of the network behind it.
-/
import Telemetry.Net.Dialogue
import Telemetry.Proofs.Pipeline.Delivery
import Telemetry.Proofs.Wire.Format

namespace Telemetry

namespace Transmitter

/-- What is asked of a transmitter. -/
inductive Operation where
  | openSocket
  | transmit (state : ActuatorState)

/-- What a transmitter answers. -/
inductive Answer where
  | opened (r : Except Error Unit)
  | transmitted (r : Except PipelineError Message)

variable {ν : Type} [NetworkStack ν]

/-- One operation, with its answer. -/
def perform (c : Transmitter × ν) : Operation → Answer × (Transmitter × ν)
  | .openSocket => (.opened (c.1.openSocket c.2).answer, (c.1.openSocket c.2).state)
  | .transmit a => (.transmitted (c.1.transmit c.2 a).answer, (c.1.transmit c.2 a).state)

/-- Operations one after the other, with their answers. -/
def use (c : Transmitter × ν) : List Operation → List Answer × (Transmitter × ν)
  | [] => ([], c)
  | op :: rest => ((perform c op).1 :: (use (perform c op).2 rest).1, (use (perform c op).2 rest).2)

/-! ### One opening -/

/-- The outcomes of opening a socket over the network `net`. -/
inductive Opened (t : Transmitter) (net : ν) : Step (Transmitter × ν) (Except Error Unit) → Prop
  | ok {net' : ν} (hopen : NetworkStack.openSocket net t.destination = (.ok (), net')) :
      Opened t net ⟨.ok (), ({ t with socket := some t.destination }, net'),
        [.socketOpen t.destination]⟩
  | failed {e : Error} {net' : ν}
      (hopen : NetworkStack.openSocket net t.destination = (.error e, net')) :
      Opened t net ⟨.error (.context ("open telemetry socket to " ++ t.destination.text) e),
        (t, net'), []⟩

theorem openSocket_opened (t : Transmitter) (net : ν) : Opened t net (t.openSocket net) := by
  rcases hopen : NetworkStack.openSocket net t.destination with ⟨e | u, net'⟩
  · simp only [openSocket, hopen]
    exact .failed hopen
  · simp only [openSocket, hopen]
    exact .ok hopen

/-- An opening asks the network once; a refusal is passed on with what was to be opened. -/
theorem openSocket_asked (t : Transmitter) (net : ν) :
    (t.openSocket net).answer = (NetworkStack.openSocket net t.destination).1.mapError
      (.context ("open telemetry socket to " ++ t.destination.text)) ∧
    (t.openSocket net).state.2 = (NetworkStack.openSocket net t.destination).2 := by
  have hopened := t.openSocket_opened net
  generalize t.openSocket net = step at hopened ⊢
  cases hopened with
  | ok hopen =>
    rw [hopen]
    exact ⟨rfl, rfl⟩
  | failed hopen =>
    rw [hopen]
    exact ⟨rfl, rfl⟩

/-- Only an opening that succeeds changes the transmitter, and nothing of it but the socket. -/
theorem openSocket_leaves (t : Transmitter) (net : ν) :
    (∀ e, (t.openSocket net).answer = .error e → (t.openSocket net).state.1 = t) ∧
    ((t.openSocket net).answer = .ok () →
      (t.openSocket net).state.1 = { t with socket := some t.destination }) := by
  have hopened := t.openSocket_opened net
  generalize t.openSocket net = step at hopened ⊢
  cases hopened with
  | ok => exact ⟨nofun, fun _ => rfl⟩
  | failed => exact ⟨fun _ _ => rfl, nofun⟩

/-- A tap changes no opening, and an opening hands no buffer over. -/
theorem openSocket_tapped (t : Transmitter) (n : Tapped ν) :
    (t.openSocket n).answer = (t.openSocket n.inner).answer ∧
    (t.openSocket n).state.1 = (t.openSocket n.inner).state.1 ∧
    (t.openSocket n).state.2.inner = (t.openSocket n.inner).state.2 ∧
    (t.openSocket n).state.2.handed = n.handed := by
  simp only [openSocket, NetworkStack.openSocket]
  rcases NetworkStack.openSocket n.inner t.destination with ⟨e | u, net'⟩
  · exact ⟨rfl, rfl, rfl, rfl⟩
  · exact ⟨rfl, rfl, rfl, rfl⟩

/-! ### One transmission -/

theorem transmit_of_none {t : Transmitter} (net : ν) (a : ActuatorState) (h : t.socket = none) :
    t.transmit net a = ⟨.error (.transmitFailed "socket not open"), (t, net), []⟩ := by
  simp only [Transmitter.transmit, h]

/-- A state that the network sends. -/
theorem transmit_of_sent {t : Transmitter} {destination : SocketAddr} {net net' : ν}
    {a : ActuatorState} {k : ℕ} (h : t.socket = some destination)
    (hsend : NetworkStack.send net destination (t.nextMessage a).encode = (.ok k, net')) :
    t.transmit net a = ⟨.ok (t.nextMessage a),
      ({ t with seqnum := t.seqnum + 1, sent := t.sent + 1 }, net'),
      [.sent (t.nextMessage a)]⟩ := by
  simp only [nextMessage] at hsend ⊢
  simp only [Transmitter.transmit, h, hsend]

/-- A state that the network does not send. -/
theorem transmit_of_unsent {t : Transmitter} {destination : SocketAddr} {net net' : ν}
    {a : ActuatorState} {e : ExchangeError} (h : t.socket = some destination)
    (hsend : NetworkStack.send net destination (t.nextMessage a).encode = (.error e, net')) :
    t.transmit net a = ⟨.error (sendFailure (t.seqnum + 1) e),
      ({ t with seqnum := t.seqnum + 1, failed := t.failed + 1 }, net'), []⟩ := by
  simp only [nextMessage] at hsend
  simp only [Transmitter.transmit, h, hsend]

/-- With an open socket exactly one of the counters goes up, and nothing else but the number
changes. -/
theorem transmit_counts {t : Transmitter} {destination : SocketAddr} (net : ν)
    (a : ActuatorState) (h : t.socket = some destination) :
    (t.transmit net a).state.1.destination = t.destination ∧
    (t.transmit net a).state.1.sent + (t.transmit net a).state.1.failed =
      t.sent + t.failed + 1 := by
  rcases hsend : NetworkStack.send net destination (t.nextMessage a).encode with ⟨e | k, net'⟩
  · rw [transmit_of_unsent h hsend]
    exact ⟨rfl, rfl⟩
  · rw [transmit_of_sent h hsend]
    exact ⟨rfl, Nat.add_right_comm t.sent 1 t.failed⟩

/-! ### The tap -/

/-- A transmitter and its network without the tap. -/
def untapped (c : Transmitter × Tapped ν) : Transmitter × ν := (c.1, c.2.inner)

theorem perform_tapped (c : Transmitter × Tapped ν) (op : Operation) :
    (perform c op).1 = (perform (untapped c) op).1 ∧
    untapped (perform c op).2 = (perform (untapped c) op).2 := by
  cases op with
  | openSocket =>
    obtain ⟨hanswer, htransmitter, hnetwork, -⟩ := c.1.openSocket_tapped c.2
    exact ⟨congrArg Answer.opened hanswer, Prod.ext htransmitter hnetwork⟩
  | transmit a =>
    obtain ⟨hanswer, htransmitter, hnetwork, -⟩ := c.1.transmit_tapped c.2 a
    exact ⟨congrArg Answer.transmitted hanswer, Prod.ext htransmitter hnetwork⟩

/-- A tap changes nothing but what it writes down. -/
theorem use_tapped (ops : List Operation) : ∀ c : Transmitter × Tapped ν,
    (use c ops).1 = (use (untapped c) ops).1 ∧
    untapped (use c ops).2 = (use (untapped c) ops).2 := by
  induction ops with
  | nil => exact fun c => ⟨rfl, rfl⟩
  | cons op rest ih =>
    intro c
    obtain ⟨hanswer, hstate⟩ := perform_tapped c op
    obtain ⟨hanswers, hlater⟩ := ih (perform c op).2
    rw [hstate] at hanswers hlater
    simp only [use]
    exact ⟨by rw [hanswer, hanswers], hlater⟩

/-! ### Every use -/

/-- A transmitter that began behind the number `s` has handed over the states `done`, and has
given the answers `answers`. -/
structure Numbered (s : UInt32) (destination : SocketAddr) (answers : List Answer)
    (done : List ActuatorState) (t : Transmitter) (n : Tapped ν) : Prop where
  destination_eq : t.destination = destination
  socket_iff : t.socket.isSome = true ↔ Answer.opened (.ok ()) ∈ answers
  seqnum_eq : t.seqnum = seqnumAfter s done.length
  count_eq : t.sent + t.failed = done.length
  handed_eq : n.handed = encodings s done

namespace Numbered

variable {s : UInt32} {destination : SocketAddr} {answers : List Answer}
  {done : List ActuatorState} {t : Transmitter} {n : Tapped ν}

omit [NetworkStack ν] in
theorem create (s : UInt32) (destination : SocketAddr) (readyPoll : Duration) (net : ν) :
    Numbered s destination [] [] (Transmitter.create destination readyPoll s) ⟨net, []⟩ :=
  ⟨rfl, by simp [Transmitter.create], (seqnumAfter_zero s).symm, rfl, rfl⟩

theorem openSocket (h : Numbered s destination answers done t n) :
    Numbered s destination (answers ++ [.opened (t.openSocket n).answer]) done
      (t.openSocket n).state.1 (t.openSocket n).state.2 := by
  have hhanded := (t.openSocket_tapped n).2.2.2
  have hopened := t.openSocket_opened n
  generalize t.openSocket n = opened at hopened hhanded ⊢
  cases hopened with
  | ok => exact ⟨h.destination_eq, by simp, h.seqnum_eq, h.count_eq, hhanded.trans h.handed_eq⟩
  | failed =>
    refine ⟨h.destination_eq, ?_, h.seqnum_eq, h.count_eq, hhanded.trans h.handed_eq⟩
    simpa using h.socket_iff

/-- A transmission without a socket leaves everything as it was, and every other takes the next
number for its buffer. -/
theorem transmit (h : Numbered s destination answers done t n) (a : ActuatorState) :
    Numbered s destination (answers ++ [.transmitted (t.transmit n a).answer])
      (done ++ if t.socket.isSome then [a] else [])
      (t.transmit n a).state.1 (t.transmit n a).state.2 := by
  have hanswers : ∀ r : Except PipelineError Message,
      Answer.opened (.ok ()) ∈ answers ++ [.transmitted r] ↔ Answer.opened (.ok ()) ∈ answers := by
    simp
  rcases hsocket : t.socket with _ | d
  · rw [transmit_of_none n a hsocket, if_neg (by simp), List.append_nil]
    refine ⟨h.destination_eq, ?_, h.seqnum_eq, h.count_eq, h.handed_eq⟩
    rw [hanswers]
    exact h.socket_iff
  · have hsome : t.socket.isSome = true := by rw [hsocket]; rfl
    obtain ⟨hsocket', hseqnum, hhanded⟩ := transmit_numbered a hsome h.seqnum_eq h.handed_eq
    obtain ⟨hdestination, hcount⟩ := transmit_counts n a hsocket
    rw [if_pos (show (some d).isSome = true from rfl)]
    refine ⟨hdestination.trans h.destination_eq, ?_, hseqnum, ?_, hhanded⟩
    · rw [hanswers, hsocket', ← h.socket_iff, hsome]
    · rw [hcount, h.count_eq, List.length_append, List.length_singleton]

theorem perform (h : Numbered s destination answers done t n) (op : Operation) :
    ∃ more, Numbered s destination (answers ++ [(Transmitter.perform (t, n) op).1]) (done ++ more)
      (Transmitter.perform (t, n) op).2.1 (Transmitter.perform (t, n) op).2.2 := by
  cases op with
  | openSocket => exact ⟨[], by rw [List.append_nil]; exact h.openSocket⟩
  | transmit a => exact ⟨_, h.transmit a⟩

end Numbered

theorem use_numbered {s : UInt32} {destination : SocketAddr} (ops : List Operation) :
    ∀ {answers : List Answer} {done : List ActuatorState} {c : Transmitter × Tapped ν},
      Numbered s destination answers done c.1 c.2 →
      ∃ all, Numbered s destination (answers ++ (use c ops).1) all (use c ops).2.1
        (use c ops).2.2 := by
  induction ops with
  | nil => exact fun h => ⟨_, by rw [use, List.append_nil]; exact h⟩
  | cons op rest ih =>
    intro answers done c h
    obtain ⟨more, hnext⟩ := h.perform op
    obtain ⟨all, hall⟩ := ih hnext
    refine ⟨all, ?_⟩
    rw [List.append_assoc, List.singleton_append] at hall
    exact hall

/-! ### The numbers -/

/-- Within a whole round of numbers none comes back. -/
theorem seqnumAfter_ne (s : UInt32) {i j : ℕ} (hij : i < j) (hround : j < i + 2 ^ 32) :
    seqnumAfter s i ≠ seqnumAfter s j := by
  intro heq
  have hnat := congrArg UInt32.toNat heq
  simp only [seqnumAfter, UInt32.toNat_ofNat'] at hnat
  omega

omit [NetworkStack ν] in
/-- A buffer that has been handed over is a message with the number of its place. -/
theorem Numbered.decode_handed {s : UInt32} {destination : SocketAddr} {answers : List Answer}
    {done : List ActuatorState} {t : Transmitter} {n : Tapped ν}
    (h : Numbered s destination answers done t n) {i : ℕ} {buffer : List UInt8}
    (hbuffer : n.handed[i]? = some buffer) :
    ∃ m, Message.decode buffer = .ok m ∧ m.seqnum = seqnumAfter s (i + 1) := by
  rw [h.handed_eq, encodings, List.getElem?_mapIdx, Option.map_eq_some_iff] at hbuffer
  obtain ⟨a, -, rfl⟩ := hbuffer
  exact ⟨_, Message.decode_encode_actuatorState _ _, rfl⟩

/-- The numbers keep in step with the buffers, however the transmitter is used and whatever the
network answers. Before an opening has succeeded a transmission fails and changes nothing. An
opening succeeds or fails as the network says. One that fails leaves the socket and the counters
as they are, and one that succeeds resets no counter. Every other transmission hands one buffer of
eleven bytes to the network, which is the message of the next number with the given state, and
counts it as sent or as failed as the network says. So the number is that of all buffers handed
over, and within a whole round of numbers no two buffers have the same. -/
theorem numbers_in_step (net : ν) (destination : SocketAddr) (readyPoll : Duration) (s : UInt32)
    (ops : List Operation) :
    let start := create destination readyPoll s
    let used := use (start, (⟨net, []⟩ : Tapped ν)) ops
    let t := used.2.1
    let n := used.2.2
    (used.1 = (use (start, net) ops).1 ∧ (t, n.inner) = (use (start, net) ops).2) ∧
    (t.socket = none ↔ Answer.opened (.ok ()) ∉ used.1) ∧
    (t.socket = none → ∀ a,
      t.transmit n a = ⟨.error (.transmitFailed "socket not open"), (t, n), []⟩) ∧
    ((t.openSocket n).answer = (NetworkStack.openSocket n.inner destination).1.mapError
        (.context ("open telemetry socket to " ++ destination.text)) ∧
      (t.openSocket n).state.2 =
        ⟨(NetworkStack.openSocket n.inner destination).2, n.handed⟩) ∧
    (∀ e, (t.openSocket n).answer = .error e →
      (t.openSocket n).state.1 = t ∧ (t.openSocket n).state.2.handed = n.handed) ∧
    ((t.openSocket n).answer = .ok () →
      (t.openSocket n).state.1 = { t with socket := some destination } ∧
      (t.openSocket n).state.2.handed = n.handed) ∧
    (∀ d, t.socket = some d → ∀ a,
      let message := Message.actuatorState (t.seqnum + 1) a
      let sent := NetworkStack.send n.inner d message.encode
      message.encode.length = 11 ∧ Message.decode message.encode = .ok message ∧
      message.state = a ∧
      (t.transmit n a).state.2 = ⟨sent.2, n.handed ++ [message.encode]⟩ ∧
      (∀ k, sent.1 = .ok k → (t.transmit n a).answer = .ok message ∧
        (t.transmit n a).state.1 = { t with seqnum := t.seqnum + 1, sent := t.sent + 1 }) ∧
      (∀ e, sent.1 = .error e → (t.transmit n a).answer = .error (sendFailure (t.seqnum + 1) e) ∧
        (t.transmit n a).state.1 = { t with seqnum := t.seqnum + 1, failed := t.failed + 1 })) ∧
    t.seqnum.toNat = (s.toNat + t.sent + t.failed) % 2 ^ 32 ∧
    n.handed.length = t.sent + t.failed ∧
    (∀ i j b b', i < j → j < i + 2 ^ 32 → n.handed[i]? = some b → n.handed[j]? = some b' →
      ∃ m m', Message.decode b = .ok m ∧ Message.decode b' = .ok m' ∧ m.seqnum ≠ m'.seqnum) := by
  intro start used t n
  obtain ⟨done, h⟩ : ∃ done, Numbered s destination ([] ++ used.1) done t n :=
    use_numbered ops (c := (start, ⟨net, []⟩)) (Numbered.create s destination readyPoll net)
  obtain ⟨hanswers, hstate⟩ := use_tapped ops (start, (⟨net, []⟩ : Tapped ν))
  have hhanded := (t.openSocket_tapped n).2.2.2
  have hasked := t.openSocket_asked n
  obtain ⟨hfails, hopens⟩ := t.openSocket_leaves n
  rw [h.destination_eq] at hasked
  refine ⟨⟨hanswers, hstate⟩, ?_, fun hnone a => transmit_of_none n a hnone, hasked,
    fun e he => ⟨hfails e he, hhanded⟩, fun hok => ⟨?_, hhanded⟩, ?_, ?_, ?_, ?_⟩
  · rw [← List.nil_append used.1, ← h.socket_iff, Option.isSome_iff_ne_none, not_not]
  · rw [hopens hok, h.destination_eq]
  · intro d hsocket a message sent
    refine ⟨message.length_encode, Message.decode_encode_actuatorState _ a, rfl,
      (transmit_of_socket n a hsocket).2.2, fun k hk => ?_, fun e he => ?_⟩
    · have hsend : NetworkStack.send n d (t.nextMessage a).encode =
          (.ok k, ⟨sent.2, n.handed ++ [message.encode]⟩) := Prod.ext hk rfl
      rw [transmit_of_sent hsocket hsend]
      exact ⟨rfl, rfl⟩
    · have hsend : NetworkStack.send n d (t.nextMessage a).encode =
          (.error e, ⟨sent.2, n.handed ++ [message.encode]⟩) := Prod.ext he rfl
      rw [transmit_of_unsent hsocket hsend]
      exact ⟨rfl, rfl⟩
  · rw [h.seqnum_eq, ← h.count_eq, seqnumAfter, UInt32.toNat_ofNat', Nat.mod_mod, Nat.add_assoc]
  · rw [h.handed_eq, h.count_eq, encodings, List.length_mapIdx]
  · intro i j b b' hij hround hb hb'
    obtain ⟨m, hm, hseqnum⟩ := h.decode_handed hb
    obtain ⟨m', hm', hseqnum'⟩ := h.decode_handed hb'
    refine ⟨m, m', hm, hm', ?_⟩
    rw [hseqnum, hseqnum']
    exact seqnumAfter_ne s (Nat.succ_lt_succ hij) (by omega)

/-- A network on which the first opening fails, of two buffers the second is not sent, and the
other openings succeed. -/
def shaky : Dialogue :=
  ⟨.v4 0 0 0 0, [.error (.stated "down"), .ok 0, .ok 11, .error (.stated "full"), .ok 0], none⟩

/-- Behind the largest number, on that network: two transmissions come too early, the numbers of
the other two are zero and one, and one more opening resets nothing. -/
theorem numbers_in_step_shaky :
    let start := create ⟨.v4 10 0 0 1, 9889⟩ 0 0xFFFFFFFF
    let early := (use (start, (⟨shaky, []⟩ : Tapped Dialogue)) [.transmit ⟨1, -1⟩]).2
    let late := (use (start, (⟨shaky, []⟩ : Tapped Dialogue))
      [.transmit ⟨1, -1⟩, .openSocket, .transmit ⟨2, -2⟩, .openSocket, .transmit ⟨3, -3⟩,
        .transmit ⟨4, -4⟩]).2
    (early.1.openSocket early.2).state.1 = early.1 ∧
    (early.1.transmit early.2 ⟨2, -2⟩).state = early ∧
    (late.1.openSocket late.2).state.1.failed = 1 ∧
    late.1.seqnum.toNat = 1 ∧ late.1.sent = 1 ∧ late.1.failed = 1 ∧
    (late.1.transmit late.2 ⟨5, -5⟩).state.2.handed.length = 3 ∧
    ∃ b b' m m', late.2.handed = [b, b'] ∧ Message.decode b = .ok m ∧
      Message.decode b' = .ok m' ∧ m.seqnum ≠ m'.seqnum := by
  intro start early late
  obtain ⟨-, -, hunopened, -, hfailing, -⟩ :=
    numbers_in_step shaky ⟨.v4 10 0 0 1, 9889⟩ 0 0xFFFFFFFF [.transmit ⟨1, -1⟩]
  obtain ⟨-, -, -, -, -, hreopened, htransmit, hseqnum, -, hround⟩ :=
    numbers_in_step shaky ⟨.v4 10 0 0 1, 9889⟩ 0 0xFFFFFFFF
      [.transmit ⟨1, -1⟩, .openSocket, .transmit ⟨2, -2⟩, .openSocket, .transmit ⟨3, -3⟩,
        .transmit ⟨4, -4⟩]
  obtain ⟨-, -, -, hnext, -, -⟩ := htransmit _ rfl ⟨5, -5⟩
  obtain ⟨m, m', hm, hm', hne⟩ := hround 0 1 _ _ (by decide) (by decide) rfl rfl
  exact ⟨(hfailing _ rfl).1, by rw [hunopened rfl], by rw [(hreopened rfl).1]; rfl, hseqnum, rfl,
    rfl, by rw [hnext]; rfl, _, _, m, m', rfl, hm, hm', hne⟩

end Transmitter

end Telemetry
