/-
A listener among datagrams that are no messages.

Only the bytes that fit the buffer are looked at, and the buffer has one byte more than a
message has. So a datagram that is too long never looks like a message, and whatever is rejected
leaves no trace in what the listener makes of the messages around it.

* `Listener.accepted?` — the message of an arrival, by its whole datagram;
* `Listener.decode_take` — the bytes looked at decide like the whole datagram;
* `Listener.Judges`, `Listener.receive_judges` — what the event of one datagram says of it;
* `Listener.listen_cons` — listening is heeding one arrival after the other;
* `Listener.undisturbed` — events, messages, gaps and the end of listening, whatever is rejected
  or times out in between.
-/
import Telemetry.Proofs.Wire.Format
import Telemetry.Wire.Listener

namespace Telemetry

namespace Listener

/-- A datagram with its sender, or a timeout. -/
abbrev Arrival := Option (SocketAddr × List UInt8)

/-- The message of an arrival, if decoding accepts its whole datagram. -/
def accepted? (a : Arrival) : Option Message := a.bind fun x => (Message.decode x.2).toOption

/-- Whether an arrival is a message. -/
def isAccepted (a : Arrival) : Bool := (accepted? a).isSome

/-- The message of an event with the gap before it. -/
def Event.reception? : Event → Option (Message × UInt32)
  | .message _ m gap => some (m, gap)
  | .malformed .. => none

/-- What listening has taken in: the messages with their gaps, and the tracker. -/
def intake (heard : Step Tracker (List Event × List Arrival)) : List (Message × UInt32) × Tracker :=
  (heard.answer.1.filterMap Event.reception?, heard.state)

/-- An event is a message exactly if the whole of its datagram is one, and otherwise says why the
first twelve bytes are none. -/
structure Judges (x : SocketAddr × List UInt8) (e : Event) : Prop where
  message : ∀ m, (∃ gap, e = .message x.1 m gap) ↔ Message.decode x.2 = .ok m
  malformed : ∀ reason, e = .malformed x.1 reason ↔
    (∀ m, Message.decode x.2 ≠ .ok m) ∧ Message.decode (x.2.take 12) = .error reason

/-! ### One datagram -/

/-- A datagram that is cut off is too long before and after that. -/
theorem decode_take (datagram : List UInt8) (m : Message) :
    Message.decode (datagram.take 12) = .ok m ↔ Message.decode datagram = .ok m := by
  by_cases hlong : 12 < datagram.length
  · have hcut : (datagram.take 12).length ≠ Message.size := by
      rw [List.length_take, Nat.min_eq_left hlong.le]
      decide
    have hwhole : datagram.length ≠ Message.size := by
      show datagram.length ≠ 11
      omega
    rw [Message.decode_of_length_ne hcut, Message.decode_of_length_ne hwhole]
    simp
  · rw [List.take_of_length_le (Nat.le_of_not_lt hlong)]

/-- Everything that a datagram can lead to. -/
inductive Received (t : Tracker) (sender : SocketAddr) (datagram : List UInt8) :
    Step Tracker Event → Prop
  | message {m : Message} {notices : List Notice} (h : Message.decode datagram = .ok m) :
      Received t sender datagram
        ⟨.message sender m (t.observe m.seqnum).1, (t.observe m.seqnum).2, notices⟩
  | malformed {reason : Malformed} (hwhole : ∀ m, Message.decode datagram ≠ .ok m)
      (hcut : Message.decode (datagram.take 12) = .error reason) :
      Received t sender datagram
        ⟨.malformed sender reason, t, [.malformedDatagram sender reason]⟩

theorem receive_received (t : Tracker) (sender : SocketAddr) (datagram : List UInt8) :
    Received t sender datagram (receive t sender datagram) := by
  rw [receive, show window datagram = datagram.take 12 from rfl]
  rcases hcut : Message.decode (datagram.take 12) with reason | m
  · refine .malformed (fun m hwhole => ?_) hcut
    rw [(decode_take datagram m).mpr hwhole] at hcut
    cases hcut
  · exact .message ((decode_take datagram m).mp hcut)

theorem receive_judges (t : Tracker) (x : SocketAddr × List UInt8) :
    Judges x (receive t x.1 x.2).answer := by
  have hreceived := receive_received t x.1 x.2
  generalize receive t x.1 x.2 = received at hreceived ⊢
  cases hreceived with
  | @message m _ h =>
    refine ⟨fun m' => ?_, fun reason => ?_⟩
    · simp [h]
    · simp [h]
  | malformed hwhole hcut =>
    refine ⟨fun m => ?_, fun reason => ?_⟩
    · simp [hwhole]
    · simp [hwhole, hcut]

/-! ### One arrival after the other -/

/-- The events of an arrival, at most one, and the tracker after it. -/
def heed (t : Tracker) : Arrival → List Event × Tracker
  | none => ([], t)
  | some (sender, datagram) =>
    ([(receive t sender datagram).answer], (receive t sender datagram).state)

theorem receive_isMessage (t : Tracker) (sender : SocketAddr) (datagram : List UInt8) :
    (receive t sender datagram).answer.isMessage = isAccepted (some (sender, datagram)) := by
  have hreceived := receive_received t sender datagram
  generalize receive t sender datagram = received at hreceived ⊢
  rw [isAccepted, accepted?, Option.bind_some]
  cases hreceived with
  | message h =>
    rw [h]
    rfl
  | malformed hwhole =>
    rcases hdecode : Message.decode datagram with e | m
    · rfl
    · exact absurd hdecode (hwhole m)

/-- An arrival that is no message makes none, and leaves no trace in the tracker. -/
theorem heed_of_rejected (t : Tracker) {a : Arrival} (h : isAccepted a = false) :
    (heed t a).1.filterMap Event.reception? = [] ∧ (heed t a).2 = t := by
  rcases a with _ | ⟨sender, datagram⟩
  · exact ⟨rfl, rfl⟩
  · rw [← receive_isMessage t] at h
    rw [heed]
    have hreceived := receive_received t sender datagram
    generalize receive t sender datagram = received at hreceived h ⊢
    cases hreceived with
    | message => cases h
    | malformed => exact ⟨rfl, rfl⟩

/-- Listening that is not at its end heeds the next arrival, and goes on with one message less to
come if it was one. -/
theorem listen_cons (count : Option ℕ) (hcount : count ≠ some 0) (a : Arrival)
    (rest : List Arrival) (t : Tracker) :
    let later := listen (if isAccepted a then count.map (· - 1) else count) rest (heed t a).2
    (listen count (a :: rest) t).answer = ((heed t a).1 ++ later.answer.1, later.answer.2) ∧
    (listen count (a :: rest) t).state = later.state := by
  rcases a with _ | ⟨sender, datagram⟩
  · rw [listen, if_neg hcount]
    exact ⟨rfl, rfl⟩
  · rw [listen, if_neg hcount]
    simp only [receive_isMessage]
    exact ⟨rfl, rfl⟩

theorem listen_zero (arrivals : List Arrival) (t : Tracker) :
    listen (some 0) arrivals t = ⟨([], arrivals), t, []⟩ := by
  cases arrivals with
  | nil => rfl
  | cons a rest => cases a <;> rw [listen, if_pos rfl]

/-! ### All arrivals -/

theorem listen_judges (arrivals : List Arrival) : ∀ t : Tracker,
    List.Forall₂ Judges (arrivals.filterMap id) (listen none arrivals t).answer.1 := by
  induction arrivals with
  | nil => exact fun _ => .nil
  | cons a rest ih =>
    intro t
    obtain ⟨hanswer, -⟩ := listen_cons none (by simp) a rest t
    simp only [Option.map_none, ite_self] at hanswer
    rw [hanswer]
    rcases a with _ | x
    · exact ih t
    · exact .cons (receive_judges t x) (ih _)

/-- What is taken in from some arrivals is what is taken in from the messages among them. -/
theorem intake_filter (arrivals : List Arrival) : ∀ (count : Option ℕ) (t : Tracker),
    intake (listen count arrivals t) = intake (listen count (arrivals.filter isAccepted) t) := by
  induction arrivals with
  | nil => exact fun _ _ => rfl
  | cons a rest ih =>
    intro count t
    by_cases hcount : count = some 0
    · rw [hcount, listen_zero, listen_zero]
      rfl
    · obtain ⟨hanswer, hstate⟩ := listen_cons count hcount a rest t
      rcases haccepted : isAccepted a with _ | _
      · -- the arrival is deleted from the other side
        rw [List.filter_cons_of_neg (by rw [haccepted]; exact Bool.false_ne_true), ← ih]
        obtain ⟨hevents, htracker⟩ := heed_of_rejected t haccepted
        simp only [haccepted, htracker, Bool.false_eq_true, if_false] at hanswer hstate
        rw [intake, hanswer, hstate, List.filterMap_append, hevents, List.nil_append]
        rfl
      · rw [List.filter_cons_of_pos haccepted]
        obtain ⟨hanswer', hstate'⟩ := listen_cons count hcount a (rest.filter isAccepted) t
        have hlater := ih (count.map (· - 1)) (heed t a).2
        simp only [haccepted, if_true] at hanswer hstate hanswer' hstate'
        rw [intake, intake, Prod.mk.injEq] at hlater ⊢
        rw [hanswer, hstate, hanswer', hstate', List.filterMap_append, List.filterMap_append,
          hlater.1]
        exact ⟨rfl, hlater.2⟩

/-- Listening for as many messages as there are before an arrival and one more ends right behind
it, if it is a message. -/
theorem listen_stops (last : Arrival) (after before : List Arrival) : ∀ t : Tracker,
    isAccepted last = true →
    let stopped := listen (some (before.countP isAccepted + 1)) (before ++ last :: after) t
    let heard := listen none (before ++ [last]) t
    stopped.answer = (heard.answer.1, after) ∧ stopped.state = heard.state := by
  induction before with
  | nil =>
    intro t hlast
    obtain ⟨hanswer, hstate⟩ := listen_cons (some 1) (by simp) last after t
    obtain ⟨hanswer', hstate'⟩ := listen_cons none (by simp) last [] t
    simp only [hlast, if_true, Option.map_some, Nat.sub_self, listen_zero] at hanswer hstate
    simp only [hlast, if_true, Option.map_none] at hanswer' hstate'
    simp only [List.countP_nil, Nat.zero_add, List.nil_append]
    rw [hanswer, hstate, hanswer', hstate']
    exact ⟨rfl, rfl⟩
  | cons a rest ih =>
    intro t hlast
    obtain ⟨hanswer, hstate⟩ := listen_cons
      (some ((a :: rest).countP isAccepted + 1)) (by simp) a (rest ++ last :: after) t
    obtain ⟨hanswer', hstate'⟩ := listen_cons none (by simp) a (rest ++ [last]) t
    -- the count of messages to come goes down with the messages before
    have hcount : (if isAccepted a then
        (some ((a :: rest).countP isAccepted + 1)).map (· - 1)
        else some ((a :: rest).countP isAccepted + 1)) =
        some (rest.countP isAccepted + 1) := by
      rw [List.countP_cons]
      split <;> rfl
    rw [hcount] at hanswer hstate
    simp only [Option.map_none, ite_self] at hanswer' hstate'
    obtain ⟨hrest, hrestState⟩ := ih (heed t a).2 hlast
    simp only [List.cons_append]
    rw [hanswer, hstate, hanswer', hstate', hrest, hrestState]
    exact ⟨rfl, rfl⟩

/-- Listening for more messages than arrive takes in everything. -/
theorem listen_goes_on (arrivals : List Arrival) : ∀ (n : ℕ) (t : Tracker),
    arrivals.countP isAccepted < n →
    (listen (some n) arrivals t).answer = ((listen none arrivals t).answer.1, []) ∧
    (listen (some n) arrivals t).state = (listen none arrivals t).state := by
  induction arrivals with
  | nil => exact fun _ _ _ => ⟨rfl, rfl⟩
  | cons a rest ih =>
    intro n t hfew
    obtain ⟨n, rfl⟩ : ∃ k, n = k + 1 := Nat.exists_eq_add_one.mpr (by omega)
    obtain ⟨hanswer, hstate⟩ := listen_cons (some (n + 1)) (by simp) a rest t
    obtain ⟨hanswer', hstate'⟩ := listen_cons none (by simp) a rest t
    simp only [Option.map_none, ite_self] at hanswer' hstate'
    rw [hanswer, hstate, hanswer', hstate']
    rw [List.countP_cons] at hfew
    rcases haccepted : isAccepted a with _ | _
    · rw [haccepted] at hfew
      obtain ⟨hrest, hrestState⟩ := ih (n + 1) (heed t a).2 (by simpa using hfew)
      simp only [Bool.false_eq_true, if_false, hrest, hrestState, true_and]
    · rw [haccepted] at hfew
      obtain ⟨hrest, hrestState⟩ := ih n (heed t a).2 (by simpa using hfew)
      simp only [if_true, Option.map_some, Nat.add_sub_cancel, hrest, hrestState, true_and]

/-- **Undisturbed.** Whatever arrives, each datagram has one event, and this is a message exactly
if the whole datagram is one. The messages with their gaps and the tracker are those of the
arrivals from which everything rejected and every timeout has been deleted. Listening for no
message ends at once, listening for some ends right behind the last of them, and as long as it
has not had enough it goes on. -/
theorem undisturbed (arrivals : List Arrival) (t : Tracker) :
    List.Forall₂ Judges (arrivals.filterMap id) (listen none arrivals t).answer.1 ∧
    (∀ count, intake (listen count arrivals t) =
      intake (listen count (arrivals.filter isAccepted) t)) ∧
    listen (some 0) arrivals t = ⟨([], arrivals), t, []⟩ ∧
    (∀ before last after, arrivals = before ++ last :: after → isAccepted last = true →
      let stopped := listen (some (before.countP isAccepted + 1)) arrivals t
      let heard := listen none (before ++ [last]) t
      stopped.answer = (heard.answer.1, after) ∧ stopped.state = heard.state) ∧
    ∀ n, arrivals.countP isAccepted < n →
      (listen (some n) arrivals t).answer = ((listen none arrivals t).answer.1, []) ∧
      (listen (some n) arrivals t).state = (listen none arrivals t).state := by
  refine ⟨listen_judges arrivals t, fun count => intake_filter arrivals count t,
    listen_zero arrivals t, ?_, fun n => listen_goes_on arrivals n t⟩
  rintro before last after rfl hlast
  exact listen_stops last after before t hlast

/-- Two messages, and between them a datagram that begins like a message but is one byte too long,
and a timeout. -/
def crowded : List Arrival :=
  let message := fun n => (Message.actuatorState n ⟨1, -1⟩).encode
  [some (⟨.loopback, 9000⟩, message 1), some (⟨.loopback, 9000⟩, message 2 ++ [0]), none,
    some (⟨.loopback, 9000⟩, message 3), none]

/-- Listening for two messages ends behind the second, before which one is missing. -/
theorem undisturbed_crowded :
    (listen (some 2) crowded {}).answer.2 = [none] ∧
    intake (listen (some 2) crowded {}) =
      ([(Message.actuatorState 1 ⟨1, -1⟩, 0), (Message.actuatorState 3 ⟨1, -1⟩, 1)],
        ⟨some 3, 1⟩) := by
  obtain ⟨-, hintake, -, hstops, -⟩ := undisturbed crowded {}
  have hcount : (crowded.take 3).countP isAccepted = 1 := by decide
  obtain ⟨hanswer, -⟩ := hstops (crowded.take 3)
    (some (⟨.loopback, 9000⟩, (Message.actuatorState 3 ⟨1, -1⟩).encode)) [none] rfl (by decide)
  rw [hcount] at hanswer
  refine ⟨congrArg Prod.snd hanswer, (hintake (some 2)).trans ?_⟩
  decide

end Listener

end Telemetry
