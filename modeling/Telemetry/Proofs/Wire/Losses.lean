/-
A listener counts what was lost.

The sender numbers its attempts, and the listener looks at the numbers of what arrives. The
two counters are kept apart and wrap at the same point, so their differences agree as long
as fewer than half of all numbers are lost in a row:

* `Tracker.gap_seqnumAfter` — the gap between two numbers is the count of the attempts between;
* `Listener.hear_behind` — the gaps and the total behind a first arrival;
* `Listener.gaps_count_losses` — the gap before each arrival is the number of attempts lost
  since the arrival before it, and the total is that of all attempts lost in between.
-/
import Mathlib.Data.List.Chain
import Telemetry.Proofs.Stage.Transmission
import Telemetry.Wire.Listener

namespace Telemetry

/-- Numbers less than half the range apart differ by the attempts between them, wherever the
first number lies. -/
theorem seqnumAfter_sub (s : UInt32) {a b : ℕ} (hab : a ≤ b) (hnear : b - a < 2 ^ 32) :
    (seqnumAfter s b - seqnumAfter s a).toNat = b - a := by
  rw [UInt32.toNat_sub]
  simp only [seqnumAfter, UInt32.toNat_ofNat']
  omega

/-- The gap between the numbers of two attempts is the count of the attempts between them. -/
theorem Tracker.gap_seqnumAfter (s : UInt32) {a b : ℕ} (hab : a < b)
    (hnear : b - a ≤ 2 ^ 31 - 1) :
    (Tracker.gap (seqnumAfter s a) (seqnumAfter s b)).toNat = b - a - 1 := by
  have hstep := seqnumAfter_sub s hab.le (by omega)
  simp only [Tracker.gap]
  generalize seqnumAfter s b - seqnumAfter s a = step at hstep ⊢
  have hforward : ¬(step = 0 ∨ step > 0x7FFFFFFF) := by
    rw [gt_iff_lt, UInt32.lt_iff_toNat_lt, ← UInt32.toNat_inj, hstep]
    simp only [UInt32.reduceToNat]
    omega
  rw [if_neg hforward, UInt32.toNat_sub, hstep]
  simp only [UInt32.reduceToNat]
  omega

/-! ### The attempts that arrive -/

/-- The datagram of a state and the number of its attempt behind `s`. -/
def numberedDatagram (s : UInt32) (x : ActuatorState × ℕ) : List UInt8 × ℕ :=
  ((Message.actuatorState (seqnumAfter s x.2) x.1).encode, x.2)

theorem encodings_zipIdx (s : UInt32) (states : List ActuatorState) :
    (encodings s states).zipIdx 1 = (states.zipIdx 1).map (numberedDatagram s) := by
  refine List.ext_getElem? fun k => ?_
  rw [List.getElem?_zipIdx, encodings, List.getElem?_mapIdx, List.getElem?_map,
    List.getElem?_zipIdx, Option.map_map, Option.map_map]
  refine congrArg (Option.map · states[k]?) (funext fun a => ?_)
  simp only [Function.comp_apply, numberedDatagram, Nat.add_comm 1 k]

/-- Two arrivals follow each other, and less than half of all numbers is lost between them. -/
def Near (d d' : ℕ) : Prop := d < d' ∧ d' - d ≤ 2 ^ 31 - 1

theorem isChain_near {states : List ActuatorState} {numbered : List (ActuatorState × ℕ)}
    (h : numbered.Sublist (states.zipIdx 1))
    (hlosses : numbered.IsChain fun x y => y.2 - x.2 - 1 ≤ 2 ^ 31 - 2) :
    (numbered.map (·.2)).IsChain Near := by
  have hnumbers : (numbered.map (·.2)).Sublist (List.range' 1 states.length) := by
    rw [← List.zipIdx_map_snd]
    exact h.map _
  have hincreasing := List.pairwise_map.mp
    (List.Pairwise.sublist hnumbers (List.pairwise_lt_range' 1))
  rw [List.isChain_map, List.isChain_iff_getElem]
  intro i hi
  have hlt := List.pairwise_iff_getElem.mp hincreasing i (i + 1) (by omega) hi i.lt_succ_self
  have hlost := List.isChain_iff_getElem.mp hlosses i hi
  exact ⟨hlt, by omega⟩

namespace Listener

/-- The arrival of a datagram from `sender`. -/
def arrival (sender : SocketAddr) (x : List UInt8 × ℕ) : Option (SocketAddr × List UInt8) :=
  some (sender, x.1)

/-- Listening to the datagrams of some attempts. -/
def hear (s : UInt32) (sender : SocketAddr) (numbered : List (ActuatorState × ℕ)) (t : Tracker) :
    Step Tracker (List Event × List (Option (SocketAddr × List UInt8))) :=
  listen none ((numbered.map (numberedDatagram s)).map (arrival sender)) t

theorem hear_cons (s : UInt32) (sender : SocketAddr) (a : ActuatorState) (d : ℕ)
    (rest : List (ActuatorState × ℕ)) (t : Tracker) :
    (hear s sender ((a, d) :: rest) t).answer.1 =
      .message sender (Message.actuatorState (seqnumAfter s d) a)
        (t.observe (seqnumAfter s d)).1 ::
      (hear s sender rest (t.observe (seqnumAfter s d)).2).answer.1 ∧
    (hear s sender ((a, d) :: rest) t).state =
      (hear s sender rest (t.observe (seqnumAfter s d)).2).state := by
  have hreceive : receive t sender (numberedDatagram s (a, d)).1 =
      ⟨.message sender (Message.actuatorState (seqnumAfter s d) a)
          (t.observe (seqnumAfter s d)).1,
        (t.observe (seqnumAfter s d)).2,
        if (t.observe (seqnumAfter s d)).1 = 0 then []
        else [.sequenceGap (t.observe (seqnumAfter s d)).1 (seqnumAfter s d)]⟩ := by
    rw [receive, show window (numberedDatagram s (a, d)).1 = (numberedDatagram s (a, d)).1 from rfl,
      numberedDatagram, Message.decode_encode_actuatorState]
    rfl
  rw [hear, List.map_cons, List.map_cons, arrival, listen, if_neg (by simp)]
  simp only [hreceive]
  exact ⟨rfl, rfl⟩

/-- Behind an arrival with the number `d₀`, every gap counts the attempts lost since the
arrival before, and the tracker counts them all. -/
theorem hear_behind (s : UInt32) (sender : SocketAddr) (numbered : List (ActuatorState × ℕ)) :
    ∀ d₀ missing : ℕ, (d₀ :: numbered.map (·.2)).IsChain Near →
    (hear s sender numbered ⟨some (seqnumAfter s d₀), missing⟩).answer.1.length =
      numbered.length ∧
    (∀ (j : ℕ) (a : ActuatorState) (d : ℕ), numbered[j]? = some (a, d) →
      ∃ (gap : UInt32) (before : ℕ),
        (hear s sender numbered ⟨some (seqnumAfter s d₀), missing⟩).answer.1[j]? =
          some (.message sender (Message.actuatorState (seqnumAfter s d) a) gap) ∧
        (d₀ :: numbered.map (·.2))[j]? = some before ∧ gap.toNat = d - before - 1) ∧
    (hear s sender numbered ⟨some (seqnumAfter s d₀), missing⟩).state.missing +
        numbered.length + d₀ =
      missing + (d₀ :: numbered.map (·.2)).getLast (List.cons_ne_nil _ _) := by
  -- each arrival takes the place of the one before it, and adds its gap to the total
  induction numbered with
  | nil => exact fun d₀ missing _ => ⟨rfl, fun _ _ _ h => absurd h (by simp), rfl⟩
  | cons x rest ih =>
    intro d₀ missing hchain
    obtain ⟨a, d⟩ := x
    obtain ⟨⟨hlt, hnear⟩, hrest⟩ := List.isChain_cons_cons.mp hchain
    have hgap := Tracker.gap_seqnumAfter s hlt hnear
    obtain ⟨hlength, hevents, hmissing⟩ := ih d (missing + (d - d₀ - 1)) hrest
    obtain ⟨hanswer, hstate⟩ :=
      hear_cons s sender a d rest ⟨some (seqnumAfter s d₀), missing⟩
    simp only [Tracker.observe, hgap] at hanswer hstate
    rw [hanswer, hstate]
    refine ⟨by rw [List.length_cons, List.length_cons, hlength], ?_, ?_⟩
    · intro j a' d' hj
      rcases j with _ | j
      · obtain ⟨rfl, rfl⟩ : a = a' ∧ d = d' := by simpa using hj
        exact ⟨_, d₀, rfl, rfl, hgap⟩
      · exact hevents j a' d' hj
    · have hlast : (d₀ :: ((a, d) :: rest).map (·.2)).getLast (List.cons_ne_nil _ _) =
          (d :: rest.map (·.2)).getLast (List.cons_ne_nil _ _) :=
        List.getLast_cons (List.cons_ne_nil _ _)
      have hlt : d₀ < d := hlt
      rw [hlast, List.length_cons]
      omega

variable {ν : Type} [NetworkStack ν]

/-- **Gaps count losses.** Some states are transmitted, from any number on and over any
network, and some of the attempts arrive at a new listener in order, less than half of all
numbers being lost in a row. Then each datagram is decoded to its number and state, the gap
reported with it is the number of attempts lost since the arrival before, and the total is
the number of attempts lost between the first and the last arrival. -/
theorem gaps_count_losses (t : Transmitter) (net : ν) (states : List ActuatorState)
    (sender : SocketAddr) (arrived : List (List UInt8 × ℕ)) (hsocket : t.socket.isSome = true)
    (harrived : arrived.Sublist ((t.attempts net states).zipIdx 1)) (hsome : arrived ≠ [])
    (hlosses : arrived.IsChain fun x y => y.2 - x.2 - 1 ≤ 2 ^ 31 - 2) :
    let heard := listen none (arrived.map (arrival sender)) {}
    heard.answer.1.length = arrived.length ∧
    (∀ (j : ℕ) (bytes : List UInt8) (d : ℕ), arrived[j]? = some (bytes, d) →
      ∃ (a : ActuatorState) (gap : UInt32), states[d - 1]? = some a ∧
        Message.decode bytes = .ok (Message.actuatorState (seqnumAfter t.seqnum d) a) ∧
        heard.answer.1[j]? =
          some (.message sender (Message.actuatorState (seqnumAfter t.seqnum d) a) gap) ∧
        (j = 0 → gap = 0) ∧
        ∀ i before, j = i + 1 → arrived[i]? = some before → gap.toNat = d - before.2 - 1) ∧
    heard.state.missing + arrived.length =
      (arrived.getLast hsome).2 - (arrived.head hsome).2 + 1 := by
  rw [Transmitter.attempts_eq net states hsocket, encodings_zipIdx] at harrived
  obtain ⟨numbered, hnumbered, rfl⟩ := List.sublist_map_iff.mp harrived
  have hnear := isChain_near hnumbered ((List.isChain_map _).mp hlosses)
  rcases numbered with _ | ⟨⟨a₁, d₁⟩, rest⟩
  · exact absurd rfl hsome
  -- the first arrival sets the tracker, and those behind it are counted from there
  obtain ⟨hlength, hevents, hmissing⟩ := hear_behind t.seqnum sender rest d₁ 0 hnear
  obtain ⟨hanswer, hstate⟩ := hear_cons t.seqnum sender a₁ d₁ rest {}
  intro heard
  have hfirst : heard = hear t.seqnum sender ((a₁, d₁) :: rest) {} := rfl
  rw [hfirst, hanswer, hstate]
  refine ⟨?_, ?_, ?_⟩
  · rw [List.length_map, List.length_cons, List.length_cons]
    exact congrArg (· + 1) hlength
  · intro j bytes d hj
    rw [List.getElem?_map, Option.map_eq_some_iff] at hj
    obtain ⟨⟨a, d'⟩, hget, hx⟩ := hj
    obtain ⟨rfl, rfl⟩ : _ = bytes ∧ d' = d := Prod.mk.inj hx
    have hstates : states[d' - 1]? = some a :=
      (List.mk_mem_zipIdx_iff_le_and_getElem?_sub.mp
        (hnumbered.subset (List.mem_of_getElem? hget))).2
    have hdecode := Message.decode_encode_actuatorState (seqnumAfter t.seqnum d') a
    rcases j with _ | j
    · obtain ⟨rfl, rfl⟩ : a₁ = a ∧ d₁ = d' := by simpa using hget
      exact ⟨a₁, 0, hstates, hdecode, rfl, fun _ => rfl, fun _ _ h => absurd h (by simp)⟩
    · obtain ⟨gap, before, hevent, hbefore, hgap⟩ := hevents j a d' hget
      refine ⟨a, gap, hstates, hdecode, hevent, fun h => absurd h (by simp), ?_⟩
      intro i previous hi hprevious
      obtain rfl : j = i := Nat.succ.inj hi
      have hnumber : previous.2 = before := by
        have hmap := congrArg (Option.map (·.2)) hprevious
        rw [← List.getElem?_map, List.map_map] at hmap
        exact Option.some_inj.mp (hmap.symm.trans hbefore)
      rw [hgap, hnumber]
  · have hlast : ((((a₁, d₁) :: rest).map (numberedDatagram t.seqnum)).getLast hsome).2 =
        (d₁ :: rest.map (·.2)).getLast (List.cons_ne_nil _ _) := by
      rw [List.getLast_map]
      exact (List.getLast_map (f := fun x : ActuatorState × ℕ => x.2)
        (l := (a₁, d₁) :: rest) (List.cons_ne_nil _ _)).symm
    have htotal : (hear t.seqnum sender rest
        ((Tracker.observe {} (seqnumAfter t.seqnum d₁)).2)).state.missing + rest.length + d₁ =
        0 + (d₁ :: rest.map (·.2)).getLast (List.cons_ne_nil _ _) := hmissing
    rw [hlast, List.length_map, List.length_cons, List.head_map]
    show _ = _ - d₁ + 1
    omega

/-- A transmitter with an open socket, two numbers before the wrap. -/
def nearWrap : Transmitter :=
  ⟨⟨.loopback, Message.port⟩, 1000, some ⟨.loopback, Message.port⟩, 0xFFFFFFFE, 0, 0⟩

/-- Three of six attempts behind `nearWrap`: the sends of the second and third fail, and the
fifth is lost on its way. -/
def threeOfSix : List (List UInt8 × ℕ) :=
  ((nearWrap.attempts (ScriptedNetwork.create 0 [2, 3])
    [⟨1, -1⟩, ⟨2, -2⟩, ⟨3, -3⟩, ⟨4, -4⟩, ⟨5, -5⟩, ⟨6, -6⟩]).zipIdx 1).filter
      fun x => x.2 ∈ [1, 4, 6]

theorem gaps_count_losses_threeOfSix :
    (listen none (threeOfSix.map (arrival ⟨.loopback, 9000⟩)) {}).state.missing = 3 := by
  have hsome : threeOfSix ≠ [] := by decide
  obtain ⟨-, -, hmissing⟩ := gaps_count_losses nearWrap (ScriptedNetwork.create 0 [2, 3])
    [⟨1, -1⟩, ⟨2, -2⟩, ⟨3, -3⟩, ⟨4, -4⟩, ⟨5, -5⟩, ⟨6, -6⟩] ⟨.loopback, 9000⟩ threeOfSix rfl
    List.filter_sublist hsome (by decide)
  have hlength : threeOfSix.length = 3 := by decide
  have hnumbers : (threeOfSix.getLast hsome).2 - (threeOfSix.head hsome).2 + 1 = 6 := rfl
  omega

end Listener

end Telemetry
