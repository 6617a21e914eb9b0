/-
How long a transmitter waits for its network.

Every poll of a network may change it, and only the answer of a poll says whether the network is
up. So a wait comes to an end with the first poll whose answer is yes, and not at all if there is
none; how many polls it is followed for decides nothing but whether that end is seen.

* `Transmitter.polled`, `Transmitter.upAt` — a network after some polls, and the answer of the next;
* `Transmitter.Waited` — everything that a wait can come to;
* `Transmitter.waitForNetwork_eq_some_iff`, `Transmitter.waitForNetwork_eq_none_iff` — when a wait
  has come to its end, and after how many polls;
* `Transmitter.waitForNetwork_of_le`, `Transmitter.run_of_le` — once there is an answer, more polls
  change nothing;
* `Transmitter.waitForNetwork_scripted` — a scripted network is up after the polls it asks for.
-/
import Mathlib.Logic.Function.Iterate
import Telemetry.Stage.Transmitter

namespace Telemetry

namespace Transmitter

variable {ν : Type} [NetworkStack ν] {net : ν} {rounds more n : ℕ}

/-- A network after `n` polls. -/
def polled (net : ν) (n : ℕ) : ν := (fun m : ν => (NetworkStack.isUp m).state)^[n] net

/-- The answer of the poll that comes after `n` others. -/
def upAt (net : ν) (n : ℕ) : Bool := (NetworkStack.isUp (polled net n)).answer

theorem polled_succ (net : ν) (n : ℕ) :
    polled net (n + 1) = polled (NetworkStack.isUp net).state n := rfl

/-- Everything that a wait for `rounds` polls can come to: the number of polls, unless the network
is still down, and the network after them. -/
inductive Waited (net : ν) (rounds : ℕ) : Option ℕ → ν → Prop
  | up {n : ℕ} (hn : n < rounds) (hup : upAt net n = true) (hdown : ∀ i < n, upAt net i = false) :
      Waited net rounds (some (n + 1)) (polled net (n + 1))
  | down (hdown : ∀ i < rounds, upAt net i = false) : Waited net rounds none (polled net rounds)

/-- A network that is down at the first poll goes on as it does after that poll. -/
theorem forall_upAt_succ (hfirst : (NetworkStack.isUp net).answer = false)
    (hrest : ∀ i < n, upAt (NetworkStack.isUp net).state i = false) :
    ∀ i < n + 1, upAt net i = false := by
  intro i hi
  cases i with
  | zero => exact hfirst
  | succ i => exact hrest i (Nat.lt_of_succ_lt_succ hi)

theorem pollUntilUp_waited (rounds : ℕ) : ∀ net : ν,
    Waited net rounds (pollUntilUp rounds net).answer (pollUntilUp rounds net).state := by
  induction rounds with
  | zero => exact fun net => .down nofun
  | succ rounds ih =>
    intro net
    rw [pollUntilUp]
    cases hfirst : (NetworkStack.isUp net).answer with
    | true => exact .up (Nat.succ_pos rounds) hfirst nofun
    | false =>
      have hrest := ih (NetworkStack.isUp net).state
      generalize pollUntilUp rounds (NetworkStack.isUp net).state = rest at hrest ⊢
      obtain ⟨answer, state, notices⟩ := rest
      cases hrest with
      | up hn hup hdown => exact .up (Nat.succ_lt_succ hn) hup (forall_upAt_succ hfirst hdown)
      | down hdown => exact .down (forall_upAt_succ hfirst hdown)

theorem waitForNetwork_waited (rounds : ℕ) (net : ν) :
    Waited net rounds (waitForNetwork rounds net).answer (waitForNetwork rounds net).state :=
  pollUntilUp_waited rounds net

/-- A wait ends with the first poll whose answer is yes, if it is followed for so long. -/
theorem waitForNetwork_eq_some_iff {k : ℕ} : (waitForNetwork rounds net).answer = some k ↔
    ∃ n < rounds, k = n + 1 ∧ upAt net n = true ∧ ∀ i < n, upAt net i = false := by
  have hwaited := waitForNetwork_waited rounds net
  generalize (waitForNetwork rounds net).answer = answer,
    (waitForNetwork rounds net).state = state at hwaited ⊢
  cases hwaited with
  | @up n hn hup hdown =>
    constructor
    · intro hk
      exact ⟨n, hn, (Option.some.inj hk).symm, hup, hdown⟩
    · rintro ⟨n', -, rfl, hup', hdown'⟩
      -- neither of the two polls comes before the other
      rcases Nat.lt_trichotomy n n' with hlt | rfl | hlt
      · exact absurd ((hdown' n hlt).symm.trans hup) Bool.noConfusion
      · rfl
      · exact absurd ((hdown n' hlt).symm.trans hup') Bool.noConfusion
  | down hdown =>
    constructor
    · exact nofun
    · rintro ⟨n, hn, -, hup, -⟩
      exact absurd ((hdown n hn).symm.trans hup) Bool.noConfusion

/-- A network that is up at one of the polls ends the wait, and nothing else does. -/
theorem waitForNetwork_eq_none_iff :
    (waitForNetwork rounds net).answer = none ↔ ∀ i < rounds, upAt net i = false := by
  have hwaited := waitForNetwork_waited rounds net
  generalize (waitForNetwork rounds net).answer = answer,
    (waitForNetwork rounds net).state = state at hwaited ⊢
  cases hwaited with
  | @up n hn hup hdown =>
    refine iff_of_false nofun fun hnever => ?_
    exact absurd ((hnever n hn).symm.trans hup) Bool.noConfusion
  | down hdown => exact iff_of_true rfl hdown

/-! ### More polls -/

theorem pollUntilUp_of_le (rounds : ℕ) : ∀ {more : ℕ} {net : ν},
    (pollUntilUp rounds net).answer ≠ none → rounds ≤ more →
    pollUntilUp more net = pollUntilUp rounds net := by
  induction rounds with
  | zero => exact fun hanswer => absurd rfl hanswer
  | succ rounds ih =>
    intro more net hanswer hle
    obtain ⟨more, rfl⟩ : ∃ m, more = m + 1 :=
      Nat.exists_eq_add_of_le' (Nat.le_trans rounds.succ_pos hle)
    rw [pollUntilUp] at hanswer
    rw [pollUntilUp, pollUntilUp]
    cases hfirst : (NetworkStack.isUp net).answer with
    | true => rfl
    | false =>
      simp only [hfirst, Bool.false_eq_true, if_false, ne_eq, Option.map_eq_none_iff] at hanswer ⊢
      rw [ih hanswer (Nat.le_of_succ_le_succ hle)]

/-- Once the network is up, more polls change nothing. -/
theorem waitForNetwork_of_le (hanswer : (waitForNetwork rounds net).answer ≠ none)
    (hle : rounds ≤ more) : waitForNetwork more net = waitForNetwork rounds net := by
  rw [waitForNetwork, pollUntilUp_of_le rounds hanswer hle]
  rfl

variable {t : Transmitter} {rx : Channel ActuatorState}

/-- While its network is down, a transmitter has done nothing but poll it. -/
theorem run_of_down (t : Transmitter) (rx : Channel ActuatorState)
    (hdown : (waitForNetwork rounds net).answer = none) :
    (t.run rounds net rx).answer = none ∧
    (t.run rounds net rx).state = (t, (waitForNetwork rounds net).state, rx) := by
  simp only [run, hdown, and_self]

/-- Once there is an answer, more polls change nothing. -/
theorem run_of_le (hanswer : (t.run rounds net rx).answer ≠ none) (hle : rounds ≤ more) :
    t.run more net rx = t.run rounds net rx := by
  have hup : (waitForNetwork rounds net).answer ≠ none := fun hdown =>
    hanswer (run_of_down t rx hdown).1
  rw [run, waitForNetwork_of_le hup hle]
  rfl

/-! ### On a scripted network -/

theorem polled_scripted (net : ScriptedNetwork) (n : ℕ) :
    polled net n = { net with polls := net.polls + n } := by
  induction n generalizing net with
  | zero => rfl
  | succ n ih =>
    rw [polled_succ, ih]
    show ({ net with polls := net.polls + 1 + n } : ScriptedNetwork) = _
    rw [Nat.add_right_comm, Nat.add_assoc]

theorem upAt_scripted (net : ScriptedNetwork) (n : ℕ) :
    upAt net n = decide (net.upAfter ≤ net.polls + n) := by
  rw [upAt, polled_scripted]
  rfl

/-- A scripted network is up after the polls it asks for, and not before. -/
theorem waitForNetwork_scripted (net : ScriptedNetwork) (hpolls : net.polls ≤ net.upAfter)
    (rounds : ℕ) :
    (net.upAfter < net.polls + rounds →
      (waitForNetwork rounds net).answer = some (net.upAfter - net.polls + 1) ∧
      (waitForNetwork rounds net).state = { net with polls := net.upAfter + 1 }) ∧
    (net.polls + rounds ≤ net.upAfter →
      (waitForNetwork rounds net).answer = none ∧
      (waitForNetwork rounds net).state = { net with polls := net.polls + rounds }) := by
  have hwaited := waitForNetwork_waited rounds net
  generalize (waitForNetwork rounds net).answer = answer,
    (waitForNetwork rounds net).state = state at hwaited ⊢
  cases hwaited with
  | @up n hn hup hdown =>
    rw [upAt_scripted, decide_eq_true_eq] at hup
    have hfirst : net.upAfter = net.polls + n := by
      by_contra hne
      have hbefore := hdown (net.upAfter - net.polls) (by omega)
      rw [upAt_scripted, decide_eq_false_iff_not] at hbefore
      omega
    refine ⟨fun _ => ⟨by rw [hfirst, Nat.add_sub_cancel_left], ?_⟩, fun hlate => by omega⟩
    rw [polled_scripted, hfirst, Nat.add_assoc]
  | down hdown =>
    refine ⟨fun hrounds => ?_, fun _ => ⟨rfl, polled_scripted net rounds⟩⟩
    have hlast := hdown (net.upAfter - net.polls) (by omega)
    rw [upAt_scripted, decide_eq_false_iff_not] at hlast
    omega

end Transmitter

end Telemetry
