/-
What a tracker counts over any stream of sequence numbers.

A number is ahead of the one before it when it lies less than half the range in front of it. Any
other step cuts the stream: a number that is repeated, a datagram that comes late, a sender that
has started anew. Behind a cut a tracker goes on as a new one does, so that losses are counted
segment by segment:

* `Tracker.observeAll` — the gaps before the numbers of a stream, and the tracker behind it;
* `Tracker.toNat_gap` — the gap of one step;
* `Tracker.observeAll_flatten` — the gaps of segments put together are those of the segments;
* `Tracker.missing_of_unbroken` — within a segment the total is the distance covered without one
  number for every step;
* `Tracker.observeAll_stammered` — numbers that are repeated at once change no total;
* `Tracker.totals_by_segment` — all of it, for every stream.

Design notes: the total is a natural number. `Tracker.missing_lt` says up to which length of the
stream 64 bits hold it.
-/
import Mathlib.Algebra.Order.BigOperators.Group.List
import Mathlib.Data.List.SplitBy
import Mathlib.Tactic.Linarith
import Telemetry.Wire.Sequence

namespace Telemetry

namespace Tracker

/-- The gaps before the numbers of a stream, and the tracker that has seen them all. -/
def observeAll : Tracker → List UInt32 → List UInt32 × Tracker
  | t, [] => ([], t)
  | t, seqnum :: rest =>
    let later := observeAll (t.observe seqnum).2 rest
    ((t.observe seqnum).1 :: later.1, later.2)

/-- How far one goes forward from `a` to `b`, around the range if need be. -/
def distance (a b : UInt32) : ℕ := (b.toNat + 2 ^ 32 - a.toNat) % 2 ^ 32

/-- A step forward by less than half the range. -/
def Ahead (a b : UInt32) : Prop := 0 < distance a b ∧ distance a b ≤ 2 ^ 31 - 1

instance : DecidableRel Ahead := fun _ _ => inferInstanceAs (Decidable (_ ∧ _))

/-- A stream cut before every number that is not ahead of the one before it. -/
def segments (stream : List UInt32) : List (List UInt32) := stream.splitBy fun a b => Ahead a b

/-- The distances from each number to the next, added up. -/
def covered : List UInt32 → ℕ
  | a :: b :: rest => distance a b + covered (b :: rest)
  | _ => 0

/-- A stream in which the number at `i` comes `repeats i` times more, right behind itself. -/
def stammered (repeats : ℕ → ℕ) (stream : List UInt32) : List UInt32 :=
  (stream.mapIdx fun i seqnum => List.replicate (repeats i + 1) seqnum).flatten

variable {t : Tracker} {a b seqnum : UInt32} {stream s : List UInt32} {i : ℕ}

/-! ### One step -/

theorem toNat_sub_eq_distance (a b : UInt32) : (b - a).toNat = distance a b := by
  have ha := a.toNat_lt
  rw [UInt32.toNat_sub, distance]
  omega

@[simp]
theorem distance_self (a : UInt32) : distance a a = 0 := by
  rw [distance, Nat.add_sub_cancel_left, Nat.mod_self]

/-- A step forward skips one number less than its distance, and any other step none. -/
theorem toNat_gap (a b : UInt32) :
    (gap a b).toNat = if Ahead a b then distance a b - 1 else 0 := by
  have hdistance := toNat_sub_eq_distance a b
  have hback : (b - a = 0 ∨ b - a > 0x7FFFFFFF) ↔ ¬ Ahead a b := by
    rw [gt_iff_lt, UInt32.lt_iff_toNat_lt, ← UInt32.toNat_inj, hdistance, Ahead]
    simp only [UInt32.reduceToNat]
    omega
  simp only [gap, hback]
  by_cases hahead : Ahead a b
  · have hpos : 0 < distance a b := hahead.1
    rw [if_neg (not_not.mpr hahead), if_pos hahead, UInt32.toNat_sub, hdistance]
    have hlt : distance a b < 2 ^ 32 := Nat.mod_lt _ (by decide)
    simp only [UInt32.reduceToNat]
    omega
  · rw [if_pos hahead, if_neg hahead]
    rfl

theorem gap_of_not_ahead (h : ¬ Ahead a b) : gap a b = 0 := by
  rw [← UInt32.toNat_inj, toNat_gap, if_neg h]
  rfl

/-- No step skips half of all numbers. -/
theorem toNat_gap_le (a b : UInt32) : (gap a b).toNat ≤ 2 ^ 31 - 2 := by
  rw [toNat_gap]
  split
  · next h =>
    have hnear := h.2
    omega
  · exact Nat.zero_le _

/-- A number that is not ahead of the last one is taken as the first of a new stream. -/
theorem observe_of_cut (h : ∀ a ∈ t.last, ¬ Ahead a seqnum) :
    t.observe seqnum = (0, ⟨some seqnum, t.missing⟩) := by
  obtain ⟨_ | a, missing⟩ := t
  · rfl
  · simp only [observe, gap_of_not_ahead (h a rfl), UInt32.toNat_zero, Nat.add_zero]

/-- Seeing a number again changes nothing. -/
theorem observe_again (h : t.last = some seqnum) : t.observe seqnum = (0, t) := by
  rw [observe_of_cut fun a ha => ?_]
  · rw [← h]
  · obtain rfl : seqnum = a := Option.some.inj (h.symm.trans ha)
    simp [Ahead]

theorem last_observe (t : Tracker) (seqnum : UInt32) :
    (t.observe seqnum).2.last = some seqnum := rfl

theorem toNat_observe_le (t : Tracker) (seqnum : UInt32) :
    (t.observe seqnum).1.toNat ≤ 2 ^ 31 - 2 := by
  obtain ⟨_ | a, missing⟩ := t
  · exact Nat.zero_le _
  · exact toNat_gap_le a seqnum

/-! ### Streams -/

theorem length_observeAll (t : Tracker) (stream : List UInt32) :
    (observeAll t stream).1.length = stream.length := by
  induction stream generalizing t with
  | nil => rfl
  | cons seqnum rest ih => exact congrArg (· + 1) (ih _)

theorem observeAll_append (t : Tracker) (front back : List UInt32) :
    observeAll t (front ++ back) =
      ((observeAll t front).1 ++ (observeAll (observeAll t front).2 back).1,
        (observeAll (observeAll t front).2 back).2) := by
  induction front generalizing t with
  | nil => rfl
  | cons seqnum rest ih => simp only [List.cons_append, observeAll, ih]

theorem last_observeAll (t : Tracker) (hne : stream ≠ []) :
    (observeAll t stream).2.last = some (stream.getLast hne) := by
  induction stream generalizing t with
  | nil => exact absurd rfl hne
  | cons seqnum rest ih =>
    rcases rest with _ | ⟨next, rest⟩
    · rfl
    · exact ih _ (List.cons_ne_nil _ _)

/-- The total grows by the gaps. -/
theorem missing_observeAll (t : Tracker) (stream : List UInt32) :
    (observeAll t stream).2.missing =
      t.missing + ((observeAll t stream).1.map (·.toNat)).sum := by
  induction stream generalizing t with
  | nil => rfl
  | cons seqnum rest ih =>
    rw [observeAll, List.map_cons, List.sum_cons, ih, ← Nat.add_assoc]
    rfl

theorem toNat_le_of_mem_observeAll {g : UInt32} (hg : g ∈ (observeAll t stream).1) :
    g.toNat ≤ 2 ^ 31 - 2 := by
  induction stream generalizing t with
  | nil => cases hg
  | cons seqnum rest ih =>
    rcases List.mem_cons.mp hg with rfl | hg
    · exact t.toNat_observe_le seqnum
    · exact ih hg

/-- Behind the first number, the gaps are those of the steps. -/
theorem getElem?_observeAll (t : Tracker) (ha : stream[i]? = some a)
    (hb : stream[i + 1]? = some b) : (observeAll t stream).1[i + 1]? = some (gap a b) := by
  induction stream generalizing t i with
  | nil => cases ha
  | cons seqnum rest ih =>
    rw [List.getElem?_cons_succ] at hb
    rcases i with _ | i
    · obtain rfl : seqnum = a := Option.some.inj ha
      rcases rest with _ | ⟨next, rest⟩
      · cases hb
      · obtain rfl : next = b := Option.some.inj hb
        rfl
    · exact ih _ ha hb

/-- 64 bits hold the total of a stream of up to 2³³ numbers. -/
theorem missing_lt (hlength : stream.length ≤ 2 ^ 33) :
    (observeAll {} stream).2.missing < 2 ^ 64 := by
  have hsum := List.sum_le_card_nsmul ((observeAll {} stream).1.map (·.toNat)) (2 ^ 31 - 2)
    fun n hn => by
      obtain ⟨g, hg, rfl⟩ := List.mem_map.mp hn
      exact toNat_le_of_mem_observeAll hg
  rw [List.length_map, length_observeAll, nsmul_eq_mul, Nat.cast_id] at hsum
  rw [missing_observeAll]
  show 0 + _ < _
  omega

/-! ### Segments -/

/-- The list `ss` is `stream`, cut between numbers that are not ahead and nowhere else. -/
structure Cut (stream : List UInt32) (ss : List (List UInt32)) : Prop where
  whole : ss.flatten = stream
  nonempty : ∀ s ∈ ss, s ≠ []
  unbroken : ∀ s ∈ ss, s.IsChain Ahead
  broken : ss.IsChain fun s s' => ∀ a ∈ s.getLast?, ∀ b ∈ s'.head?, ¬ Ahead a b

theorem cut_segments (stream : List UInt32) : Cut stream (segments stream) := by
  refine ⟨List.flatten_splitBy _ _, fun s => List.ne_nil_of_mem_splitBy, fun s hs => ?_, ?_⟩
  · exact (List.isChain_of_mem_splitBy hs).imp fun a b => of_decide_eq_true
  · refine (List.isChain_getLast_head_splitBy _ stream).imp fun s s' h a ha b hb => ?_
    obtain ⟨hs, hs', hcut⟩ := h
    rw [List.getLast?_eq_some_getLast hs] at ha
    rw [List.head?_eq_some_head hs'] at hb
    obtain rfl := Option.some.inj ha
    obtain rfl := Option.some.inj hb
    exact of_decide_eq_false hcut

/-- Behind a cut the gaps are those of a new tracker. -/
theorem observeAll_of_cut (hcut : ∀ a ∈ t.last, ∀ b ∈ s.head?, ¬ Ahead a b) :
    (observeAll t s).1 = (observeAll {} s).1 := by
  -- the gaps depend on the last number and not on the total
  have htotal : ∀ (rest : List UInt32) (last : Option UInt32) (m m' : ℕ),
      (observeAll ⟨last, m⟩ rest).1 = (observeAll ⟨last, m'⟩ rest).1 := by
    intro rest
    induction rest with
    | nil => exact fun _ _ _ => rfl
    | cons seqnum rest ih => exact fun last m m' => congrArg (_ :: ·) (ih _ _ _)
  rcases s with _ | ⟨seqnum, rest⟩
  · rfl
  · simp only [observeAll, observe_of_cut fun a ha => hcut a ha seqnum rfl]
    exact congrArg (0 :: ·) (htotal rest _ _ _)

/-- The gaps of segments put together are those of the segments. -/
theorem observeAll_flatten {ss : List (List UInt32)} (h : Cut stream ss) (t : Tracker)
    (hcut : ∀ a ∈ t.last, ∀ b ∈ stream.head?, ¬ Ahead a b) :
    (observeAll t stream).1 = ss.flatMap fun s => (observeAll {} s).1 := by
  obtain ⟨rfl, hne, hunbroken, hbroken⟩ := h
  induction ss generalizing t with
  | nil => rfl
  | cons s rest ih =>
    have hs : s ≠ [] := hne s List.mem_cons_self
    rw [List.flatten_cons] at hcut ⊢
    rw [observeAll_append, List.flatMap_cons, observeAll_of_cut fun a ha b hb => ?_]
    · -- the next segment begins with a number that is not ahead of the last of this one
      refine congrArg (_ ++ ·) (ih _ (fun s' hs' => hne s' (List.mem_cons_of_mem _ hs'))
        (fun s' hs' => hunbroken s' (List.mem_cons_of_mem _ hs')) hbroken.tail ?_)
      intro a ha b hb
      rw [last_observeAll t hs, ← List.getLast?_eq_some_getLast hs] at ha
      rcases rest with _ | ⟨s', rest⟩
      · cases hb
      · have hs' : s' ≠ [] := hne s' (List.mem_cons_of_mem _ List.mem_cons_self)
        rw [List.flatten_cons, List.head?_append_of_ne_nil _ hs'] at hb
        exact (List.isChain_cons_cons.mp hbroken).1 a ha b hb
    · refine hcut a ha b ?_
      rw [List.head?_append_of_ne_nil _ hs]
      exact hb

/-- In a segment all steps go forward, so its gaps are the distance covered without one number
for every step. -/
theorem sum_of_unbroken (a : UInt32) (m : ℕ) (hunbroken : (a :: s).IsChain Ahead) :
    ((observeAll ⟨some a, m⟩ s).1.map (·.toNat)).sum + s.length = covered (a :: s) := by
  induction s generalizing a m with
  | nil => rfl
  | cons b rest ih =>
    obtain ⟨hahead, hrest⟩ := List.isChain_cons_cons.mp hunbroken
    have hgap : (gap a b).toNat + 1 = distance a b := by
      rw [toNat_gap, if_pos hahead]
      exact Nat.sub_add_cancel hahead.1
    have hlater := ih b (m + (gap a b).toNat) hrest
    rw [observeAll, List.map_cons, List.sum_cons, List.length_cons, covered]
    simp only [observe] at hlater ⊢
    omega

theorem missing_of_unbroken (hne : s ≠ []) (hunbroken : s.IsChain Ahead) :
    ((observeAll {} s).2.missing : ℤ) = covered s - (s.length - 1) := by
  rcases s with _ | ⟨a, rest⟩
  · exact absurd rfl hne
  · have hsum := sum_of_unbroken a 0 hunbroken
    have hmissing : (observeAll {} (a :: rest)).2.missing =
        0 + ((observeAll ⟨some a, 0⟩ rest).1.map (·.toNat)).sum := missing_observeAll _ rest
    rw [hmissing, List.length_cons]
    omega

/-! ### Repetitions -/

theorem observeAll_replicate (n : ℕ) (h : t.last = some seqnum) :
    (observeAll t (List.replicate n seqnum)).2 = t := by
  induction n with
  | zero => rfl
  | succ n ih => rw [List.replicate_succ, observeAll, observe_again h, ih]

/-- Numbers that are repeated at once leave the tracker as it is without them. -/
theorem observeAll_stammered (repeats : ℕ → ℕ) (t : Tracker) (stream : List UInt32) :
    (observeAll t (stammered repeats stream)).2 = (observeAll t stream).2 := by
  induction stream generalizing repeats t with
  | nil => rfl
  | cons seqnum rest ih =>
    rw [stammered, List.mapIdx_cons, List.flatten_cons, observeAll_append, List.replicate_succ,
      observeAll, observeAll_replicate _ (t.last_observe seqnum)]
    exact ih (fun i => repeats (i + 1)) _

/-- **Totals by segment.** Over any stream of sequence numbers a new tracker answers a gap for
every number, each less than half the range, and none for a number behind a cut. Its total is the
sum of these gaps; it is what new trackers count on the segments between the cuts, for each of
them the distance it covers without one number for every step; and numbers that are repeated at
once do not change it. -/
theorem totals_by_segment (stream : List UInt32) (repeats : ℕ → ℕ) :
    let watched := observeAll {} stream
    watched.1.length = stream.length ∧
    (∀ g ∈ watched.1, g.toNat ≤ 2 ^ 31 - 2) ∧
    (∀ i a b, stream[i]? = some a → stream[i + 1]? = some b → ¬ Ahead a b →
      watched.1[i + 1]? = some 0) ∧
    watched.2.missing = (watched.1.map (·.toNat)).sum ∧
    watched.1 = (segments stream).flatMap (fun s => (observeAll {} s).1) ∧
    watched.2.missing = ((segments stream).map fun s => (observeAll {} s).2.missing).sum ∧
    (watched.2.missing : ℤ) =
      ((segments stream).map fun s => (covered s : ℤ) - (s.length - 1)).sum ∧
    (observeAll {} (stammered repeats stream)).2.missing = watched.2.missing := by
  intro watched
  have hcut := cut_segments stream
  have hmissing : ∀ s : List UInt32,
      (observeAll {} s).2.missing = ((observeAll {} s).1.map (·.toNat)).sum := fun s =>
    (missing_observeAll {} s).trans (Nat.zero_add _)
  have hgaps : watched.1 = (segments stream).flatMap fun s => (observeAll {} s).1 :=
    observeAll_flatten hcut {} nofun
  have htotal : watched.2.missing =
      ((segments stream).map fun s => (observeAll {} s).2.missing).sum := by
    rw [hmissing, show (observeAll {} stream).1 = _ from hgaps, List.map_flatMap,
      List.flatMap_def, List.sum_flatten, List.map_map]
    exact congrArg List.sum (List.map_congr_left fun s _ => (hmissing s).symm)
  refine ⟨length_observeAll {} stream, fun g => toNat_le_of_mem_observeAll, ?_, hmissing stream,
    hgaps, htotal, ?_, congrArg missing (observeAll_stammered repeats {} stream)⟩
  · intro i a b ha hb hnot
    rw [getElem?_observeAll {} ha hb, gap_of_not_ahead hnot]
  · rw [htotal, ← Nat.coe_castAddMonoidHom, map_list_sum, List.map_map]
    exact congrArg List.sum (List.map_congr_left fun s hs =>
      missing_of_unbroken (hcut.nonempty s hs) (hcut.unbroken s hs))

/-- A loss across the wrap, a repetition, another loss, a late number, the largest loss there is,
and a sender that has started anew. -/
def eventful : List UInt32 := [0xFFFFFFFE, 1, 1, 4, 2, 0x80000001, 7]

theorem totals_by_segment_eventful :
    segments eventful = [[0xFFFFFFFE, 1], [1, 4], [2, 0x80000001], [7]] ∧
    (observeAll {} eventful).1[2]? = some 0 ∧
    (observeAll {} eventful).2.missing = 2 + 2 + (2 ^ 31 - 2) := by
  have hsegments : segments eventful = [[0xFFFFFFFE, 1], [1, 4], [2, 0x80000001], [7]] := by
    decide
  obtain ⟨-, -, hbehind, -, -, htotal, -⟩ := totals_by_segment eventful fun _ => 0
  refine ⟨hsegments, hbehind 1 1 1 rfl rfl (by decide), ?_⟩
  rw [htotal, hsegments]
  decide

end Tracker

end Telemetry
