/-
The values of a document are read back as the settings that they were written for.

* `Config.word64_int`, `Config.word16_int`, `Config.size_int`, `Config.sample_int` — numbers of
  every size;
* `Config.waveform_waveformTree` — a waveform, whichever notation it is written in;
* `Config.address_text`, `Config.target_text` — addresses and destinations;
* **`Config.budgets_listing`** — overrides of stack budgets, in whatever order they are listed.

Overrides are read by insertion into a list in order. Which order they come in does not matter,
because there is only one way to put a listing of distinct names into ascending order.
-/
import Mathlib.Data.List.Perm.Basic
import Telemetry.Config.Document
import Telemetry.Proofs.Net.Address

namespace Telemetry

/-! ### Overrides of stack budgets -/

namespace BudgetOverrides

theorem ext_entries {o o' : BudgetOverrides} (h : o.entries = o'.entries) : o = o' := by
  obtain ⟨entries, ascending⟩ := o
  obtain ⟨entries', ascending'⟩ := o'
  obtain rfl : entries = entries' := h
  rfl

/-- The budget of a new name is one more entry. -/
theorem put_perm {name : String} {bytes : UInt64} {entries : List (String × UInt64)}
    (h : name ∉ entries.map Prod.fst) :
    (put name bytes entries).Perm ((name, bytes) :: entries) := by
  induction entries with
  | nil => exact List.Perm.refl _
  | cons e rest ih =>
    obtain ⟨n, b⟩ := e
    obtain ⟨hne, hrest⟩ : name ≠ n ∧ name ∉ rest.map Prod.fst := by
      simpa [not_or] using h
    rw [put, if_neg hne]
    split
    · exact List.Perm.refl _
    · exact ((ih hrest).cons (n, b)).trans (List.Perm.swap _ _ _)

/-- The overrides with the budgets of a listing added or replaced. -/
def insertAll (o : BudgetOverrides) (listing : List (String × UInt64)) : BudgetOverrides :=
  listing.foldl (fun o p => o.insert p.1 p.2) o

theorem insertAll_perm {o : BudgetOverrides} {listing : List (String × UInt64)}
    (h : ((listing ++ o.entries).map Prod.fst).Nodup) :
    (o.insertAll listing).entries.Perm (listing ++ o.entries) := by
  induction listing generalizing o with
  | nil => exact List.Perm.refl _
  | cons p rest ih =>
    obtain ⟨hnew, hrest⟩ : p.1 ∉ (rest ++ o.entries).map Prod.fst ∧
        ((rest ++ o.entries).map Prod.fst).Nodup := by
      simpa using h
    have hput : (o.insert p.1 p.2).entries.Perm (p :: o.entries) := by
      apply put_perm
      intro hmem
      apply hnew
      rw [List.map_append, List.mem_append]
      exact Or.inr hmem
    have hmoved : (rest ++ (o.insert p.1 p.2).entries).Perm (p :: (rest ++ o.entries)) :=
      (hput.append_left rest).trans List.perm_middle
    have hnodup : ((rest ++ (o.insert p.1 p.2).entries).map Prod.fst).Nodup :=
      ((hmoved.map Prod.fst).nodup_iff).mpr h
    exact (ih hnodup).trans hmoved

/-- No name has two budgets. -/
theorem nodup_names (o : BudgetOverrides) : (o.entries.map Prod.fst).Nodup := by
  rw [List.Nodup, List.pairwise_map]
  exact o.ascending.imp fun hlt heq => absurd (heq ▸ hlt) (String.lt_irrefl _)

/-- A listing of the overrides in any order makes up the overrides. -/
theorem insertAll_of_perm {o : BudgetOverrides} {listing : List (String × UInt64)}
    (h : listing.Perm o.entries) : empty.insertAll listing = o := by
  have hnodup : ((listing ++ empty.entries).map Prod.fst).Nodup := by
    rw [empty, List.append_nil]
    exact ((h.map Prod.fst).nodup_iff).mpr o.nodup_names
  have hperm : (empty.insertAll listing).entries.Perm o.entries := by
    have hall := insertAll_perm hnodup
    rw [show listing ++ empty.entries = listing from List.append_nil listing] at hall
    exact hall.trans h
  apply ext_entries
  exact hperm.eq_of_pairwise (fun a b _ _ hab hba => absurd hba (String.lt_asymm hab))
    (empty.insertAll listing).ascending o.ascending

end BudgetOverrides

namespace Config

/-! ### Numbers -/

theorem natural_int {bound n : Nat} (expected : String) (h : n < bound) :
    natural bound expected (.int (Int.ofNat n)) = .ok n := by
  simp [natural, h]

theorem word64_int (w : UInt64) : word64 (.int (Int.ofNat w.toNat)) = .ok w := by
  rw [word64, natural_int "u64" w.toNat_lt]
  simp [Except.map]

theorem word16_int (w : UInt16) : word16 (.int (Int.ofNat w.toNat)) = .ok w := by
  rw [word16, natural_int "u16" w.toNat_lt]
  simp [Except.map]

theorem size_int (w : UInt64) : size (.int (Int.ofNat w.toNat)) = .ok w := by
  rw [size, natural_int "usize" w.toNat_lt]
  simp [Except.map]

theorem sample_int (s : Sample) : sample (.int s.toInt) = .ok s := by
  have hlow : -32768 ≤ s.toInt := s.le_toInt
  have hhigh : s.toInt < 32768 := s.toInt_lt
  simp [sample, hlow, hhigh]

/-! ### Waveforms -/

theorem mapM_sample (entries : List Sample) :
    (entries.map fun s => Tree.int s.toInt).mapM sample = .ok entries := by
  induction entries with
  | nil => rfl
  | cons s rest ih =>
    rw [List.map_cons, List.mapM_cons, ih, sample_int]
    rfl

/-- A waveform is read back, whichever notation it is written in. -/
theorem waveform_waveformTree (d : Dialect) (w : WaveformSource) :
    waveform d (waveformTree w) = .ok w := by
  cases w with
  | sine => cases d <;> simp [waveformTree, waveform, namedWaveform]
  | samples entries =>
    have hread : samples (.list (entries.map fun s => .int s.toInt)) = .ok (.samples entries) := by
      rw [samples, mapM_sample]
      rfl
    cases d <;> simp [waveformTree, waveform, waveformWith, hread]

/-! ### Texts -/

theorem optionalText_text (expected s : String) :
    optionalText expected (.text s) = .ok (some s) := rfl

theorem address_text (ip : IpAddr) : address (.text ip.text) = .ok ip := by
  simp only [address, text, bind, Except.bind, IpAddr.parse?_text]
  rfl

theorem target_text (d : Destination) : target (.text d.text) = .ok d := by
  simp only [target, text, bind, Except.bind, Destination.ofText?_text]
  rfl

/-! ### Budgets -/

theorem budgetsFrom_listing (o : BudgetOverrides) (listing : List (String × UInt64)) :
    budgetsFrom o (listing.map fun p => (p.1, .int (Int.ofNat p.2.toNat))) =
      .ok (o.insertAll listing) := by
  induction listing generalizing o with
  | nil => rfl
  | cons p rest ih =>
    rw [List.map_cons, budgetsFrom, size_int]
    exact ih (o.insert p.1 p.2)

/-- Overrides are read back from a listing in any order. -/
theorem budgets_listing {o : BudgetOverrides} {listing : List (String × UInt64)}
    (h : listing.Perm o.entries) :
    budgets (.table (listing.map fun p => (p.1, .int (Int.ofNat p.2.toNat)))) = .ok o := by
  rw [budgets, budgetsFrom_listing, BudgetOverrides.insertAll_of_perm h]

end Config

end Telemetry
