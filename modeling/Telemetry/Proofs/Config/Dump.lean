/-
Configurations are read back from their texts.

The document of a configuration is a table of sections that are proper, whatever the
configuration is, provided its numbers fit the notation; and what is left of it is one too, when
sections and settings are deleted. So the text of either is read back as it was written.

* `Config.isSection_sampling` and the like — each section is proper, with the samples and the
  stack budgets as tables of their own;
* `Config.parse?_print_erase` — what is left of a document is read back from its text;
* `Config.ofToml_toTomlListing` — a configuration is read back from its own text;
* **`Config.ofToml_of_erased`** — and with the defaults in the place of whatever is deleted.
-/
import Telemetry.Config.Text
import Telemetry.Proofs.Config.Omission
import Telemetry.Proofs.Toml.Document

namespace Telemetry.Config

open Toml

/-! ### Sections -/

section

variable {c : Config}

theorem fitsInt_of_fits {n : UInt64} (h : fits n = true) : FitsInt (Int.ofNat n.toNat) := by
  have hlt : n.toNat < 9223372036854775808 := by simpa [fits] using h
  have hcast : Int.ofNat n.toNat = (n.toNat : Int) := rfl
  rw [FitsInt, hcast]
  omega

theorem single_of_fits {n : UInt64} (h : fits n = true) : Single (.int (Int.ofNat n.toNat)) :=
  .int (fitsInt_of_fits h)

theorem single_word16 (n : UInt16) : Single (.int (Int.ofNat n.toNat)) := by
  have hlt : n.toNat < 65536 := n.toNat_lt
  have hcast : Int.ofNat n.toNat = (n.toNat : Int) := rfl
  apply Single.int
  rw [FitsInt, hcast]
  omega

/-- The samples of a waveform are a list of integers. -/
theorem single_samples (entries : List Sample) :
    Single (.list (entries.map fun s => .int s.toInt)) := by
  have hfits : ∀ i ∈ entries.map Int16.toInt, FitsInt i := by
    intro i hi
    obtain ⟨s, -, rfl⟩ := List.mem_map.mp hi
    have hlow : -32768 ≤ s.toInt := s.le_toInt
    have hhigh : s.toInt < 32768 := s.toInt_lt
    rw [FitsInt]
    omega
  simpa [Function.comp_def] using Single.ints hfits

theorem isSection_sampling {s : Sampling} (h : fits s.periodMs = true) :
    IsSection "sampling" (samplingTree s) := by
  have hperiod := single_of_fits h
  obtain ⟨period, waveform⟩ := s
  cases waveform with
  | sine =>
    refine ⟨⟨"sampling", [("period_ms", .int (Int.ofNat period.toNat)),
      ("waveform", .text "sine")], []⟩, ⟨?_, ?_, ?_⟩, rfl, rfl⟩
    · simpa using ⟨hperiod, Single.text "sine"⟩
    · simp
    · simp
  | samples entries =>
    -- the samples are in a table of their own, behind the period
    refine ⟨⟨"sampling", [("period_ms", .int (Int.ofNat period.toNat))],
      [("waveform", [("samples", .list (entries.map fun s => .int s.toInt))])]⟩,
      ⟨?_, ?_, ?_⟩, rfl, rfl⟩
    · simpa using hperiod
    · have hleaf : Leaf [("samples", Tree.list (entries.map fun s => .int s.toInt))] :=
        ⟨by simpa using single_samples entries, by simp⟩
      simpa using hleaf
    · simp

/-- A text that may be absent is all that a section has. -/
theorem isSection_optional (title name : String) (t : Option String) :
    IsSection title (.table (optional name t)) := by
  refine ⟨⟨title, optional name t, []⟩, ⟨?_, by simp, ?_⟩, rfl, by simp [Section.entries]⟩
  · cases t with
    | none => simp [optional]
    | some s => simpa [optional] using Single.text s
  · cases t <;> simp [optional]

theorem isSection_network {s : Network} (h : fits s.readyPollMs = true) :
    IsSection "network" (networkTree s) := by
  refine ⟨⟨"network", [("local_ip", .text s.localIp.text),
    ("destination", .text s.destination.text), ("port", .int (Int.ofNat s.port.toNat)),
    ("ready_poll_ms", .int (Int.ofNat s.readyPollMs.toNat))], []⟩, ⟨?_, by simp, by simp⟩, rfl, rfl⟩
  simpa using ⟨Single.text s.localIp.text, Single.text s.destination.text, single_word16 s.port,
    single_of_fits h⟩

theorem isSection_monitor {s : Monitor} {listing : List (String × UInt64)}
    (h : fits s.periodMs = true) (hlisting : listing.Perm s.stackBudgets.entries)
    (hbudgets : ∀ p ∈ s.stackBudgets.entries, fits p.2 = true) :
    IsSection "monitor" (monitorTree s listing) := by
  have hperiod := single_of_fits h
  cases listing with
  | nil =>
    -- without overrides there is no table for them
    refine ⟨⟨"monitor", [("period_ms", .int (Int.ofNat s.periodMs.toNat))], []⟩,
      ⟨?_, by simp, by simp⟩, rfl, rfl⟩
    simpa using hperiod
  | cons p rest =>
    have hleaf : Leaf ((p :: rest).map fun p => (p.1, .int (Int.ofNat p.2.toNat))) := by
      constructor
      · intro e he
        obtain ⟨q, hq, rfl⟩ := List.mem_map.mp he
        exact single_of_fits (hbudgets q (hlisting.mem_iff.mp hq))
      · have hnames := s.stackBudgets.nodup_names
        have hsame := ((hlisting.map Prod.fst).nodup_iff).mpr hnames
        simpa [Function.comp_def] using hsame
    refine ⟨⟨"monitor", [("period_ms", .int (Int.ofNat s.periodMs.toNat))],
      [("stack_budgets", (p :: rest).map fun p => (p.1, .int (Int.ofNat p.2.toNat)))]⟩,
      ⟨?_, ?_, by simp⟩, rfl, rfl⟩
    · simpa using hperiod
    · intro t ht
      obtain rfl := List.mem_singleton.mp ht
      exact hleaf

/-- What is left of a section is one. -/
theorem isSection_eraseSettings {title : String} {v : Tree} (h : IsSection title v) (o : Omission) :
    IsSection title (o.eraseSettings title v) := by
  obtain ⟨s, hs, htitle, rfl⟩ := h
  refine ⟨s.kept fun name => (title, name) ∉ o.settings, hs.kept _, htitle, ?_⟩
  rw [Omission.eraseSettings, keptEntries, s.entries_kept]

end

/-! ### Documents -/

/-- What is left of a document is read back from its text. -/
theorem parse?_print_erase {c : Config} {listing : List (String × UInt64)}
    (hwritable : c.isWritable = true) (hlisting : listing.Perm c.monitor.stackBudgets.entries)
    (o : Omission) :
    parse? (print (o.erase (c.documentListing listing))) =
      some (o.erase (c.documentListing listing)) := by
  obtain ⟨⟨⟨hperiod, hpoll⟩, hmonitor⟩, hbudgets⟩ :
      ((fits c.sampling.periodMs = true ∧ fits c.network.readyPollMs = true) ∧
        fits c.monitor.periodMs = true) ∧
        ∀ p ∈ c.monitor.stackBudgets.entries, fits p.2 = true := by
    simpa only [isWritable, Bool.and_eq_true, List.all_eq_true] using hwritable
  have hsections : ∀ e ∈ [("sampling", samplingTree c.sampling),
      ("transform", transformTree c.transform), ("network", networkTree c.network),
      ("monitor", monitorTree c.monitor listing), ("logging", loggingTree c.logging)],
      IsSection e.1 e.2 := by
    simp only [List.forall_mem_cons]
    exact ⟨isSection_sampling hperiod, isSection_optional _ _ _, isSection_network hpoll,
      isSection_monitor hmonitor hlisting hbudgets, isSection_optional _ _ _, by simp⟩
  -- deleting settings leaves sections, and deleting sections leaves some of them
  rw [documentListing, Omission.erase, keptEntries]
  apply parse?_print
  · intro e he
    obtain ⟨d, hd, rfl⟩ := List.mem_map.mp (List.mem_filter.mp he).1
    exact isSection_eraseSettings (hsections d hd) o
  · refine List.Nodup.sublist (List.filter_sublist.map Prod.fst) ?_
    simp

/-! ### Texts -/

/-- A configuration is read back from its text, if the program can work with it. -/
theorem ofToml_toTomlListing {c : Config} {listing : List (String × UInt64)} {text : String}
    (hlisting : listing.Perm c.monitor.stackBudgets.entries)
    (htext : c.toTomlListing listing = .ok text) : ofToml text = c.validate.map fun _ => c := by
  rw [toTomlListing] at htext
  split at htext
  · rename_i hwritable
    obtain rfl := Except.ok.inj htext
    have hread := parse?_print_erase hwritable hlisting .nothing
    have haccept := accept_erase .nothing c hlisting
    rw [erase_nothing] at hread haccept
    rw [reset_nothing] at haccept
    rw [ofToml, hread]
    exact haccept
  · cases htext

/-- Every configuration whose numbers fit the notation has a text, in whatever order its stack
budgets are listed; and the text of what is left of its document, when sections and settings are
deleted from it, is read as the configuration with the defaults in their place, or refused for
the reason that the program cannot work with that configuration. So is every other text that
says the same. -/
theorem ofToml_of_erased (c : Config) (o : Omission) {listing : List (String × UInt64)}
    (hwritable : c.isWritable = true) (hlisting : listing.Perm c.monitor.stackBudgets.entries) :
    c.toTomlListing listing = .ok (print (c.documentListing listing)) ∧
      ofToml (print (o.erase (c.documentListing listing))) =
        (o.reset c).validate.map (fun _ => o.reset c) ∧
      ∀ left, parse? left = some (o.erase (c.documentListing listing)) →
        ofToml left = (o.reset c).validate.map fun _ => o.reset c := by
  have hread : ∀ left, parse? left = some (o.erase (c.documentListing listing)) →
      ofToml left = (o.reset c).validate.map fun _ => o.reset c := by
    intro left hleft
    rw [ofToml, hleft]
    exact accept_erase o c hlisting
  refine ⟨?_, hread _ (parse?_print_erase hwritable hlisting o), hread⟩
  rw [toTomlListing, if_pos hwritable]

/-- Settings unlike the defaults in every section. -/
def relay : Config where
  sampling := { periodMs := 20, waveform := .samples [1, -2] }
  transform := { script := some "-sample / 2" }
  network :=
    { Network.standard with
      localIp := .v4 10 0 0 5, port := 7000
      destination := .address (.v6 #v[0x2001, 0xdb8, 0, 0, 1, 0, 0, 9]) }
  monitor :=
    { Monitor.standard with
      stackBudgets := (BudgetOverrides.empty.insert "Comms" 1024).insert "Monitor" 4096 }
  logging := { file := some "relay.log" }

/-- Two sections, and settings in each of the others. -/
def relayOmission : Omission where
  sections := ["logging", "transform"]
  settings :=
    [("sampling", "waveform"), ("network", "local_ip"), ("network", "port"),
      ("network", "ready_poll_ms"), ("monitor", "period_ms")]

/-- What the relay keeps of its settings: its period, where it sends to, and its budgets. -/
def relayText : String :=
  "[sampling]\nperiod_ms = 20\n\n[network]\ndestination = \"2001:db8::1:0:0:9\"\n\n" ++
    "[monitor.stack_budgets]\nMonitor = 4096\nComms = 1024\n"

theorem ofToml_relayText :
    relay.toTomlListing [("Monitor", 4096), ("Comms", 1024)] =
        .ok (print (relay.documentListing [("Monitor", 4096), ("Comms", 1024)])) ∧
      ofToml relayText =
        .ok { standard with
          sampling := { Sampling.standard with periodMs := 20 }
          network := { Network.standard with destination := relay.network.destination }
          monitor := { Monitor.standard with stackBudgets := relay.monitor.stackBudgets } } := by
  have hlisting : [("Monitor", 4096), ("Comms", 1024)].Perm relay.monitor.stackBudgets.entries := by
    decide
  obtain ⟨hwritten, hread, -⟩ :=
    ofToml_of_erased relay relayOmission (show relay.isWritable = true by decide) hlisting
  -- the monitor keeps nothing but its budgets, so its own header is not written
  have htext : print (relayOmission.erase
      (relay.documentListing [("Monitor", 4096), ("Comms", 1024)])) = relayText := by rfl
  rw [htext] at hread
  exact ⟨hwritten, hread⟩

end Telemetry.Config
