/-
Documents of which a part is left out.

A configuration is written as a document, and any of its sections and settings may be deleted
from it. What is left is the document of another configuration: the one in which the deleted
settings have their defaults.

* `Config.Omission` — what is deleted, with `Omission.erase` for the document and
  `Omission.reset` for the configuration;
* `Config.unsaid_eq_standard` — a setting that a section does not say has the value that it has
  in the standard section;
* `Config.byName_keptEntries` — one entry of a table, kept or deleted;
* **`Config.ofDocument_erase`** — what is left is read as the configuration that is reset, in
  whatever order the stack budgets are listed;
* `Config.accept_erase` — so it is accepted if the program can work with that configuration,
  and refused for the reason that it cannot.

Design notes: a section has its own defaults for its settings, `Config.unsaid`, and the document
has defaults for its sections, `Config.standard`. That they agree is a property of the defaults,
and because of it a setting may be left out in either way.
-/
import Telemetry.Proofs.Config.Reading

namespace Telemetry.Config

/-- Sections, and settings with the sections that they are in. -/
structure Omission where
  sections : List String
  settings : List (String × String)

/-- The entries of a table whose names are kept. -/
def keptEntries (keep : String → Bool) (entries : List (String × Tree)) : List (String × Tree) :=
  entries.filter fun e => keep e.1

@[simp]
theorem keptEntries_nil (keep : String → Bool) : keptEntries keep [] = [] := rfl

namespace Omission

/-- Nothing at all. -/
def nothing : Omission := ⟨[], []⟩

/-- What is left of a section. -/
def eraseSettings (o : Omission) (title : String) : Tree → Tree
  | .table entries => .table (keptEntries (fun name => (title, name) ∉ o.settings) entries)
  | v => v

/-- What is left of a document. -/
def erase (o : Omission) : Tree → Tree
  | .table entries =>
    .table (keptEntries (fun title => title ∉ o.sections)
      (entries.map fun e => (e.1, o.eraseSettings e.1 e.2)))
  | v => v

/-- The settings of a section that may be left out as a whole. -/
def ofSection {σ : Type} (o : Omission) (title : String) (defaults kept : σ) : σ :=
  if title ∈ o.sections then defaults else kept

/-- A setting of a section that may be left out. -/
def ofSetting {α : Type} (o : Omission) (title name : String) (default kept : α) : α :=
  if (title, name) ∈ o.settings then default else kept

/-- The settings of the sampler with the defaults for those that are left out. -/
def resetSampling (o : Omission) (s : Sampling) : Sampling where
  periodMs := o.ofSetting "sampling" "period_ms" standard.sampling.periodMs s.periodMs
  waveform := o.ofSetting "sampling" "waveform" standard.sampling.waveform s.waveform

/-- The settings of the transform stage with the defaults for those that are left out. -/
def resetTransform (o : Omission) (s : Transform) : Transform where
  script := o.ofSetting "transform" "script" standard.transform.script s.script

/-- The settings of the transmitter with the defaults for those that are left out. -/
def resetNetwork (o : Omission) (s : Network) : Network where
  localIp := o.ofSetting "network" "local_ip" standard.network.localIp s.localIp
  destination := o.ofSetting "network" "destination" standard.network.destination s.destination
  port := o.ofSetting "network" "port" standard.network.port s.port
  readyPollMs := o.ofSetting "network" "ready_poll_ms" standard.network.readyPollMs s.readyPollMs

/-- The settings of the monitor with the defaults for those that are left out. -/
def resetMonitor (o : Omission) (s : Monitor) : Monitor where
  periodMs := o.ofSetting "monitor" "period_ms" standard.monitor.periodMs s.periodMs
  stackBudgets :=
    o.ofSetting "monitor" "stack_budgets" standard.monitor.stackBudgets s.stackBudgets

/-- The settings of the log with the defaults for those that are left out. -/
def resetLogging (o : Omission) (s : Logging) : Logging where
  file := o.ofSetting "logging" "file" standard.logging.file s.file

/-- The configuration with the defaults for everything that is left out. -/
def reset (o : Omission) (c : Config) : Config where
  sampling := o.ofSection "sampling" standard.sampling (o.resetSampling c.sampling)
  transform := o.ofSection "transform" standard.transform (o.resetTransform c.transform)
  network := o.ofSection "network" standard.network (o.resetNetwork c.network)
  monitor := o.ofSection "monitor" standard.monitor (o.resetMonitor c.monitor)
  logging := o.ofSection "logging" standard.logging (o.resetLogging c.logging)

end Omission

/-! ### Tables -/

/-- The two kinds of defaults agree. -/
theorem unsaid_eq_standard : unsaid = standard := rfl

section

variable {σ α : Type} {settings : List (Setting σ)} {name : String}

/-- An entry that is kept is read, and where it is deleted the setting keeps its default. -/
theorem byName_keptEntries {read : Tree → Except Mismatch α} {put : α → σ → σ} {v : Tree} {s : σ}
    {default a : α}
    (hfind : settings.find? (fun f => f.name == name) = some (.reading name read put))
    (hread : read v = .ok a) (hdefault : put default s = s) (keep : String → Bool)
    (rest : List (String × Tree)) :
    byName settings s (keptEntries keep ((name, v) :: rest)) =
      byName settings (put (if keep name then a else default) s) (keptEntries keep rest) := by
  rw [keptEntries, List.filter_cons]
  split
  · rw [byName]
    simp only [hfind, Setting.reading, hread]
    rfl
  · rw [hdefault]
    rfl

/-- A text that may be absent is read, and where it is deleted there is none. -/
theorem byName_optional {expected : String} {put : Option String → σ → σ} {s : σ}
    (hfind : settings.find? (fun f => f.name == name) =
      some (.reading name (optionalText expected) put))
    (hdefault : put none s = s) (keep : String → Bool) (t : Option String) :
    byName settings s (keptEntries keep (optional name t)) =
      .ok (put (if keep name then t else none) s) := by
  cases t with
  | none =>
    rw [ite_self, hdefault]
    rfl
  | some t =>
    rw [optional, byName_keptEntries hfind (optionalText_text expected t) hdefault]
    rfl

end

/-! ### Sections -/

variable (o : Omission) (d : Dialect)

theorem readSection_sampling (s : Sampling) :
    readSection d "SamplingSettings" (samplingSettings d) unsaid.sampling
      (o.eraseSettings "sampling" (samplingTree s)) = .ok (o.resetSampling s) := by
  have hperiod : (samplingSettings d).find? (fun f => f.name == "period_ms") =
      some (.reading "period_ms" word64 fun p s => { s with periodMs := p }) := by
    simp [samplingSettings, Setting.reading]
  have hwaveform : (samplingSettings d).find? (fun f => f.name == "waveform") =
      some (.reading "waveform" (waveform d) fun w s => { s with waveform := w }) := by
    simp [samplingSettings, Setting.reading]
  rw [unsaid_eq_standard, samplingTree, Omission.eraseSettings, readSection,
    byName_keptEntries hperiod (word64_int _) rfl,
    byName_keptEntries hwaveform (waveform_waveformTree d _) rfl]
  simp [byName, Omission.resetSampling, Omission.ofSetting, standard, Sampling.standard]

theorem readSection_transform (s : Transform) :
    readSection d "TransformSettings" transformSettings unsaid.transform
      (o.eraseSettings "transform" (transformTree s)) = .ok (o.resetTransform s) := by
  have hscript : transformSettings.find? (fun f => f.name == "script") =
      some (.reading "script" (optionalText "a string") fun t s => { s with script := t }) := by
    simp [transformSettings, Setting.reading]
  rw [unsaid_eq_standard, transformTree, Omission.eraseSettings, readSection,
    byName_optional (s := standard.transform) hscript rfl]
  simp [Omission.resetTransform, Omission.ofSetting, standard, Transform.standard]

theorem readSection_network (s : Network) :
    readSection d "NetworkSettings" networkSettings unsaid.network
      (o.eraseSettings "network" (networkTree s)) = .ok (o.resetNetwork s) := by
  have hlocal : networkSettings.find? (fun f => f.name == "local_ip") =
      some (.reading "local_ip" address fun ip s => { s with localIp := ip }) := by
    simp [networkSettings, Setting.reading]
  have hdestination : networkSettings.find? (fun f => f.name == "destination") =
      some (.reading "destination" target fun t s => { s with destination := t }) := by
    simp [networkSettings, Setting.reading]
  have hport : networkSettings.find? (fun f => f.name == "port") =
      some (.reading "port" word16 fun p s => { s with port := p }) := by
    simp [networkSettings, Setting.reading]
  have hpoll : networkSettings.find? (fun f => f.name == "ready_poll_ms") =
      some (.reading "ready_poll_ms" word64 fun p s => { s with readyPollMs := p }) := by
    simp [networkSettings, Setting.reading]
  rw [unsaid_eq_standard, networkTree, Omission.eraseSettings, readSection,
    byName_keptEntries hlocal (address_text _) rfl,
    byName_keptEntries hdestination (target_text _) rfl,
    byName_keptEntries hport (word16_int _) rfl, byName_keptEntries hpoll (word64_int _) rfl]
  simp [byName, Omission.resetNetwork, Omission.ofSetting, standard, Network.standard]

theorem readSection_monitor (s : Monitor) {listing : List (String × UInt64)}
    (hlisting : listing.Perm s.stackBudgets.entries) :
    readSection d "MonitorSettings" monitorSettings unsaid.monitor
      (o.eraseSettings "monitor" (monitorTree s listing)) = .ok (o.resetMonitor s) := by
  have hperiod : monitorSettings.find? (fun f => f.name == "period_ms") =
      some (.reading "period_ms" word64 fun p s => { s with periodMs := p }) := by
    simp [monitorSettings, Setting.reading]
  have hbudgets : monitorSettings.find? (fun f => f.name == "stack_budgets") =
      some (.reading "stack_budgets" budgets fun o s => { s with stackBudgets := o }) := by
    simp [monitorSettings, Setting.reading]
  rw [unsaid_eq_standard, monitorTree, Omission.eraseSettings, readSection,
    byName_keptEntries hperiod (word64_int _) rfl]
  cases listing with
  | nil =>
    -- no entry stands for no overrides
    have hempty : s.stackBudgets = .empty := BudgetOverrides.ext_entries hlisting.symm.eq_nil
    simp [budgetsEntries, byName, Omission.resetMonitor, Omission.ofSetting, standard,
      Monitor.standard, hempty]
  | cons p rest =>
    have hentries : budgetsEntries (p :: rest) =
        [("stack_budgets",
          .table ((p :: rest).map fun p => (p.1, .int (Int.ofNat p.2.toNat))))] := rfl
    rw [hentries, byName_keptEntries hbudgets (budgets_listing hlisting) rfl]
    simp [byName, Omission.resetMonitor, Omission.ofSetting, standard, Monitor.standard]

theorem readSection_logging (s : Logging) :
    readSection d "LoggingSettings" loggingSettings unsaid.logging
      (o.eraseSettings "logging" (loggingTree s)) = .ok (o.resetLogging s) := by
  have hfile : loggingSettings.find? (fun f => f.name == "file") =
      some (.reading "file" (optionalText "path string") fun t s => { s with file := t }) := by
    simp [loggingSettings, Setting.reading]
  rw [unsaid_eq_standard, loggingTree, Omission.eraseSettings, readSection,
    byName_optional (s := standard.logging) hfile rfl]
  simp [Omission.resetLogging, Omission.ofSetting, standard, Logging.standard]

/-! ### Documents -/

/-- What is left of a document is read as the configuration that is reset. -/
theorem ofDocument_erase (c : Config) {listing : List (String × UInt64)}
    (hlisting : listing.Perm c.monitor.stackBudgets.entries) :
    ofDocument d (o.erase (c.documentListing listing)) = .ok (o.reset c) := by
  have hsampling : (sections d).find? (fun f => f.name == "sampling") =
      some (.reading "sampling"
        (readSection d "SamplingSettings" (samplingSettings d) unsaid.sampling)
        fun s c => { c with sampling := s }) := by
    simp [sections, Setting.reading]
  have htransform : (sections d).find? (fun f => f.name == "transform") =
      some (.reading "transform"
        (readSection d "TransformSettings" transformSettings unsaid.transform)
        fun s c => { c with transform := s }) := by
    simp [sections, Setting.reading]
  have hnetwork : (sections d).find? (fun f => f.name == "network") =
      some (.reading "network" (readSection d "NetworkSettings" networkSettings unsaid.network)
        fun s c => { c with network := s }) := by
    simp [sections, Setting.reading]
  have hmonitor : (sections d).find? (fun f => f.name == "monitor") =
      some (.reading "monitor" (readSection d "MonitorSettings" monitorSettings unsaid.monitor)
        fun s c => { c with monitor := s }) := by
    simp [sections, Setting.reading]
  have hlogging : (sections d).find? (fun f => f.name == "logging") =
      some (.reading "logging" (readSection d "LoggingSettings" loggingSettings unsaid.logging)
        fun s c => { c with logging := s }) := by
    simp [sections, Setting.reading]
  simp only [documentListing, Omission.erase, List.map_cons, List.map_nil]
  rw [ofDocument, readSection,
    byName_keptEntries hsampling (readSection_sampling o d c.sampling) rfl,
    byName_keptEntries htransform (readSection_transform o d c.transform) rfl,
    byName_keptEntries hnetwork (readSection_network o d c.network) rfl,
    byName_keptEntries hmonitor (readSection_monitor o d c.monitor hlisting) rfl,
    byName_keptEntries hlogging (readSection_logging o d c.logging) rfl]
  simp [byName, Omission.reset, Omission.ofSection, standard]

/-- Where nothing is left out, all of a document is left. -/
theorem erase_nothing (c : Config) (listing : List (String × UInt64)) :
    Omission.nothing.erase (c.documentListing listing) = c.documentListing listing := by
  simp [documentListing, samplingTree, transformTree, networkTree, monitorTree, loggingTree,
    Omission.erase, Omission.eraseSettings, Omission.nothing, keptEntries]

theorem reset_nothing (c : Config) : Omission.nothing.reset c = c := by
  simp [Omission.reset, Omission.resetSampling, Omission.resetTransform, Omission.resetNetwork,
    Omission.resetMonitor, Omission.resetLogging, Omission.ofSection, Omission.ofSetting,
    Omission.nothing]

/-! ### Acceptance -/

/-- What is left of a document is accepted if the program can work with the configuration that
is reset, and otherwise refused for the reason that it cannot. -/
theorem accept_erase (c : Config) {listing : List (String × UInt64)}
    (hlisting : listing.Perm c.monitor.stackBudgets.entries) :
    accept (o.erase (c.documentListing listing)) =
      (o.reset c).validate.map fun _ => o.reset c := by
  simp only [accept, ofDocument_erase o .toml c hlisting]
  cases (o.reset c).validate <;> rfl

end Telemetry.Config
