/-
Configurations as documents.

* `Config.documentListing` — the tree of a configuration: a table for each section, in which a
  setting that is absent has no entry; `Config.document` lists the budgets by name;
* `Config.ofDocument` — the configuration of a tree; a section that is absent is the standard
  one, and `Config.unsaid` has the settings that a section does not say;
* `Mismatch` — why a tree is no configuration;
* `Config.accept` — a configuration that the program can work with, from a tree.

Design notes: both directions go through trees, so that what they have in common does not depend
on how a tree is written down. Two notations differ in details: how the choice of a waveform is
judged, and whether a section written as a list may be too long.
-/
import Telemetry.Config.Settings
import Telemetry.Tree

namespace Telemetry

/-- The notation that a tree was written in. -/
inductive Dialect where
  | toml
  | json
deriving DecidableEq

/-- Why a tree is no configuration. -/
inductive Mismatch where
  | wrongType (found expected : String)
  | outOfRange (found : String) (expected : String)
  | tooManyItems (count : Nat)
  | unknownWaveform (name : String)
  | waveformCount (found : String)
  | waveformShape
  | waveformKeys
  | samplesMissing
  | notEmpty (kind : String)
  | notATable (kind : String)
  | addressSyntax
  | destinationSyntax (text : String)
deriving DecidableEq

/-- What is said of a tree that is no configuration. -/
def Mismatch.message : Mismatch → String
  | .wrongType found expected => "invalid type: " ++ found ++ ", expected " ++ expected
  | .outOfRange found expected => "invalid value: " ++ found ++ ", expected " ++ expected
  | .tooManyItems n => "invalid length " ++ toString n ++ ", expected fewer elements in array"
  | .unknownWaveform name =>
    "unknown variant " ++ Tree.literal name ++ ", expected " ++ Tree.literal "sine" ++ " or " ++
      Tree.literal "samples"
  | .waveformCount found => "wanted exactly 1 element, " ++ found
  | .waveformShape => "wanted string or table"
  | .waveformKeys => "invalid value: map, expected map with a single key"
  | .samplesMissing => "invalid type: unit variant, expected newtype variant"
  | .notEmpty kind => "expected empty " ++ kind
  | .notATable kind => "expected table, found " ++ kind
  | .addressSyntax => IpAddr.syntaxRefusal
  | .destinationSyntax text => Destination.refusal text

namespace Config

/-- A waveform as a tree. -/
def waveformTree : WaveformSource → Tree
  | .sine => .text "sine"
  | .samples entries => .table [("samples", .list (entries.map fun s => .int s.toInt))]

/-- A text that may be absent, as entries of a table. -/
def optional (name : String) : Option String → List (String × Tree)
  | none => []
  | some s => [(name, .text s)]

/-- The entries of a listing of stack budgets, unless there are none. -/
def budgetsEntries (listing : List (String × UInt64)) : List (String × Tree) :=
  if listing.isEmpty then []
  else [("stack_budgets", .table (listing.map fun p => (p.1, .int (Int.ofNat p.2.toNat))))]

/-- The settings of the sampler as a tree. -/
def samplingTree (s : Sampling) : Tree :=
  .table
    [("period_ms", .int (Int.ofNat s.periodMs.toNat)), ("waveform", waveformTree s.waveform)]

/-- The settings of the transform stage as a tree. -/
def transformTree (s : Transform) : Tree := .table (optional "script" s.script)

/-- The settings of the transmitter as a tree. -/
def networkTree (s : Network) : Tree :=
  .table
    [("local_ip", .text s.localIp.text), ("destination", .text s.destination.text),
      ("port", .int (Int.ofNat s.port.toNat)),
      ("ready_poll_ms", .int (Int.ofNat s.readyPollMs.toNat))]

/-- The settings of the monitor as a tree with the stack budgets in the order of a listing. -/
def monitorTree (s : Monitor) (listing : List (String × UInt64)) : Tree :=
  .table (("period_ms", .int (Int.ofNat s.periodMs.toNat)) :: budgetsEntries listing)

/-- The settings of the log as a tree. -/
def loggingTree (s : Logging) : Tree := .table (optional "file" s.file)

/-- The tree of a configuration with its stack budgets in the order of a listing. -/
def documentListing (c : Config) (listing : List (String × UInt64)) : Tree :=
  .table
    [("sampling", samplingTree c.sampling), ("transform", transformTree c.transform),
      ("network", networkTree c.network), ("monitor", monitorTree c.monitor listing),
      ("logging", loggingTree c.logging)]

/-- The tree of a configuration, its stack budgets in the order of their names. -/
def document (c : Config) : Tree := c.documentListing c.monitor.stackBudgets.entries

/-- A natural number below `bound`. -/
def natural (bound : Nat) (expected : String) : Tree → Except Mismatch Nat
  | .int i =>
    if 0 ≤ i ∧ i < bound then .ok i.toNat
    else .error (.outOfRange (Tree.int i).found expected)
  | v => .error (.wrongType v.found expected)

/-- A word of sixty-four bits. -/
def word64 (v : Tree) : Except Mismatch UInt64 := (natural UInt64.size "u64" v).map UInt64.ofNat

/-- A word of sixteen bits. -/
def word16 (v : Tree) : Except Mismatch UInt16 := (natural UInt16.size "u16" v).map UInt16.ofNat

/-- A size in bytes. -/
def size (v : Tree) : Except Mismatch UInt64 := (natural UInt64.size "usize" v).map UInt64.ofNat

/-- A sample. -/
def sample : Tree → Except Mismatch Sample
  | .int i =>
    if -32768 ≤ i ∧ i < 32768 then .ok (Int16.ofInt i)
    else .error (.outOfRange (Tree.int i).found "i16")
  | v => .error (.wrongType v.found "i16")

/-- A text. -/
def text (expected : String) : Tree → Except Mismatch String
  | .text s => .ok s
  | v => .error (.wrongType v.found expected)

/-- A text that may be absent. -/
def optionalText (expected : String) : Tree → Except Mismatch (Option String)
  | .null => .ok none
  | v => (text expected v).map some

/-- An address. -/
def address (v : Tree) : Except Mismatch IpAddr := do
  match IpAddr.parse? (← text "IP address" v) with
  | some ip => return ip
  | none => throw .addressSyntax

/-- A destination. -/
def target (v : Tree) : Except Mismatch Destination := do
  let s ← text "a string" v
  match Destination.ofText? s with
  | some d => return d
  | none => throw (.destinationSyntax s)

/-- The samples of a waveform. -/
def samples : Tree → Except Mismatch WaveformSource
  | .list items => (items.mapM sample).map .samples
  | v => .error (.wrongType v.found "a sequence")

/-- The kind of a single value. -/
def kindName : Tree → String
  | .bool _ => "boolean"
  | .int _ => "integer"
  | .float _ => "float"
  | .moment _ => "datetime"
  | _ => "string"

/-- Whether a tree stands for nothing, as what is written beside the name of a waveform that
takes nothing. -/
def nothing : Dialect → Tree → Except Mismatch Unit
  | .toml, .list [] => .ok ()
  | .toml, .table [] => .ok ()
  | .toml, .list _ => .error (.notEmpty "array")
  | .toml, .table _ => .error (.notEmpty "table")
  | .toml, v => .error (.notATable (kindName v))
  | .json, .null => .ok ()
  | .json, v => .error (.wrongType v.found "unit")

/-- The waveform of a name. -/
def namedWaveform (name : String) : Except Mismatch WaveformSource :=
  if name = "sine" then .ok .sine
  else if name = "samples" then .error .samplesMissing
  else .error (.unknownWaveform name)

/-- The waveform of a name with a tree beside it. -/
def waveformWith (d : Dialect) (name : String) (v : Tree) : Except Mismatch WaveformSource :=
  if name = "sine" then (nothing d v).map fun _ => .sine
  else if name = "samples" then samples v
  else .error (.unknownWaveform name)

/-- A waveform: a name, or a table of one name. -/
def waveform : Dialect → Tree → Except Mismatch WaveformSource
  | _, .text name => namedWaveform name
  | d, .table [(name, v)] => waveformWith d name v
  | .toml, .table [] => .error (.waveformCount "found 0 elements")
  | .toml, .table _ => .error (.waveformCount "more than 1 element")
  | .toml, _ => .error .waveformShape
  | .json, .table _ => .error .waveformKeys
  | .json, v => .error (.wrongType v.found "string or map")

/-- Overrides of stack budgets, one entry after the other. -/
def budgetsFrom : BudgetOverrides → List (String × Tree) → Except Mismatch BudgetOverrides
  | o, [] => .ok o
  | o, (name, v) :: rest => do budgetsFrom (o.insert name (← size v)) rest

/-- Overrides of stack budgets. A point in time is a table of its text. -/
def budgets : Tree → Except Mismatch BudgetOverrides
  | .table entries => budgetsFrom .empty entries
  | .moment s => .error (.wrongType (Tree.text s).found "usize")
  | v => .error (.wrongType v.found "a map")

/-- A setting of a section: its name, and what a tree does to the section. -/
structure Setting (σ : Type) where
  name : String
  assign : Tree → σ → Except Mismatch σ

/-- The setting that a tree is read for and then put into the section. -/
def Setting.reading {σ α : Type} (name : String) (read : Tree → Except Mismatch α)
    (put : α → σ → σ) : Setting σ :=
  ⟨name, fun v s => do return put (← read v) s⟩

/-- Settings by name, one after the other; unknown names say nothing. -/
def byName {σ : Type} (settings : List (Setting σ)) : σ → List (String × Tree) → Except Mismatch σ
  | s, [] => .ok s
  | s, (name, v) :: rest =>
    match settings.find? fun f => f.name == name with
    | none => byName settings s rest
    | some f => do byName settings (← f.assign v s) rest

/-- Settings by position, as far as there are trees. -/
def byPosition {σ : Type} : List (Setting σ) → σ → List Tree → Except Mismatch σ
  | f :: settings, s, v :: rest => do byPosition settings (← f.assign v s) rest
  | _, s, _ => .ok s

/-- A section: a table with settings by name, or a list with settings by position. A point in
time is a table without any of the names. -/
def readSection {σ : Type} (d : Dialect) (title : String) (settings : List (Setting σ))
    (defaults : σ) : Tree → Except Mismatch σ
  | .table entries => byName settings defaults entries
  | .moment _ => .ok defaults
  | .list items =>
    match byPosition settings defaults items with
    | .error m => .error m
    | .ok s =>
      if d = .json ∧ settings.length < items.length then .error (.tooManyItems items.length)
      else .ok s
  | v => .error (.wrongType v.found ("struct " ++ title))

/-- The settings of the sampler. -/
def samplingSettings (d : Dialect) : List (Setting Sampling) :=
  [.reading "period_ms" word64 fun p s => { s with periodMs := p },
    .reading "waveform" (waveform d) fun w s => { s with waveform := w }]

/-- The settings of the transform stage. -/
def transformSettings : List (Setting Transform) :=
  [.reading "script" (optionalText "a string") fun t s => { s with script := t }]

/-- The settings of the transmitter. -/
def networkSettings : List (Setting Network) :=
  [.reading "local_ip" address fun ip s => { s with localIp := ip },
    .reading "destination" target fun t s => { s with destination := t },
    .reading "port" word16 fun p s => { s with port := p },
    .reading "ready_poll_ms" word64 fun p s => { s with readyPollMs := p }]

/-- The settings of the monitor. -/
def monitorSettings : List (Setting Monitor) :=
  [.reading "period_ms" word64 fun p s => { s with periodMs := p },
    .reading "stack_budgets" budgets fun o s => { s with stackBudgets := o }]

/-- The settings of the log. -/
def loggingSettings : List (Setting Logging) :=
  [.reading "file" (optionalText "path string") fun t s => { s with file := t }]

/-- What a section that is there has for each of its settings that it does not say. -/
def unsaid : Config where
  sampling := { periodMs := standardSamplePeriodMs, waveform := .standard }
  transform := { script := none }
  network :=
    { localIp := standardLocalIp, destination := .standard, port := standardPort,
      readyPollMs := standardReadyPollMs }
  monitor := { periodMs := standardMonitorPeriodMs, stackBudgets := .empty }
  logging := { file := none }

/-- The sections of a configuration. -/
def sections (d : Dialect) : List (Setting Config) :=
  [.reading "sampling" (readSection d "SamplingSettings" (samplingSettings d) unsaid.sampling)
      fun s c => { c with sampling := s },
    .reading "transform" (readSection d "TransformSettings" transformSettings unsaid.transform)
      fun s c => { c with transform := s },
    .reading "network" (readSection d "NetworkSettings" networkSettings unsaid.network)
      fun s c => { c with network := s },
    .reading "monitor" (readSection d "MonitorSettings" monitorSettings unsaid.monitor)
      fun s c => { c with monitor := s },
    .reading "logging" (readSection d "LoggingSettings" loggingSettings unsaid.logging)
      fun s c => { c with logging := s }]

/-- The configuration of a tree. -/
def ofDocument (d : Dialect) : Tree → Except Mismatch Config :=
  readSection d "AppConfig" (sections d) .standard

/-- The configuration of a tree, if the program can work with it. -/
def accept (v : Tree) : Except Error Config :=
  match ofDocument .toml v with
  | .error m => .error (.config ("TOML value error: " ++ m.message))
  | .ok c =>
    match c.validate with
    | .error e => .error e
    | .ok () => .ok c

end Config

end Telemetry
