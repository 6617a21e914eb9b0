import Telemetry.Binary64
import Telemetry.Channel
import Telemetry.CommandLine
import Telemetry.Config.Destination
import Telemetry.Config.Document
import Telemetry.Config.File
import Telemetry.Config.Settings
import Telemetry.Config.Text
import Telemetry.Error
import Telemetry.Files
import Telemetry.Law
import Telemetry.Main
import Telemetry.Monitor
import Telemetry.Monitor.Budgets
import Telemetry.Monitor.Hosted
import Telemetry.Monitor.Record
import Telemetry.Monitor.Registry
import Telemetry.Monitor.Scheduler
import Telemetry.Net.Address
import Telemetry.Net.Dialogue
import Telemetry.Net.Stack
import Telemetry.Notice
import Telemetry.Path
import Telemetry.Pipeline
import Telemetry.Program
import Telemetry.Proofs.Pipeline.Setup
import Telemetry.Proofs.Pipeline.Tap
import Telemetry.Proofs.Stage.Outcome
import Telemetry.Proofs.Wire.Message
import Telemetry.Script.Arith
import Telemetry.Script.Eval
import Telemetry.Script.Lexer
import Telemetry.Script.Library
import Telemetry.Script.Parser
import Telemetry.Script.Program
import Telemetry.Script.Simplify
import Telemetry.Script.Value
import Telemetry.Service
import Telemetry.Signal
import Telemetry.Stage.Sampler
import Telemetry.Stage.Transform
import Telemetry.Stage.Transmitter
import Telemetry.Task.Busy
import Telemetry.Task.Kind
import Telemetry.Task.Status
import Telemetry.Task.Table
import Telemetry.Text.Blank
import Telemetry.Text.Decimal
import Telemetry.Text.Digit
import Telemetry.Text.Hex
import Telemetry.Text.Quoted
import Telemetry.Text.Unseen
import Telemetry.Time
import Telemetry.Timer
import Telemetry.Toml.Draft
import Telemetry.Toml.Number
import Telemetry.Toml.Printer
import Telemetry.Toml.Quote
import Telemetry.Toml.Reader
import Telemetry.Tree
import Telemetry.Waveform
import Telemetry.Wire.Listener
import Telemetry.Wire.Message
import Telemetry.Wire.Sequence
import Telemetry.Wire.Word
import Telemetry.Proofs.Pipeline.Delivery
import Telemetry.Proofs.Pipeline.Life
import Telemetry.Proofs.Pipeline.Conservation
import Telemetry.Proofs.Registry.Arena
import Telemetry.Proofs.Registry.History
import Telemetry.Proofs.Stage.Transmission
import Telemetry.Proofs.Wire.Format
import Telemetry.Proofs.Pipeline.Staged
import Telemetry.Proofs.Wire.Losses
import Telemetry.Proofs.Stage.Loop
import Telemetry.Proofs.Pipeline.Confluence
import Telemetry.Proofs.Monitor.Scripted
import Telemetry.Proofs.Registry.Shares
import Telemetry.Proofs.Monitor.Watch
import Telemetry.Proofs.Monitor.Poll
import Telemetry.Proofs.Net.Address
import Telemetry.Proofs.Config.Reading
import Telemetry.Proofs.Config.Omission
import Telemetry.Proofs.Toml.Quoted
import Telemetry.Proofs.Toml.Numbers
import Telemetry.Proofs.Toml.Lines
import Telemetry.Proofs.Toml.Drafts
import Telemetry.Proofs.Toml.Document
import Telemetry.Proofs.Config.Dump
import Telemetry.Proofs.Channel.Usage
import Telemetry.Proofs.Registry.Reordering
import Telemetry.Proofs.Pipeline.Fates
import Telemetry.Proofs.Registry.Reconciliation
import Telemetry.Proofs.Registry.Offences
import Telemetry.Proofs.Wire.Listening
import Telemetry.Proofs.Stage.Lifecycle
import Telemetry.Proofs.Stage.Isolation
import Telemetry.Proofs.Stage.Deadlines
import Telemetry.Proofs.Stage.Numbering
import Telemetry.Proofs.Task.Roster
import Telemetry.Proofs.Task.Identities
import Telemetry.Proofs.Script.Formula
import Telemetry.Proofs.Script.Evaluation
import Telemetry.Proofs.Script.Grammar
import Telemetry.Proofs.Script.Laws
import Telemetry.Proofs.Task.Busy
import Telemetry.Proofs.Task.Timesheet
import Telemetry.Proofs.Task.Runtimes
import Telemetry.Proofs.Monitor.Percentage
import Telemetry.Proofs.Wire.Segments
