/-
The errors of the pipeline, as causes, and their text.

* `PipelineError` — what one stage can meet; none of them stops the program;
* `MonitorError` — the system is not the one the monitor was set up for; each of
  them stops the program;
* `OsError`, `ExchangeError` — why an exchange with the outside failed;
* `Error` — any of them where it crosses from one part to another, possibly inside
  contexts that say what was being done.

Design notes: the texts are in one function for each type, and the chain of causes
of an error is a list, so a report is the first text and the chain is the rest.
-/
import Telemetry.Time
import Telemetry.Wire.Message
import Telemetry.Net.Address
import Telemetry.Task.Status

namespace Telemetry

/-- What a stage of the pipeline can meet. -/
inductive PipelineError where
  | channelFull (channel : String)
  | channelClosed (channel : String)
  | deadlineMissed (late : Duration)
  | transmitFailed (reason : String)
  | controlLaw (reason : String)
deriving DecidableEq

/-- The text of a stage's error. -/
def PipelineError.message : PipelineError → String
  | .channelFull c => "Channel " ++ c ++ " is full, item dropped"
  | .channelClosed c => "Channel " ++ c ++ " is closed"
  | .deadlineMissed late => "Deadline missed by " ++ Duration.text late
  | .transmitFailed r => "Transmit failed: " ++ r
  | .controlLaw r => "Control law error: " ++ r

/-- How the tasks of a system can differ from those the monitor knows. -/
inductive MonitorError where
  | capacityExceeded (observed capacity : Nat)
  | unconfigured (id : TaskId) (name : String)
deriving DecidableEq

/-- The text of a monitor's error. -/
def MonitorError.message : MonitorError → String
  | .capacityExceeded observed capacity =>
    toString observed ++ " tasks exceed the stats registry capacity of " ++ toString capacity
  | .unconfigured id name =>
    "No stack budget configured for task '" ++ name ++ "' (" ++ id.text ++ ")"

/-- Whether a monitor's error must stop the program. -/
def MonitorError.isFatal : MonitorError → Bool
  | .capacityExceeded .. => true
  | .unconfigured .. => true

/-- The answers of the operating system that the pipeline reports. -/
inductive OsError where
  | noSuchFile
  | notADirectory
  | isADirectory
  | fileExists
  | invalidArgument
  | familyNotSupported
  | addressNotAvailable
  | networkUnreachable
deriving DecidableEq

namespace OsError

/-- What an answer of the operating system says. -/
def text : OsError → String
  | .noSuchFile => "No such file or directory"
  | .fileExists => "File exists"
  | .notADirectory => "Not a directory"
  | .isADirectory => "Is a directory"
  | .invalidArgument => "Invalid argument"
  | .familyNotSupported => "Address family not supported by protocol"
  | .addressNotAvailable => "Cannot assign requested address"
  | .networkUnreachable => "Network is unreachable"

/-- The number of an answer of the operating system. -/
def number : OsError → Nat
  | .noSuchFile => 2
  | .fileExists => 17
  | .notADirectory => 20
  | .isADirectory => 21
  | .invalidArgument => 22
  | .familyNotSupported => 97
  | .addressNotAvailable => 99
  | .networkUnreachable => 101

/-- Every answer. -/
def all : List OsError :=
  [.noSuchFile, .fileExists, .notADirectory, .isADirectory, .invalidArgument,
    .familyNotSupported, .addressNotAvailable, .networkUnreachable]

/-- The answer of a number. -/
def ofNumber? (n : Nat) : Option OsError := all.find? (·.number = n)

/-- The text and number of an answer of the operating system. -/
def message (e : OsError) : String := e.text ++ " (os error " ++ toString e.number ++ ")"

end OsError

/-- Why an exchange with the outside failed. -/
inductive ExchangeError where
  | os (e : OsError)
  | zeroTimeout
  | notUtf8
  | scripted (attempt : Nat)
  | stated (text : String)
deriving DecidableEq

/-- The text of a failed exchange. -/
def ExchangeError.message : ExchangeError → String
  | .os e => e.message
  | .zeroTimeout => "cannot set a 0 duration timeout"
  | .notUtf8 => "stream did not contain valid UTF-8"
  | .scripted n => "mock send failure on attempt " ++ toString n
  | .stated t => t

/-- Any error of the program. -/
inductive Error where
  | pipeline (e : PipelineError)
  | monitor (e : MonitorError)
  | wire (e : Malformed)
  | script (reason : String)
  | config (reason : String)
  | network (reason : String)
  | task (reason : String)
  | exchange (e : ExchangeError)
  | context (doing : String) (source : Error)
deriving DecidableEq

namespace Error

/-- The text of an error. -/
def message : Error → String
  | .pipeline e => "Pipeline error: " ++ e.message
  | .monitor e => "Monitor error: " ++ e.message
  | .wire e => "Wire error: " ++ e.message
  | .script r => "Script error: " ++ r
  | .config r => "Configuration error: " ++ r
  | .network r => "Network error: " ++ r
  | .task r => "Task error: " ++ r
  | .exchange e => "IO error: " ++ e.message
  | .context doing source => doing ++ ": " ++ source.message

/-- The texts of the causes of an error, the nearest first. -/
def causes : Error → List String
  | .pipeline e => [e.message]
  | .monitor e => [e.message]
  | .wire e => [e.message]
  | .exchange e => [e.message]
  | .context _ source => source.message :: source.causes
  | _ => []

/-- Whether an error must stop the program. -/
def isFatal : Error → Bool
  | .monitor e => e.isFatal
  | .context _ source => source.isFatal
  | _ => false

/-- An error inside the contexts `contexts`, the first of them innermost. -/
def inContexts (e : Error) (contexts : List String) : Error :=
  contexts.foldl (fun source doing => .context doing source) e

end Error

end Telemetry
