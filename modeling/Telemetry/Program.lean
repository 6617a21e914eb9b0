/-
What the program does with a request, up to where it begins to wait for the world.

* `Program.prepare` — loads the configuration and gives the plan of a command;
* `Program.launch` — starts the pipeline of a plan on a network;
* `Failure.report` — what is said when the program cannot go on.
-/
import Telemetry.CommandLine
import Telemetry.Config.File
import Telemetry.Service

namespace Telemetry

/-- Why the program cannot go on: what it was doing, and the causes, the nearest first. -/
structure Failure where
  doing : String
  causes : List String := []
deriving DecidableEq

/-- Texts on lines of their own, numbered if there are several. -/
def Failure.lines : List String → List String
  | [] => []
  | [cause] => ["    " ++ cause]
  | causes => causes.zipIdx.map fun (cause, i) => "    " ++ toString i ++ ": " ++ cause

/-- What is said when the program cannot go on. -/
def Failure.report (f : Failure) : String :=
  let causes := if f.causes.isEmpty then [] else ["", "Caused by:"] ++ lines f.causes
  String.join ((("Error: " ++ f.doing) :: causes).map (· ++ "\n"))

/-- An error as a failure. -/
def Failure.ofError (e : Error) : Failure := ⟨e.message, e.causes⟩

/-- An error that was met while something was being done. -/
def Failure.during (doing : String) (e : Error) : Failure := ⟨doing, e.message :: e.causes⟩

/-- What is left to do for a command. -/
inductive Plan where
  | print (text : String)
  | run (c : Config)
  | listen (bind : SocketAddr) (asJson : Bool) (count : Option Nat)

namespace Program

variable {m : Type → Type} [Monad m] [FileStore m]

/-- Makes the folder of the log file. -/
def prepareLog (l : Config.Logging) : m (Except Failure Unit) := do
  match l.file with
  | none => return .ok ()
  | some path =>
    match Path.fileName? path with
    | none => return .error ⟨"logging.file has no file name", []⟩
    | some _ =>
      let parent := (Path.parent? path).getD ""
      let folder := if parent = "" then "." else parent
      match ← FileStore.makeFolders folder with
      | .ok () => return .ok ()
      | .error e => return .error ⟨"Failed to create log directory " ++ folder, [e.message]⟩

/-- What is left to do for a command with a configuration. -/
def plan (c : Config) : Job → m (Except Failure Plan)
  | .run => do return (← prepareLog c.logging).map fun _ => .run c
  | .listen bind asJson count => return .ok (.listen bind asJson count)
  | .dumpConfig =>
    match c.toToml with
    | .ok text => return .ok (.print text)
    | .error e => return .error (Failure.ofError e)

/-- Loads the configuration of a request and gives what is left to do; `folder` is where
programs keep their configurations. -/
def prepare (r : Request) (folder : Option String) : m (Except Failure Plan × List Notice) := do
  let (loaded, notices) ← Config.loadOrDefault r.config folder
  match loaded with
  | .error e => return (.error (Failure.during "Failed to load configuration" e), notices)
  | .ok c => return (← plan c r.job, notices)

/-- Starts the pipeline on a network. -/
def launch {ν : Type} [NetworkStack ν] (c : Config) (network : ν) (now : Instant) :
    Except Failure (Service ν) × List Notice :=
  match Service.start c network now with
  | (.ok r, notices) => (.ok r, notices)
  | (.error e, notices) => (.error (Failure.during "Failed to start runtime" e), notices)

end Program

end Telemetry
