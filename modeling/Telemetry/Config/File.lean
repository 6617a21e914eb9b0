/-
Configurations in files.

* `Config.load` — the configuration of a file;
* `Config.loadOrDefault` — the same, or the defaults if there is no such file; a file that is
  there must be right;
* `Config.save` — writes a configuration, making the folder of the file if it is missing.
-/
import Telemetry.Config.Text
import Telemetry.Files
import Telemetry.Notice

namespace Telemetry.Config

/-- The folder where programs keep their configurations: the one that is chosen for them if that
is an absolute path, and otherwise one in the home folder. -/
def folder? (chosen home : Option String) : Option String :=
  match chosen.filter Path.isAbsolute with
  | some folder => some folder
  | none => (home.filter (· ≠ "")).map fun home => Path.join home ".config"

/-- The path of the configuration within the folder where programs keep theirs. -/
def defaultPath (folder : String) : String :=
  Path.join (Path.join folder "telemetry-pipeline") "config.toml"

/-- The configuration of what was read from a file. -/
def ofRead (path : String) : Except ExchangeError String → Except Error Config
  | .error e => .error (.config ("Failed to read " ++ path ++ ": " ++ e.message))
  | .ok s =>
    match ofToml s with
    | .error e => .error (.context ("Failed to parse " ++ path) e)
    | .ok c => .ok c

variable {m : Type → Type} [Monad m] [FileStore m]

/-- The configuration of a file. -/
def load (path : String) : m (Except Error Config) := do
  return ofRead path (← FileStore.readText path)

/-- The configuration of a file if it is there, and otherwise the defaults. -/
def loadIfThere (path : String) : m (Except Error Config × List Notice) := do
  if ← FileStore.isThere path then return (← load path, [.loadingConfig path])
  else return (.ok .standard, [.noConfig path])

/-- The configuration of the file at a path or, if none is given, of the one in the folder where
programs keep theirs, if that is known. -/
def loadOrDefault (path folder : Option String) : m (Except Error Config × List Notice) :=
  match path, folder with
  | some path, _ => loadIfThere path
  | none, some folder => loadIfThere (defaultPath folder)
  | none, none => return (.ok .standard, [.noConfigFolder])

/-- Makes the folder of a file, unless it is there or the path names none. -/
def makeParent (path : String) : m (Except Error Unit) := do
  match Path.parent? path with
  | none => return .ok ()
  | some "" => return .ok ()
  | some parent =>
    if ← FileStore.isThere parent then return .ok ()
    else
      match ← FileStore.makeFolders parent with
      | .ok () => return .ok ()
      | .error e => return .error (.config ("Failed to create config directory: " ++ e.message))

/-- Writes the text of a configuration. -/
def saveText (c : Config) (path : String) : m (Except Error Unit) := do
  match c.toToml with
  | .error e => return .error e
  | .ok s =>
    match ← FileStore.writeText path s with
    | .ok () => return .ok ()
    | .error e => return .error (.config ("Failed to write config: " ++ e.message))

/-- Writes a configuration, making the folder of the file if it is missing. -/
def save (c : Config) (path : String) : m (Except Error Unit) := do
  match ← makeParent path with
  | .error e => return .error e
  | .ok () => c.saveText path

end Telemetry.Config
