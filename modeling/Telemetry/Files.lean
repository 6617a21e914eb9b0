/-
Files and folders.

* `FileStore` — what the program needs of a place for files: to see whether something is there,
  to read and write texts, and to make folders;
* `FileTree` — such a place in memory, which answers as an operating system does.

Design notes: a path is followed name by name. Whatever is passed on the way must be a folder;
what is not there and what is no folder are different answers.
-/
import Telemetry.Error
import Telemetry.Path

namespace Telemetry

/-- What the program needs of a place for files. -/
class FileStore (m : Type → Type) where
  /-- Whether a path leads to something. -/
  isThere : String → m Bool
  /-- The text of a file. -/
  readText : String → m (Except ExchangeError String)
  /-- Makes a folder and those above it that are missing. -/
  makeFolders : String → m (Except ExchangeError Unit)
  /-- Makes or replaces a file. -/
  writeText : String → String → m (Except ExchangeError Unit)

/-- A file or a folder. -/
inductive FileNode where
  | file (bytes : List UInt8)
  | folder (entries : List (String × FileNode))

namespace FileNode

/-- A folder with nothing in it. -/
def empty : FileNode := .folder []

/-- The entries of a folder; a file has none. -/
def entries : FileNode → List (String × FileNode)
  | .file _ => []
  | .folder es => es

/-- Whether it is a folder. -/
def isFolder : FileNode → Bool
  | .file _ => false
  | .folder _ => true

/-- The node at the end of a list of names. -/
def get? : List String → FileNode → Option FileNode
  | [], n => some n
  | name :: names, n =>
    match n.entries.lookup name with
    | some child => get? names child
    | none => none

/-- Puts a node at the end of a list of names; on the way there are folders. -/
def put (n new : FileNode) : List String → FileNode
  | [] => new
  | name :: names =>
    let child := put ((n.entries.lookup name).getD empty) new names
    .folder ((name, child) :: n.entries.filter fun e => e.1 ≠ name)

/-- The names that a path leads to from some others. All but the last are names of folders. -/
def follow (root : FileNode) : List String → List String → Except OsError (List String)
  | [], names => .ok names
  | step :: steps, names =>
    match root.get? names with
    | none => .error .noSuchFile
    | some (.file _) => .error .notADirectory
    | some (.folder _) =>
      if Path.isIdle step then follow root steps names
      else if step = ".." then follow root steps names.dropLast
      else follow root steps (names ++ [step])

end FileNode

/-- Files and folders in memory, and the names of the folder that paths begin in. -/
structure FileTree where
  root : FileNode
  here : List String := []

namespace FileTree

/-- The names that a path leads to. -/
def locate (t : FileTree) (path : String) : Except OsError (List String) :=
  if path = "" then .error .noSuchFile
  else t.root.follow (path.splitOn "/") (if Path.isAbsolute path then [] else t.here)

/-- The node that a path leads to. -/
def find (t : FileTree) (path : String) : Except OsError FileNode :=
  match t.locate path with
  | .error e => .error e
  | .ok names =>
    match t.root.get? names with
    | none => .error .noSuchFile
    | some n => .ok n

/-- The files and folders with a node put at the end of a list of names. -/
def place (t : FileTree) (new : FileNode) (names : List String) : FileTree :=
  { t with root := t.root.put new names }

/-- The text of a file. -/
def readText (t : FileTree) (path : String) : Except ExchangeError String :=
  match t.find path with
  | .error e => .error (.os e)
  | .ok (.folder _) => .error (.os .isADirectory)
  | .ok (.file bytes) =>
    match String.fromUTF8? (ByteArray.mk bytes.toArray) with
    | none => .error .notUtf8
    | some s => .ok s

/-- Makes or replaces a file. -/
def write (t : FileTree) (path : String) (bytes : List UInt8) : Except OsError FileTree :=
  match t.locate path with
  | .error e => .error e
  | .ok names =>
    match t.root.get? names with
    | some (.folder _) => .error .isADirectory
    | _ => .ok (t.place (.file bytes) names)

/-- Whether a path leads to a folder. -/
def hasFolder (t : FileTree) (path : String) : Bool :=
  match t.find path with
  | .ok n => n.isFolder
  | .error _ => false

/-- Makes one folder. -/
def makeFolder (t : FileTree) (path : String) : Except OsError FileTree :=
  match t.locate path with
  | .error e => .error e
  | .ok names =>
    match t.root.get? names with
    | some _ => .error .fileExists
    | none => .ok (t.place FileNode.empty names)

/-- Makes one folder, unless it is there. -/
def ensureFolder (t : FileTree) (path : String) : Except OsError FileTree :=
  match t.makeFolder path with
  | .ok made => .ok made
  | .error e => if t.hasFolder path then .ok t else .error e

/-- Makes a folder and, up to `depth` of them, those above it that are missing. -/
def makeFoldersTo : Nat → FileTree → String → Except OsError FileTree
  | 0, t, path => t.ensureFolder path
  | depth + 1, t, path =>
    if path = "" then .ok t
    else
      match t.ensureFolder path with
      | .ok made => .ok made
      | .error .noSuchFile =>
        match Path.parent? path with
        | none => .error .noSuchFile
        | some parent =>
          match makeFoldersTo depth t parent with
          | .error e => .error e
          | .ok made => made.ensureFolder path
      | .error e => .error e

/-- Makes a folder and those above it that are missing. -/
def makeFolders (t : FileTree) (path : String) : Except OsError FileTree :=
  makeFoldersTo path.length t path

/-- What a change gives and leaves; one that fails leaves everything as it was. -/
def changed (t : FileTree) : Except OsError FileTree → Except ExchangeError Unit × FileTree
  | .ok new => (.ok (), new)
  | .error e => (.error (.os e), t)

instance : FileStore (StateM FileTree) where
  isThere path := do return (← get).find path matches .ok _
  readText path := do return (← get).readText path
  makeFolders path := do
    let t ← get
    let (outcome, t) := t.changed (t.makeFolders path)
    set t
    return outcome
  writeText path s := do
    let t ← get
    let (outcome, t) := t.changed (t.write path s.toUTF8.toList)
    set t
    return outcome

end FileTree

end Telemetry
