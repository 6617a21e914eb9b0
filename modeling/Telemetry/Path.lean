/-
Paths of files, as text.

* `Path.fileName?` — the last name of a path;
* `Path.parent?` — what stands before the last name;
* `Path.join` — a path within a folder.

Design notes: names stand between slashes. Empty names and single points say nothing, except
that a path that begins with a slash begins at the root.
-/

namespace Telemetry.Path

/-- Whether a name says nothing. -/
def isIdle (name : String) : Bool := name = "" || name = "."

/-- What stands between the slashes of a path, the last of them first. -/
def reversedNames (path : String) : List String :=
  (path.splitOn "/").reverse.dropWhile isIdle

/-- The last name of a path, unless it leads to the folder above. -/
def fileName? (path : String) : Option String :=
  match reversedNames path with
  | name :: _ => if name = ".." then none else some name
  | [] => none

/-- What a path without names but its last begins with. -/
def beginning (path : String) : String :=
  match path.toList with
  | '/' :: _ => "/"
  | '.' :: '/' :: _ => "."
  | _ => ""

/-- What stands before the last name of a path; nothing does if it has only one. -/
def parent? (path : String) : Option String :=
  match reversedNames path with
  | [] => none
  | _ :: before =>
    match before.dropWhile isIdle with
    | [] => some (beginning path)
    | names => some ("/".intercalate names.reverse)

/-- Whether a path begins at the root. -/
def isAbsolute (path : String) : Bool := path.startsWith "/"

/-- A path within a folder. -/
def join (folder path : String) : String := folder ++ "/" ++ path

end Telemetry.Path
