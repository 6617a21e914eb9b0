/-
Tables under construction, as the lines of a document fill them.

* `Entries.assign` — a new value under a dotted name;
* `Entries.openTable`, `Entries.openRow` — a header, which begins a table or one more row of
  a list of tables;
* `Draft.add` — one line of a document;
* `Part.tree` — what has been built, as a tree.

Design notes: a table remembers how it came to be, because that decides who may add to it. A
table with a header of its own is closed to dotted names and to a second header; one that was
only named on the way to another may still get its header, and then moves to the end; one that
dotted names made takes dotted names only. No name gets a second value.
-/
import Telemetry.Tree

namespace Telemetry.Toml

/-- How a table came to be: with a header or braces of its own, by being named on the way to
another table, or by a dotted name. -/
inductive Origin where
  | header
  | implied
  | dotted
deriving DecidableEq

/-- A part of a document under construction. -/
inductive Part where
  | value (v : Tree)
  | table (origin : Origin) (entries : List (String × Part))
  | rows (rows : List (List (String × Part)))

/-- The entries of a table under construction. -/
abbrev Entries := List (String × Part)

mutual

/-- A part as a tree. -/
def Part.tree : Part → Tree
  | .value v => v
  | .table _ entries => .table (treeEntries entries)
  | .rows rows => .list (treeRows rows)

/-- The entries of a table as trees. -/
def treeEntries : List (String × Part) → List (String × Tree)
  | [] => []
  | (name, p) :: rest => (name, p.tree) :: treeEntries rest

/-- The rows of a list of tables as trees. -/
def treeRows : List (List (String × Part)) → List Tree
  | [] => []
  | row :: rest => .table (treeEntries row) :: treeRows rest

end

/-- A line of a document that says something. -/
inductive Line where
  | entry (path : List String) (name : String) (value : Tree)
  | header (path : List String) (name : String)
  | row (path : List String) (name : String)

namespace Entries

/-- The part of a name. -/
def get? (name : String) : Entries → Option Part
  | [] => none
  | (n, p) :: rest => if n = name then some p else get? name rest

/-- The entries with a name's part replaced, or added at the end. -/
def set (name : String) (part : Part) : Entries → Entries
  | [] => [(name, part)]
  | (n, p) :: rest => if n = name then (name, part) :: rest else (n, p) :: set name part rest

/-- The entries without a name. -/
def remove (name : String) (entries : Entries) : Entries :=
  entries.filter fun p => p.1 ≠ name

/-- Changes the table at the end of a path, making the tables on the way that are missing.
Of a list of tables the last one is meant; a dotted path may not pass a table with a header
of its own. -/
def within (dotted : Bool) (change : Origin → Entries → Option Entries) :
    List String → Origin → Entries → Option Entries
  | [], origin, entries => change origin entries
  | name :: path, _, entries =>
    match get? name entries with
    | none =>
      let origin := if dotted then .dotted else .implied
      (within dotted change path origin []).map fun child =>
        set name (.table origin child) entries
    | some (.value _) => none
    | some (.table origin child) =>
      if dotted ∧ origin = .header then none
      else (within dotted change path origin child).map fun child =>
        set name (.table origin child) entries
    | some (.rows rows) =>
      (within dotted change path .header (rows.getLast?.getD [])).map fun row =>
        set name (.rows (rows.dropLast ++ [row])) entries

/-- A new value under a dotted name. The table that takes it was made by dotted names if, and
only if, there are names before the last. -/
def assign (path : List String) (name : String) (value : Tree) (entries : Entries) :
    Option Entries :=
  within true
    (fun origin entries =>
      if (origin == .dotted) == path.isEmpty || (get? name entries).isSome then none
      else some (entries ++ [(name, .value value)]))
    path .header entries

/-- A table with a header of its own. -/
def openTable (path : List String) (name : String) : Entries → Option Entries :=
  within false
    (fun _ entries =>
      match get? name entries with
      | none => some (entries ++ [(name, .table .header [])])
      | some (.table .implied child) => some (remove name entries ++ [(name, .table .header child)])
      | some _ => none)
    path .header

/-- One more row of a list of tables. -/
def openRow (path : List String) (name : String) : Entries → Option Entries :=
  within false
    (fun _ entries =>
      match get? name entries with
      | none => some (entries ++ [(name, .rows [[]])])
      | some (.rows rows) => some (set name (.rows (rows ++ [[]])) entries)
      | some _ => none)
    path .header

/-- A table from the dotted names and values between its braces. -/
def ofPairs (pairs : List ((List String × String) × Tree)) : Option Entries :=
  pairs.foldlM (fun entries p => entries.assign p.1.1 p.1.2 p.2) []

end Entries

/-- A document under construction and the path of the table that takes the next value. -/
structure Draft where
  root : Entries := []
  path : List String := []

namespace Draft

/-- A new value in the table that is open. -/
def assign (d : Draft) (path : List String) (name : String) (value : Tree) : Option Draft :=
  (Entries.within false (fun _ entries => entries.assign path name value) d.path .header
    d.root).map fun root => { d with root := root }

/-- One line of a document. -/
def add (d : Draft) : Line → Option Draft
  | .entry path name value => d.assign path name value
  | .header path name => (d.root.openTable path name).map fun root => ⟨root, path ++ [name]⟩
  | .row path name => (d.root.openRow path name).map fun root => ⟨root, path ++ [name]⟩

/-- The tree of a document. -/
def tree (d : Draft) : Tree := .table (treeEntries d.root)

/-- The document that lines make up. -/
def ofLines (lines : List Line) : Option Draft := lines.foldlM add {}

end Draft

end Telemetry.Toml
