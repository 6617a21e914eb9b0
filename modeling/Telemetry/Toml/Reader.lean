/-
The values and lines of a document.

* `Reader.value?` — a value: text, number, point in time, truth value, list, or table in
  braces;
* `Reader.lines?` — the lines of a document that say something;
* `Toml.parse?` — the tree of a document.

Design notes: a list may go over several lines and end with a comma, a table in braces may
not. Each reader takes a bound on its steps that comes from the number of characters, and a
level that grows with the nesting, which is limited, as the number of names with points between
them is.
-/
import Telemetry.Toml.Draft
import Telemetry.Toml.Number

namespace Telemetry.Toml

namespace Reader

/-- One more than the deepest nesting of lists and of tables in braces, and one more than the
most names with points between them. -/
def nestingLimit : Nat := 80

/-- Names with points between them: those before the last, and the last. -/
def path? (cs : List Char) : Option ((List String × String) × List Char) :=
  Quote.path? (nestingLimit - 1) cs

/-- The characters after a comment, up to the end of its line. -/
def skipComment : List Char → List Char
  | '#' :: rest => rest.dropWhile isPlain
  | cs => cs

/-- The characters after the rest of a line that has nothing more to say. -/
def lineRest? (cs : List Char) : Option (List Char) :=
  match skipComment (skipSpaces cs) with
  | [] => some []
  | cs => lineEnd? cs

/-- The characters after blanks, comments and ends of lines; `commented` says whether a comment
has begun. -/
def skipLines : Bool → List Char → List Char
  | _, [] => []
  | _, '\n' :: rest => skipLines false rest
  | _, '\r' :: '\n' :: rest => skipLines false rest
  | commented, c :: rest =>
    if commented then (if isPlain c then skipLines true rest else c :: rest)
    else if isSpace c then skipLines false rest
    else if c = '#' then skipLines true rest
    else c :: rest

/-- The characters after a word that must come next. -/
def word? : List Char → List Char → Option (List Char)
  | [], cs => some cs
  | w :: ws, c :: cs => if c = w then word? ws cs else none
  | _ :: _, [] => none

/-- A value that is neither a list nor a table. -/
def single? (cs : List Char) : Option (Tree × List Char) :=
  match cs with
  | '"' :: _ => (Quote.text? cs).map fun (s, rest) => (.text s, rest)
  | '\'' :: _ => (Quote.text? cs).map fun (s, rest) => (.text s, rest)
  | 't' :: _ => (word? "true".toList cs).map fun rest => (.bool true, rest)
  | 'f' :: _ => (word? "false".toList cs).map fun rest => (.bool false, rest)
  | _ => (Moment.read? cs).or (Number.read? cs)

mutual

/-- A value. -/
def value? : Nat → Nat → List Char → Option (Tree × List Char)
  | 0, _, _ => none
  | fuel + 1, level, '[' :: rest =>
    if nestingLimit ≤ level + 1 then none
    else
      match items? fuel (level + 1) rest with
      | some (items, rest) => some (.list items, rest)
      | none => none
  | fuel + 1, level, '{' :: rest =>
    if nestingLimit ≤ level + 1 then none
    else
      match bracedPairs? fuel (level + 1) rest with
      | some (pairs, rest) =>
        match Entries.ofPairs pairs with
        | some entries => some (.table (treeEntries entries), rest)
        | none => none
      | none => none
  | _ + 1, _, cs => single? cs

/-- The items of a list, up to its closing bracket. -/
def items? : Nat → Nat → List Char → Option (List Tree × List Char)
  | 0, _, _ => none
  | fuel + 1, level, cs =>
    match skipLines false cs with
    | ']' :: rest => some ([], rest)
    | cs =>
      match value? fuel level cs with
      | none => none
      | some (item, rest) =>
        match skipLines false rest with
        | ']' :: rest => some ([item], rest)
        | ',' :: rest =>
          match items? fuel level rest with
          | none => none
          | some (items, rest) => some (item :: items, rest)
        | _ => none

/-- The names and values of a table, up to its closing brace. -/
def bracedPairs? : Nat → Nat → List Char →
    Option (List ((List String × String) × Tree) × List Char)
  | 0, _, _ => none
  | fuel + 1, level, cs =>
    match skipSpaces cs with
    | '}' :: rest => some ([], rest)
    | cs => pairs? fuel level cs

/-- The names and values of a table that is not empty, up to its closing brace. -/
def pairs? : Nat → Nat → List Char →
    Option (List ((List String × String) × Tree) × List Char)
  | 0, _, _ => none
  | fuel + 1, level, cs =>
    match path? cs with
    | some (path, '=' :: rest) =>
      match value? fuel level (skipSpaces rest) with
      | none => none
      | some (value, rest) =>
        match skipSpaces rest with
        | '}' :: rest => some ([(path, value)], rest)
        | ',' :: rest =>
          match pairs? fuel level rest with
          | none => none
          | some (pairs, rest) => some ((path, value) :: pairs, rest)
        | _ => none
    | _ => none

end

/-- A name and its value. -/
def entry? (cs : List Char) : Option (Line × List Char) :=
  match path? cs with
  | some ((path, name), '=' :: rest) =>
    let rest := skipSpaces rest
    match value? (2 * rest.length + 2) 0 rest with
    | some (value, rest) => some (.entry path name value, rest)
    | none => none
  | _ => none

/-- A line that says something. -/
def line? : List Char → Option (Line × List Char)
  | '[' :: '[' :: rest =>
    match path? rest with
    | some ((path, name), ']' :: ']' :: rest) => some (.row path name, rest)
    | _ => none
  | '[' :: rest =>
    match path? rest with
    | some ((path, name), ']' :: rest) => some (.header path name, rest)
    | _ => none
  | cs => entry? cs

/-- The lines that say something. -/
def lines? : Nat → List Char → Option (List Line)
  | 0, _ => none
  | fuel + 1, cs =>
    match skipLines false cs with
    | [] => some []
    | cs =>
      match line? cs with
      | none => none
      | some (line, rest) =>
        match lineRest? rest with
        | none => none
        | some rest => (lines? fuel rest).map (line :: ·)

/-- The characters of a text without the mark of byte order that may begin it. -/
def characters (s : String) : List Char :=
  match s.toList with
  | '\uFEFF' :: cs => cs
  | cs => cs

end Reader

/-- The tree of a document. -/
def parse? (s : String) : Option Tree :=
  let cs := Reader.characters s
  match Reader.lines? (cs.length + 1) cs with
  | none => none
  | some lines => (Draft.ofLines lines).map Draft.tree

end Telemetry.Toml
