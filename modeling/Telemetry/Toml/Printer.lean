/-
The text of a document.

* `Printer.text` — a text in the plainest quotes that can hold it;
* `Printer.name` — a name, bare if it can be;
* `Toml.print` — a table as a document: its single values first, then its tables, each under
  its header.

Design notes: double quotes are plainest, then single ones, then three of either; where none of
them holds a text as it is, double quotes with escapes do, three if the text has several lines.
A text over several lines begins on a line of its own.
-/
import Telemetry.Toml.Quote
import Telemetry.Tree

namespace Telemetry.Toml

namespace Printer

/-- Whether a character is a control, other than a tab or the end of a line. -/
def isControl (c : Char) : Bool := (c < ' ' && c ≠ '\t' && c ≠ '\n') || c = '\x7f'

/-- The length of the longest run of a quote; `run` is that of the run so far. -/
def longestRun (quote : Char) : Nat → List Char → Nat
  | run, [] => run
  | run, c :: rest =>
    if c = quote then longestRun quote (run + 1) rest else max run (longestRun quote 0 rest)

/-- A character of several, by its number in four upper-case digits. -/
def coded (c : Char) : List Char :=
  let n := c.toNat
  ['\\', 'u', Digit.upper (n / 4096 % 16), Digit.upper (n / 256 % 16), Digit.upper (n / 16 % 16),
    Digit.upper (n % 16)]

/-- A character between double quotes. -/
def basicChar (c : Char) : List Char :=
  if c = '\x08' then ['\\', 'b']
  else if c = '\t' then ['\\', 't']
  else if c = '\n' then ['\\', 'n']
  else if c = '\x0c' then ['\\', 'f']
  else if c = '\r' then ['\\', 'r']
  else if c = '"' ∨ c = '\\' then ['\\', c]
  else if isControl c then coded c
  else [c]

/-- Characters between three double quotes; of a run of quotes every third one is escaped. -/
def longBasicChars : Nat → List Char → List Char
  | _, [] => []
  | run, c :: rest =>
    if c = '"' then
      if run = 2 then '\\' :: '"' :: longBasicChars 0 rest
      else '"' :: longBasicChars (run + 1) rest
    else if c = '\n' then '\n' :: longBasicChars 0 rest
    else basicChar c ++ longBasicChars 0 rest

/-- The end of a line, before a text that has one. -/
def opening (cs : List Char) : List Char := if cs.contains '\n' then ['\n'] else []

/-- A text between double quotes. -/
def basic (cs : List Char) : List Char := '"' :: cs.flatMap basicChar ++ ['"']

/-- A text between single quotes. -/
def raw (cs : List Char) : List Char := '\'' :: cs ++ ['\'']

/-- A text between three double quotes. -/
def longBasic (cs : List Char) : List Char :=
  ['"', '"', '"'] ++ opening cs ++ longBasicChars 0 cs ++ ['"', '"', '"']

/-- A text between three single quotes. -/
def longRaw (cs : List Char) : List Char :=
  ['\'', '\'', '\''] ++ opening cs ++ cs ++ ['\'', '\'', '\'']

/-- The characters of a text in the plainest quotes that can hold it. -/
def textChars (cs : List Char) : List Char :=
  let controls := cs.any isControl
  let escapes := cs.contains '\\'
  let doubles := longestRun '"' 0 cs
  let singles := longestRun '\'' 0 cs
  let several := cs.contains '\n'
  if !controls && !escapes && doubles = 0 && !several then basic cs
  else if !controls && singles = 0 && !several then raw cs
  else if !controls && !escapes && doubles ≤ 2 then longBasic cs
  else if !controls && singles ≤ 2 then longRaw cs
  else if several then longBasic cs
  else basic cs

/-- A text in the plainest quotes that can hold it. -/
def text (s : String) : String := String.ofList (textChars s.toList)

/-- A name, bare if it can be, and otherwise in the plainest quotes on one line. -/
def name (s : String) : String :=
  let cs := s.toList
  let controls := cs.any fun c => isControl c || c = '\n'
  if !cs.isEmpty && cs.all Quote.isBare then s
  else if !controls && !cs.contains '\\' && !cs.contains '"' then String.ofList (basic cs)
  else if !controls && !cs.contains '\'' then String.ofList (raw cs)
  else String.ofList (basic cs)

/-- A floating point number. -/
def float (x : Float) : String :=
  if x.isNaN then "nan" else Decimal.pointed x

/-- Texts between brackets: up to one of them on a line, more of them on lines of their own. -/
def listed (items : List String) : String :=
  match items with
  | [] => "[]"
  | [item] => "[" ++ item ++ "]"
  | items => "[\n" ++ String.join (items.map fun i => "    " ++ i ++ ",\n") ++ "]"

mutual

/-- A value after its name. A null, which this notation does not have, is an empty text. -/
def value : Tree → String
  | .null => "\"\""
  | .bool b => if b then "true" else "false"
  | .int i => toString i
  | .float x => float x
  | .text s => text s
  | .moment s => s
  | .list items => listed (values items)
  | .table entries => "\x7b" ++ ", ".intercalate (assignments entries) ++ "\x7d"

/-- The values of a list. -/
def values : List Tree → List String
  | [] => []
  | v :: rest => value v :: values rest

/-- The entries of a table on one line. -/
def assignments : List (String × Tree) → List String
  | [] => []
  | (n, v) :: rest => (name n ++ " = " ++ value v) :: assignments rest

end

/-- A table's single values, each on a line. -/
def singles : List (String × Tree) → String
  | [] => ""
  | (_, .table _) :: rest => singles rest
  | (n, v) :: rest => name n ++ " = " ++ value v ++ "\n" ++ singles rest

/-- Whether a table has a header: it has single values, or nothing at all. -/
def hasHeader (entries : List (String × Tree)) : Bool :=
  entries.isEmpty || singles entries ≠ ""

/-- A header and the single values under it. -/
def headed (path : List String) (entries : List (String × Tree)) : List String :=
  if hasHeader entries then
    ["[" ++ ".".intercalate (path.map name) ++ "]\n" ++ singles entries]
  else []

mutual

/-- The sections of a table and of the tables in it. -/
def sections (path : List String) : Tree → List String
  | .table entries => headed path entries ++ subsections path entries
  | _ => []

/-- The sections of the tables among entries. -/
def subsections (path : List String) : List (String × Tree) → List String
  | [] => []
  | (n, v) :: rest => sections (path ++ [n]) v ++ subsections path rest

end

end Printer

/-- A table as a document, an empty line between its sections. -/
def print : Tree → String
  | .table entries =>
    let front := Printer.singles entries
    "\n".intercalate ((if front = "" then [] else [front]) ++ Printer.subsections [] entries)
  | v => Printer.value v

end Telemetry.Toml
