/-
The four ways to write a text, and the names of values.

* `Quote.text?` — a text in quotes of either kind, on one line or, with three quotes, over
  several;
* `Quote.name?` — a name: letters, digits, `-` and `_` as they are, or a text in quotes on
  one line;
* `Quote.path?` — names with points between them.

Design notes: a reader takes characters and returns what is left of them; `none` stands for
every way in which they are wrong. Between double quotes a backslash escapes, between single
quotes nothing does. In a text over several lines the end of a line is one character, whichever
way it is written, and a backslash at the end of a line joins it to the next word.
-/
import Telemetry.Text.Digit

namespace Telemetry.Toml

/-- Whether a character is a blank within a line. -/
def isSpace (c : Char) : Bool := c = ' ' || c = '\t'

/-- Whether a character may stand in a text or a comment. -/
def isPlain (c : Char) : Bool := c = '\t' || (' ' ≤ c && c ≠ '\x7f')

/-- The characters after the blanks within a line. -/
def skipSpaces (cs : List Char) : List Char := cs.dropWhile isSpace

/-- The characters after the end of a line, which a line feed marks, alone or after a
carriage return. -/
def lineEnd? : List Char → Option (List Char)
  | '\n' :: rest => some rest
  | '\r' :: '\n' :: rest => some rest
  | _ => none

namespace Quote

/-- The character that a letter after a backslash stands for. -/
def escape? (c : Char) : Option Char :=
  if c = 'b' then some '\x08'
  else if c = 't' then some '\t'
  else if c = 'n' then some '\n'
  else if c = 'f' then some '\x0c'
  else if c = 'r' then some '\r'
  else if c = '"' ∨ c = '\\' then some c
  else none

/-- The character of a number in hexadecimal. -/
def coded? (ds : List Char) : Option Char :=
  let n := Digit.number 16 ds
  if ds.all (Digit.isOf 16) && decide n.isValidChar then some (Char.ofNat n) else none

/-- Puts a character, if it is one, before a text. -/
def before (c : Option Char) (text : Option (List Char × List Char)) :
    Option (List Char × List Char) :=
  match c, text with
  | some c, some (cs, rest) => some (c :: cs, rest)
  | _, _ => none

/-- A character that may stand in a text as it is. -/
def plain? (c : Char) : Option Char := if isPlain c then some c else none

/-- The text up to a double quote on the same line. -/
def basic? : List Char → Option (List Char × List Char)
  | [] => none
  | '"' :: rest => some ([], rest)
  | '\\' :: 'u' :: a :: b :: c :: d :: rest => before (coded? [a, b, c, d]) (basic? rest)
  | '\\' :: 'U' :: a :: b :: c :: d :: e :: f :: g :: h :: rest =>
    before (coded? [a, b, c, d, e, f, g, h]) (basic? rest)
  | '\\' :: c :: rest => before (escape? c) (basic? rest)
  | c :: rest => before (plain? c) (basic? rest)

/-- The text up to a single quote on the same line. -/
def raw? : List Char → Option (List Char × List Char)
  | [] => none
  | '\'' :: rest => some ([], rest)
  | c :: rest => before (plain? c) (raw? rest)

/-- The quotes at the end of a text over several lines: three close it, and up to two before
them belong to it. -/
def closing? (quote : Char) (cs : List Char) : Option (List Char × List Char) :=
  let run := (cs.takeWhile (· == quote)).length
  if run < 3 then none
  else
    let own := min (run - 3) 2
    some (List.replicate own quote, cs.drop (own + 3))

/-- Whether a backslash before these characters joins lines. -/
def joins (cs : List Char) : Bool := (lineEnd? (skipSpaces cs)).isSome

/-- The text up to three double quotes; while `joining`, blanks and ends of lines are passed
over. -/
def longBasic? : Bool → List Char → Option (List Char × List Char)
  | _, [] => none
  | true, ' ' :: rest => longBasic? true rest
  | true, '\t' :: rest => longBasic? true rest
  | joining, '\n' :: rest =>
    if joining then longBasic? true rest else before (some '\n') (longBasic? false rest)
  | joining, '\r' :: '\n' :: rest =>
    if joining then longBasic? true rest else before (some '\n') (longBasic? false rest)
  | _, '\\' :: 'u' :: a :: b :: c :: d :: rest =>
    before (coded? [a, b, c, d]) (longBasic? false rest)
  | _, '\\' :: 'U' :: a :: b :: c :: d :: e :: f :: g :: h :: rest =>
    before (coded? [a, b, c, d, e, f, g, h]) (longBasic? false rest)
  | _, '\\' :: c :: rest =>
    if joins (c :: rest) then longBasic? true rest
    else before (escape? c) (longBasic? false rest)
  | _, c :: rest =>
    if c = '"' then
      match closing? '"' (c :: rest) with
      | some done => some done
      | none => before (some c) (longBasic? false rest)
    else before (plain? c) (longBasic? false rest)

/-- The text up to three single quotes. -/
def longRaw? : List Char → Option (List Char × List Char)
  | [] => none
  | '\n' :: rest => before (some '\n') (longRaw? rest)
  | '\r' :: '\n' :: rest => before (some '\n') (longRaw? rest)
  | c :: rest =>
    if c = '\'' then
      match closing? '\'' (c :: rest) with
      | some done => some done
      | none => before (some c) (longRaw? rest)
    else before (plain? c) (longRaw? rest)

/-- Characters without the end of a line at their beginning. -/
def skipLineEnd (cs : List Char) : List Char := (lineEnd? cs).getD cs

/-- A text read as characters, as a text. -/
def pack : Option (List Char × List Char) → Option (String × List Char)
  | some (cs, rest) => some (String.ofList cs, rest)
  | none => none

/-- A text in quotes. -/
def text? : List Char → Option (String × List Char)
  | '"' :: '"' :: '"' :: rest => pack (longBasic? false (skipLineEnd rest))
  | '\'' :: '\'' :: '\'' :: rest => pack (longRaw? (skipLineEnd rest))
  | '"' :: rest => pack (basic? rest)
  | '\'' :: rest => pack (raw? rest)
  | _ => none

/-- Whether a character may stand in a name without quotes. -/
def isBare (c : Char) : Bool := c.isAlphanum || c = '-' || c = '_'

/-- A name. -/
def name? : List Char → Option (String × List Char)
  | '"' :: rest => pack (basic? rest)
  | '\'' :: rest => pack (raw? rest)
  | cs =>
    let bare := cs.takeWhile isBare
    if bare.isEmpty then none else some (String.ofList bare, cs.dropWhile isBare)

/-- At most `limit` names with points between them: those before the last, and the last. -/
def path? : Nat → List Char → Option ((List String × String) × List Char)
  | 0, _ => none
  | limit + 1, cs =>
    match name? (skipSpaces cs) with
    | none => none
    | some (name, rest) =>
      match skipSpaces rest with
      | '.' :: rest =>
        match path? limit rest with
        | none => none
        | some ((path, last), rest) => some ((name :: path, last), rest)
      | rest => some (([], name), rest)

end Quote

end Telemetry.Toml
