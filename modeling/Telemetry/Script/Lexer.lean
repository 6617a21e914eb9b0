/-
The tokens of control law scripts.

* `Token` — numbers, characters, texts, names, words and marks;
* `Lexer.tokens?` — the tokens of a text, unless something in it is none.

Design notes: a sign directly before a digit belongs to the number wherever an operand
is expected, so that the smallest integer can be written; whether one is expected is a
property of the token before. Marks are read longest first.
-/
import Telemetry.Script.Value
import Telemetry.Text.Blank
import Telemetry.Text.Digit

namespace Telemetry.Script

/-- A token. -/
inductive Token where
  | int (i : Int64)
  | float (f : Float)
  | char (c : Char)
  | text (s : String)
  | name (s : String)
  | callable (s : String)
  | word (s : String)
  | mark (s : String)
deriving Inhabited

/-- The words with a meaning of their own. -/
def words : List String :=
  ["let", "const", "if", "else", "switch", "do", "while", "until", "loop", "for", "in",
    "continue", "break", "return", "throw", "try", "catch", "fn", "true", "false"]

/-- The names that can only be called. -/
def callables : List String := ["type_of", "is_shared", "is_def_var", "is_def_fn"]

/-- The words that are kept back. -/
def reservedWords : List String :=
  ["var", "static", "shared", "goto", "exit", "match", "case", "public", "protected", "private",
    "new", "use", "with", "is", "module", "package", "super", "thread", "spawn", "go", "await",
    "async", "sync", "yield", "default", "void", "null", "nil", "this", "import", "export", "as",
    "print", "debug", "eval", "Fn", "call", "curry"]

/-- The marks, a longer one before its beginnings. -/
def marks : List String :=
  ["...", "..=", "..", ".", "===", "==", "=>", "=", "!==", "!=", "!", "<<=", "<<", "<=", "<-",
    "<|", "<", ">>=", ">>", ">=", ">", "**=", "**", "*=", "*)", "*", "+=", "++", "+", "-=", "--",
    "->", "-", "/=", "/", "%=", "%", "&&", "&=", "&", "||", "|=", "|>", "|", "^=", "^", "(*", "(",
    ")", "[", "]", "\x7b", "\x7d", ",", ";", "::", ":=", ":;", ":"]

/-- The marks that are kept back. -/
def reservedMarks : List String :=
  ["...", "===", "!==", "<-", "<|", "*)", "++", "--", "->", "|>", "(*", "::", ":=", ":;"]

/-- Whether an operand may follow a token. -/
def Token.expectsOperand : Token → Bool
  | .mark m => !(["\x7d", ")", "]", "=>", "."].contains m)
  | .word w => ["if", "while", "until", "in", "return", "throw"].contains w
  | _ => false

namespace Lexer

/-- Whether a character can begin a name. -/
def beginsName (c : Char) : Bool := c.isAlpha || c == '_'

/-- Whether a character can stand in a name. -/
def inName (c : Char) : Bool := c.isAlphanum || c == '_'

/-- The text after the end of the line. -/
def skipLine : List Char → List Char
  | [] => []
  | c :: rest => if c = '\n' then rest else skipLine rest

/-- The text after a comment, which may hold others; one that is not closed goes on to
the end. -/
def skipComment : Nat → List Char → List Char
  | depth, '/' :: '*' :: rest => skipComment (depth + 1) rest
  | 0, '*' :: '/' :: rest => rest
  | depth + 1, '*' :: '/' :: rest => skipComment depth rest
  | depth, _ :: rest => skipComment depth rest
  | _, [] => []

/-- The digits of a number without the separators between them, and what follows. -/
def digits (valid : Char → Bool) : List Char → List Char × List Char
  | [] => ([], [])
  | c :: rest =>
    if c = '_' then digits valid rest
    else if valid c then
      let (ds, rest) := digits valid rest
      (c :: ds, rest)
    else ([], c :: rest)

/-- The base that a letter after a zero announces. -/
def base? (c : Char) : Option Nat :=
  if c = 'x' ∨ c = 'X' then some 16
  else if c = 'o' ∨ c = 'O' then some 8
  else if c = 'b' ∨ c = 'B' then some 2
  else none

/-- A number of another base: up to sixty-four bits, read as a signed integer. -/
def baseNumber? (base : Nat) (cs : List Char) : Option (Token × List Char) :=
  let (ds, rest) := digits (if base = 16 then Digit.isOf 16 else Char.isDigit) cs
  let n := Digit.number base ds
  if ds.isEmpty || !ds.all (Digit.isOf base) || UInt64.size ≤ n then none
  else some (.int (UInt64.ofNat n).toInt64, rest)

/-- The digits after the point of a number, if the point belongs to it. -/
def fraction? : List Char → Option (List Char × List Char)
  | '.' :: c :: rest =>
    if c.isDigit then some (digits Char.isDigit (c :: rest))
    else if beginsName c || c = '.' then none
    else some (['0'], c :: rest)
  | _ => none

/-- The exponent of a number, if there is one; the inner `none` stands for a sign
without digits. -/
def exponent? : List Char → Option (Option Int × List Char)
  | 'e' :: c :: rest =>
    if c.isDigit then
      let (ds, rest) := digits Char.isDigit (c :: rest)
      some (some (Int.ofNat (Digit.number 10 ds)), rest)
    else if c = '+' ∨ c = '-' then
      let (ds, rest) := digits Char.isDigit rest
      let n := Int.ofNat (Digit.number 10 ds)
      some (if ds.isEmpty then none else some (if c = '-' then -n else n), rest)
    else none
  | _ => none

/-- A whole number: an integer if it fits, and a floating point number otherwise. -/
def whole (negative : Bool) (ds : List Char) : Token :=
  let n := Digit.number 10 ds
  if negative then
    if n ≤ 9223372036854775808 then .int (Int64.ofInt (-(Int.ofNat n)))
    else .float (-(Binary64.ofDecimal n 0))
  else if n < 9223372036854775808 then .int (Int64.ofInt (Int.ofNat n))
  else .float (Binary64.ofDecimal n 0)

/-- A number with a point or an exponent. -/
def real (negative : Bool) (ds fs : List Char) (e : Int) : Token :=
  let x := Binary64.ofDecimal (Digit.number 10 (ds ++ fs)) (e - Int.ofNat fs.length)
  .float (if negative then -x else x)

/-- A decimal number. -/
def decimal? (negative : Bool) (cs : List Char) : Option (Token × List Char) :=
  let (ds, afterWhole) := digits Char.isDigit cs
  let (fs, afterPoint) := (fraction? afterWhole).getD ([], afterWhole)
  match exponent? afterPoint with
  | some (some e, rest) => some (real negative ds fs e, rest)
  | some (none, _) => none
  | none =>
    if fs.isEmpty then some (whole negative ds, afterPoint)
    else some (real negative ds fs 0, afterPoint)

/-- A number, which begins with a digit. -/
def number? (negative : Bool) (cs : List Char) : Option (Token × List Char) :=
  let (ds, rest) := digits Char.isDigit cs
  match ds, rest with
  | ['0'], c :: rest =>
    match base? c with
    | some base => if negative then none else baseNumber? base rest
    | none => decimal? negative cs
  | _, _ => decimal? negative cs

/-- The character of a number of digits of base sixteen. -/
def coded? (count : Nat) (cs : List Char) : Option Char :=
  let ds := cs.take count
  if ds.length < count || !ds.all (Digit.isOf 16) then none
  else
    let n := Digit.number 16 ds
    if n.isValidChar then some (Char.ofNat n) else none

/-- The characters up to the closing quote, and what follows it; a quote written twice
stands for itself, and so does whatever follows a backslash. -/
def quoted? (quote : Char) : Nat → List Char → Option (List Char × List Char)
  | 0, _ => none
  | _ + 1, [] => none
  | fuel + 1, c :: rest =>
    if c = quote then
      match rest with
      | d :: rest =>
        if d = quote then (quoted? quote fuel rest).map fun (cs, r) => (quote :: cs, r)
        else some ([], d :: rest)
      | [] => some ([], [])
    else if c = '\n' then none
    else if c = '\\' then
      match rest with
      | [] => none
      | e :: rest =>
        let plain? : Option Char :=
          if e = 'n' then some '\n'
          else if e = 't' then some '\t'
          else if e = 'r' then some '\r'
          else if e = '\\' ∨ e = '"' ∨ e = '\'' then some e
          else none
        let width : Nat := if e = 'x' then 2 else if e = 'u' then 4 else if e = 'U' then 8 else 0
        match plain? with
        | some p => (quoted? quote fuel rest).map fun (cs, r) => (p :: cs, r)
        | none =>
          if e = '\n' then quoted? quote fuel (rest.dropWhile Text.isBlank)
          else if width = 0 then none
          else
            match coded? width rest with
            | some p => (quoted? quote fuel (rest.drop width)).map fun (cs, r) => (p :: cs, r)
            | none => none
    else (quoted? quote fuel rest).map fun (cs, r) => (c :: cs, r)

/-- The quote of texts that may run over lines. -/
def backQuote : Char := Char.ofNat 96

/-- The characters up to the closing back quote, taken as they are; a text with a hole
for a value in it is none. -/
def verbatim? : List Char → Option (List Char × List Char)
  | [] => none
  | [c] => if c = backQuote then some ([], []) else none
  | c :: d :: rest =>
    if c = backQuote then
      if d = backQuote then (verbatim? rest).map fun (cs, r) => (c :: cs, r)
      else some ([], d :: rest)
    else if c = '$' ∧ d = Char.ofNat 0x7B then none
    else (verbatim? (d :: rest)).map fun (cs, r) => (c :: cs, r)

/-- A text within the limit on its size. -/
def textToken? (cs : List Char) (rest : List Char) : Option (Token × List Char) :=
  let s := String.ofList cs
  if Value.textLimit < s.utf8ByteSize then none else some (.text s, rest)

/-- A character, which is a text of one. -/
def charToken? : List Char × List Char → Option (Token × List Char)
  | ([c], rest) => some (.char c, rest)
  | _ => none

/-- What a name stands for; one of underscores and digits alone is none. -/
def named? (cs : List Char) : Option Token :=
  let s := String.ofList cs
  if s = "_" then some (.mark "_")
  else if words.contains s then some (.word s)
  else if callables.contains s then some (.callable s)
  else if reservedWords.contains s then none
  else
    match cs.dropWhile (· == '_') with
    | c :: _ => if c.isAlpha then some (.name s) else none
    | [] => none

/-- The longest mark at the beginning of a text. -/
def mark? (cs : List Char) : Option (Token × List Char) :=
  match marks.find? (fun m => m.toList.isPrefixOf cs) with
  | some m => if reservedMarks.contains m then none else some (.mark m, cs.drop m.length)
  | none => none

/-- Whether a text begins with the word for containment under a negation. -/
def beginsNotIn : List Char → Bool
  | '!' :: 'i' :: 'n' :: c :: _ => !inName c
  | ['!', 'i', 'n'] => true
  | _ => false

/-- Whether a sign at the beginning of a text is that of a number. -/
def beginsNegative : List Char → Bool
  | '-' :: c :: _ => c.isDigit
  | _ => false

/-- The token at the beginning of a text, and what follows it. -/
def token? (operand : Bool) : List Char → Option (Token × List Char)
  | [] => none
  | c :: rest =>
    if c = '"' then
      (quoted? c (rest.length + 1) rest).bind fun (cs, r) => textToken? cs r
    else if c = '\'' then (quoted? c (rest.length + 1) rest).bind charToken?
    else if c = backQuote then
      match rest with
      | '\n' :: rest => (verbatim? rest).bind fun (cs, r) => textToken? cs r
      | _ => (verbatim? rest).bind fun (cs, r) => textToken? cs r
    else if c.isDigit then number? false (c :: rest)
    else if operand && beginsNegative (c :: rest) then number? true rest
    else if beginsName c then
      (named? ((c :: rest).takeWhile inName)).map fun t => (t, (c :: rest).dropWhile inName)
    else if beginsNotIn (c :: rest) then some (.mark "!in", rest.drop 2)
    else mark? (c :: rest)

/-- The tokens of a text, read in at most `fuel` steps. -/
def scan : Nat → Bool → List Char → Option (List Token)
  | _, _, [] => some []
  | 0, _, _ => none
  | fuel + 1, operand, '/' :: '/' :: rest => scan fuel operand (skipLine rest)
  | fuel + 1, operand, '/' :: '*' :: rest => scan fuel operand (skipComment 0 rest)
  | fuel + 1, operand, c :: rest =>
    if Text.isBlank c then scan fuel operand rest
    else
      match token? operand (c :: rest) with
      | none => none
      | some (t, rest) => (scan fuel t.expectsOperand rest).map (t :: ·)

/-- The tokens of a text, unless something in it is none. -/
def tokens? (s : String) : Option (List Token) :=
  scan (s.toList.length + 1) true s.toList

end Lexer

end Telemetry.Script
