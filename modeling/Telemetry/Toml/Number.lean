/-
Numbers and points in time.

* `Number.read?` — an integer of sixty-four bits, in decimal with an optional sign or in
  another radix without one, or a floating point number;
* `Moment.read?` — a date, a time, or both with an optional offset, as its text.

Design notes: digits may be set apart by single underscores between them. A reader that has
begun a number of one kind never falls back on a shorter one, because what would be left of
the line then is no end of a line.
-/
import Telemetry.Binary64
import Telemetry.Toml.Quote
import Telemetry.Tree

namespace Telemetry.Toml

namespace Number

/-- Further digits of a radix, without the underscores between them. -/
def moreDigits? (radix : Nat) : List Char → Option (List Char × List Char)
  | [] => some ([], [])
  | '_' :: c :: rest =>
    if Digit.isOf radix c then Quote.before (some c) (moreDigits? radix rest) else none
  | c :: rest =>
    if Digit.isOf radix c then Quote.before (some c) (moreDigits? radix rest)
    else some ([], c :: rest)

/-- One digit or more. -/
def digits? (radix : Nat) : List Char → Option (List Char × List Char)
  | c :: rest =>
    if Digit.isOf radix c then Quote.before (some c) (moreDigits? radix rest) else none
  | [] => none

/-- A sign, which is a plus if there is none: whether it is a minus, and what follows. -/
def sign : List Char → Bool × List Char
  | '-' :: rest => (true, rest)
  | '+' :: rest => (false, rest)
  | cs => (false, cs)

/-- The digits before a point: a zero alone, or digits that begin with another one. -/
def whole? : List Char → Option (List Char × List Char)
  | '0' :: rest => some (['0'], rest)
  | cs => digits? 10 cs

/-- The digits after a point, if there is one. -/
def fraction? : List Char → Option (List Char × List Char)
  | '.' :: rest => digits? 10 rest
  | cs => some ([], cs)

/-- The value of an exponent, if there is one. -/
def exponent? : List Char → Option (Option Int × List Char)
  | c :: rest =>
    if c = 'e' ∨ c = 'E' then
      let (negative, rest) := sign rest
      match digits? 10 rest with
      | none => none
      | some (ds, rest) =>
        let n := Int.ofNat (Digit.number 10 ds)
        some (some (if negative then -n else n), rest)
    else some (none, c :: rest)
  | [] => some (none, [])

/-- An integer, if it fits. -/
def int? (i : Int) : Option Tree :=
  if -9223372036854775808 ≤ i ∧ i < 9223372036854775808 then some (.int i) else none

/-- A floating point number; none is written whose size is too large, unless it is negative. -/
def float? (negative : Bool) (ds fs : List Char) (e : Int) : Option Tree :=
  let x := Binary64.ofDecimal (Digit.number 10 (ds ++ fs)) (e - Int.ofNat fs.length)
  if negative then some (.float (-x)) else if x.isInf then none else some (.float x)

/-- A number in decimal. -/
def decimal? (cs : List Char) : Option (Tree × List Char) := do
  let (negative, cs) := sign cs
  let (ds, cs) ← whole? cs
  let (fs, cs) ← fraction? cs
  let (e, rest) ← exponent? cs
  let n := Int.ofNat (Digit.number 10 ds)
  let value ←
    if fs.isEmpty && e.isNone then int? (if negative then -n else n)
    else float? negative ds fs (e.getD 0)
  return (value, rest)

/-- A number in another radix. -/
def inRadix? (radix : Nat) (cs : List Char) : Option (Tree × List Char) := do
  let (ds, rest) ← digits? radix cs
  let value ← int? (Int.ofNat (Digit.number radix ds))
  return (value, rest)

/-- A number without digits. -/
def special? (cs : List Char) : Option (Tree × List Char) :=
  let (negative, cs) := sign cs
  match cs with
  | 'i' :: 'n' :: 'f' :: rest =>
    some (.float (if negative then -1.0 / 0.0 else 1.0 / 0.0), rest)
  | 'n' :: 'a' :: 'n' :: rest => some (.float Binary64.nan, rest)
  | _ => none

/-- A number. -/
def read? : List Char → Option (Tree × List Char)
  | '0' :: 'x' :: rest => inRadix? 16 rest
  | '0' :: 'o' :: rest => inRadix? 8 rest
  | '0' :: 'b' :: rest => inRadix? 2 rest
  | cs => (special? cs).or (decimal? cs)

end Number

namespace Moment

/-- A number of exactly `places` digits, at least `low` and at most `high`, with the digits. -/
def field? (places low high : Nat) (cs : List Char) : Option (Nat × List Char × List Char) :=
  let ds := cs.take places
  let n := Digit.number 10 ds
  if ds.length = places && ds.all (Digit.isOf 10) && low ≤ n && n ≤ high
  then some (n, ds, cs.drop places) else none

/-- The characters after one that must come next. -/
def mark? (m : Char) : List Char → Option (List Char)
  | c :: rest => if c = m then some rest else none
  | [] => none

/-- The number of days of a month. -/
def daysOf (year month : Nat) : Nat :=
  let leap := year % 4 = 0 && (year % 100 ≠ 0 || year % 400 = 0)
  if month = 2 then (if leap then 29 else 28)
  else if month = 4 ∨ month = 6 ∨ month = 9 ∨ month = 11 then 30
  else 31

/-- A date. -/
def date? (cs : List Char) : Option (List Char × List Char) := do
  let (year, ys, cs) ← field? 4 0 9999 cs
  let cs ← mark? '-' cs
  let (month, ms, cs) ← field? 2 1 12 cs
  let cs ← mark? '-' cs
  let (_, ds, cs) ← field? 2 1 (daysOf year month) cs
  return (ys ++ '-' :: ms ++ '-' :: ds, cs)

/-- The digits after the point of a second, nine at most and without zeros at their end, with
the point before them. -/
def fraction (ds : List Char) : List Char :=
  let kept := ((ds.take 9).reverse.dropWhile (· == '0')).reverse
  if kept.isEmpty then [] else '.' :: kept

/-- A time; its last minute may have a second more. -/
def time? (cs : List Char) : Option (List Char × List Char) := do
  let (_, hs, cs) ← field? 2 0 23 cs
  let cs ← mark? ':' cs
  let (_, ms, cs) ← field? 2 0 59 cs
  let cs ← mark? ':' cs
  let (_, ss, cs) ← field? 2 0 60 cs
  let whole := hs ++ ':' :: ms ++ ':' :: ss
  match cs with
  | '.' :: rest =>
    let ds := rest.takeWhile (Digit.isOf 10)
    if ds.isEmpty then some (whole, cs)
    else some (whole ++ fraction ds, rest.dropWhile (Digit.isOf 10))
  | _ => some (whole, cs)

/-- An offset of hours and minutes after its sign; zero is positive. -/
def signedOffset? (negative : Bool) (cs : List Char) : Option (List Char × List Char) := do
  let (hours, hs, cs) ← field? 2 0 23 cs
  let cs ← mark? ':' cs
  let (minutes, ms, cs) ← field? 2 0 59 cs
  let sign := if negative && (hours ≠ 0 || minutes ≠ 0) then '-' else '+'
  return (sign :: hs ++ ':' :: ms, cs)

/-- An offset, if there is one. -/
def offset? : List Char → Option (List Char × List Char)
  | 'Z' :: rest => some (['Z'], rest)
  | 'z' :: rest => some (['Z'], rest)
  | '+' :: rest => signedOffset? false rest
  | '-' :: rest => signedOffset? true rest
  | cs => some ([], cs)

/-- The time after a date, if there is one, with what separates them. -/
def timeAfterDate? (cs : List Char) : Option (List Char × List Char) :=
  let timed :=
    match cs with
    | c :: rest => if c = 'T' ∨ c = 't' ∨ c = ' ' then time? rest else none
    | [] => none
  match timed with
  | none => some ([], cs)
  | some (time, rest) =>
    match offset? rest with
    | none => none
    | some (offset, rest) => some ('T' :: time ++ offset, rest)

/-- A point in time. -/
def read? (cs : List Char) : Option (Tree × List Char) :=
  let read :=
    match date? cs with
    | none => time? cs
    | some (date, rest) =>
      match timeAfterDate? rest with
      | none => none
      | some (time, rest) => some (date ++ time, rest)
  match Quote.pack read with
  | some (text, rest) => some (.moment text, rest)
  | none => none

end Moment

end Telemetry.Toml
