/-
Internet addresses: their values, their text, and the reading of it.

* `IpAddr.text` — dotted decimal for version 4; for version 6 the groups in
  hexadecimal with the first longest run of two or more zero groups shortened, and
  addresses of version 4 mapped into version 6 with a dotted tail;
* `IpAddr.parse?` — accepts every text of an address: no leading zeros in dotted
  decimal, up to four hexadecimal digits in a group, one `::` for one or more zero
  groups, a dotted tail in place of the last two groups;
* `SocketAddr.text`, `SocketAddr.parse?` — an address with a port.

Design notes: a reader takes characters and returns what is left of them, so the
whole text has been read exactly when nothing is left.
-/
import Telemetry.Text.Hex

namespace Telemetry

/-- An address of version 4 (four bytes) or of version 6 (eight groups). -/
inductive IpAddr where
  | v4 (a b c d : UInt8)
  | v6 (groups : Vector UInt16 8)
deriving DecidableEq

/-- An address with a port. -/
structure SocketAddr where
  ip : IpAddr
  port : UInt16
deriving DecidableEq

namespace IpAddr

/-- The address of this host to itself, version 4. -/
def loopback : IpAddr := .v4 127 0 0 1

/-- The address of every host on the local network. -/
def limitedBroadcast : IpAddr := .v4 255 255 255 255

instance : Inhabited IpAddr := ⟨loopback⟩

/-- Four bytes in dotted decimal. -/
def dotted (a b c d : UInt8) : String :=
  toString a.toNat ++ "." ++ toString b.toNat ++ "." ++ toString c.toNat ++ "." ++ toString d.toNat

/-- The length of the run of zero groups at the front. -/
def zeroRun (groups : List UInt16) : Nat :=
  (groups.takeWhile (· == 0)).length

/-- The position and length of the first longest run of zero groups. -/
def longestZeroRun : List UInt16 → Nat × Nat
  | [] => (0, 0)
  | g :: rest =>
    let here := zeroRun (g :: rest)
    let later := longestZeroRun rest
    if later.2 ≤ here then (0, here) else (later.1 + 1, later.2)

/-- Groups in hexadecimal with colons between them. -/
def colons (groups : List UInt16) : String :=
  ":".intercalate (groups.map fun g => Hex.ofNat g.toNat)

/-- Eight groups, the longest run of two or more zeros shortened. -/
def groupsText (groups : List UInt16) : String :=
  let run := longestZeroRun groups
  if 2 ≤ run.2 then colons (groups.take run.1) ++ "::" ++ colons (groups.drop (run.1 + run.2))
  else colons groups

/-- The high byte of a group. -/
def highByte (g : UInt16) : UInt8 := (g >>> 8).toUInt8

/-- The text of an address. -/
def text : IpAddr → String
  | .v4 a b c d => dotted a b c d
  | .v6 groups =>
    match groups.toList with
    | [0, 0, 0, 0, 0, 0xFFFF, g, h] =>
      "::ffff:" ++ dotted (highByte g) g.toUInt8 (highByte h) h.toUInt8
    | gs => groupsText gs

/-- A number of at most `places` digits below `bound`; a zero may lead other
digits only if `leadingZero`. -/
def readNumber (radix places bound : Nat) (leadingZero : Bool) (cs : List Char) :
    Option (Nat × List Char) :=
  let digits := cs.takeWhile (Digit.isOf radix)
  let n := Digit.number radix digits
  if digits.isEmpty || places < digits.length || bound ≤ n then none
  else if !leadingZero && digits.head? == some '0' && 1 < digits.length then none
  else some (n, cs.dropWhile (Digit.isOf radix))

/-- One byte in decimal. -/
def readByte (cs : List Char) : Option (UInt8 × List Char) :=
  (readNumber 10 3 256 false cs).map fun p => (UInt8.ofNat p.1, p.2)

/-- The character `c`, and what follows it. -/
def readChar (c : Char) : List Char → Option (List Char)
  | [] => none
  | d :: rest => if d = c then some rest else none

/-- Four bytes in dotted decimal. -/
def readDotted (cs : List Char) : Option ((UInt8 × UInt8 × UInt8 × UInt8) × List Char) := do
  let (a, cs) ← readByte cs
  let cs ← readChar '.' cs
  let (b, cs) ← readByte cs
  let cs ← readChar '.' cs
  let (c, cs) ← readByte cs
  let cs ← readChar '.' cs
  let (d, cs) ← readByte cs
  return ((a, b, c, d), cs)

/-- One group in hexadecimal. -/
def readGroup (cs : List Char) : Option (UInt16 × List Char) :=
  (readNumber 16 4 65536 true cs).map fun p => (UInt16.ofNat p.1, p.2)

/-- A group from its two bytes. -/
def groupOfBytes (high low : UInt8) : UInt16 :=
  high.toUInt16 <<< 8 ||| low.toUInt16

/-- What stands before a group: a colon, unless it is the first one. -/
def readSeparator (first : Bool) (cs : List Char) : Option (List Char) :=
  if first then some cs else readChar ':' cs

/-- Up to `room` groups, whether a dotted tail ended them, and what is left. -/
def readGroups : Nat → Bool → List Char → List UInt16 × Bool × List Char
  | 0, _, cs => ([], false, cs)
  | room + 1, first, cs =>
    let tail := if room = 0 then none else (readSeparator first cs).bind readDotted
    match tail with
    | some ((a, b, c, d), rest) => ([groupOfBytes a b, groupOfBytes c d], true, rest)
    | none =>
      match (readSeparator first cs).bind readGroup with
      | none => ([], false, cs)
      | some (g, rest) =>
        let (gs, dottedTail, rest) := readGroups room false rest
        (g :: gs, dottedTail, rest)

/-- An address of eight groups, if there are eight. -/
def ofGroups? (groups : List UInt16) : Option IpAddr :=
  if h : groups.length = 8 then some (.v6 ⟨groups.toArray, by simpa using h⟩) else none

/-- An address of version 6. -/
def readV6 (cs : List Char) : Option (IpAddr × List Char) :=
  let (head, dottedTail, rest) := readGroups 8 true cs
  if head.length = 8 then (ofGroups? head).map (·, rest)
  else if dottedTail then none
  else do
    let rest ← readChar ':' rest
    let rest ← readChar ':' rest
    let (tail, _, rest) := readGroups (7 - head.length) true rest
    let zeros := List.replicate (8 - head.length - tail.length) 0
    (ofGroups? (head ++ zeros ++ tail)).map (·, rest)

/-- An address of version 4. -/
def readV4 (cs : List Char) : Option (IpAddr × List Char) :=
  (readDotted cs).map fun ((a, b, c, d), rest) => (.v4 a b c d, rest)

/-- The value of a reader that has read the whole text. -/
def whole {α : Type} : Option (α × List Char) → Option α
  | some (a, []) => some a
  | _ => none

/-- The address a text stands for. -/
def parse? (s : String) : Option IpAddr :=
  whole ((readV4 s.toList).or (readV6 s.toList))

/-- What is said of a text that is no address. -/
def syntaxRefusal : String := "invalid IP address syntax"

/-- Whether an address is one for every host of a network of 256 addresses. -/
def isBroadcast : IpAddr → Bool
  | .v4 _ _ _ d => d == 255
  | .v6 _ => false

/-- The broadcast address of the /24 network of an address of version 4. -/
def subnetBroadcast : IpAddr → IpAddr
  | .v4 a b c _ => .v4 a b c 255
  | .v6 _ => limitedBroadcast

end IpAddr

namespace SocketAddr

/-- The text of an address and port. -/
def text (a : SocketAddr) : String :=
  match a.ip with
  | .v4 .. => a.ip.text ++ ":" ++ toString a.port.toNat
  | .v6 _ => "[" ++ a.ip.text ++ "]:" ++ toString a.port.toNat

/-- A colon and a port. -/
def readPort (cs : List Char) : Option (UInt16 × List Char) := do
  let cs ← IpAddr.readChar ':' cs
  let (n, cs) ← IpAddr.readNumber 10 cs.length 65536 true cs
  return (UInt16.ofNat n, cs)

/-- A zone after a percent sign, which has no part in the address. -/
def skipZone : List Char → Option (List Char)
  | '%' :: cs => (IpAddr.readNumber 10 cs.length 4294967296 true cs).map (·.2)
  | cs => some cs

/-- An address of version 6 in brackets, with a port. -/
def readV6 (cs : List Char) : Option (SocketAddr × List Char) := do
  let cs ← IpAddr.readChar '[' cs
  let (ip, cs) ← IpAddr.readV6 cs
  let cs ← skipZone cs
  let cs ← IpAddr.readChar ']' cs
  let (port, cs) ← readPort cs
  return (⟨ip, port⟩, cs)

/-- An address of version 4, with a port. -/
def readV4 (cs : List Char) : Option (SocketAddr × List Char) := do
  let (ip, cs) ← IpAddr.readV4 cs
  let (port, cs) ← readPort cs
  return (⟨ip, port⟩, cs)

/-- The address and port a text stands for. -/
def parse? (s : String) : Option SocketAddr :=
  IpAddr.whole ((readV4 s.toList).or (readV6 s.toList))

end SocketAddr

end Telemetry
