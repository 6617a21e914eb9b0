/-
The text of an address is read back as the address.

Every address has one text, and reading it gives the address again. A reader takes as much as it
can, so each step is about what may follow: behind a number no digit of its radix, behind the
groups of a shortened address nothing or the two colons.

* `IpAddr.readDotted_dotted` — four bytes with points between them;
* `IpAddr.readGroups_groupChars` — groups with colons between them;
* `IpAddr.longestZeroRun_spec` — what the two colons stand for;
* **`IpAddr.parse?_text`** — the text of an address of either version;
* **`Destination.ofText?_text`** — the text of a destination, because no address is the word
  `broadcast`.
-/
import Telemetry.Config.Destination
import Telemetry.Proofs.Text.Digits

namespace Telemetry

namespace IpAddr

/-! ### Numbers -/

/-- A number in digits is read back if it is small enough and no digit follows. -/
theorem readNumber_toDigits {radix places bound n : Nat} (hradix : 1 < radix) (hle : radix ≤ 16)
    (leadingZero : Bool) (hbound : n < bound) (hplaces : (Nat.toDigits radix n).length ≤ places)
    {rest : List Char} (hrest : rest.takeWhile (Digit.isOf radix) = []) :
    readNumber radix places bound leadingZero (Nat.toDigits radix n ++ rest) = some (n, rest) := by
  have hdigits : ∀ c ∈ Nat.toDigits radix n, Digit.isOf radix c = true :=
    fun c hc => Digit.isOf_of_mem_toDigits hradix hle hc
  have htaken : (Nat.toDigits radix n ++ rest).takeWhile (Digit.isOf radix) =
      Nat.toDigits radix n := by
    rw [List.takeWhile_append_of_pos hdigits, hrest, List.append_nil]
  have hleft : (Nat.toDigits radix n ++ rest).dropWhile (Digit.isOf radix) = rest := by
    rw [List.dropWhile_append_of_pos hdigits]
    have hsplit : rest.takeWhile (Digit.isOf radix) ++ rest.dropWhile (Digit.isOf radix) = rest :=
      List.takeWhile_append_dropWhile
    rwa [hrest, List.nil_append] at hsplit
  have hempty : (Nat.toDigits radix n).isEmpty = false :=
    List.isEmpty_eq_false_iff.mpr Nat.toDigits_ne_nil
  -- a zero has one digit, and other numbers do not begin with one
  have hzero : ((Nat.toDigits radix n).head? == some '0' && 1 < (Nat.toDigits radix n).length) =
      false := by
    rcases Nat.eq_zero_or_pos n with rfl | hn
    · rw [Nat.toDigits_of_lt_base (by omega)]
      simp
    · have hhead := Digit.head?_toDigits hradix hle hn
      simp [hhead]
  rw [readNumber, htaken, hleft, Digit.number_toDigits hradix hle]
  simp only [hempty, Bool.and_assoc, hzero]
  simp
  omega

/-- A byte in decimal. -/
theorem readByte_toDigits (b : UInt8) {rest : List Char}
    (hrest : rest.takeWhile (Digit.isOf 10) = []) :
    readByte (Nat.toDigits 10 b.toNat ++ rest) = some (b, rest) := by
  have hb : b.toNat < 256 := b.toNat_lt
  have hlength : (Nat.toDigits 10 b.toNat).length ≤ 3 :=
    (Nat.length_toDigits_le_iff (by decide) (by decide)).mpr (by omega)
  rw [readByte, readNumber_toDigits (by decide) (by decide) false hb hlength hrest]
  simp

/-- A group in hexadecimal. -/
theorem readGroup_toDigits (g : UInt16) {rest : List Char}
    (hrest : rest.takeWhile (Digit.isOf 16) = []) :
    readGroup (Nat.toDigits 16 g.toNat ++ rest) = some (g, rest) := by
  have hg : g.toNat < 65536 := g.toNat_lt
  have hlength : (Nat.toDigits 16 g.toNat).length ≤ 4 :=
    (Nat.length_toDigits_le_iff (by decide) (by decide)).mpr (by omega)
  rw [readGroup, readNumber_toDigits (by decide) (by decide) true hg hlength hrest]
  simp

/-! ### Dotted decimal -/

/-- The characters of four bytes in dotted decimal. -/
theorem toList_dotted (a b c d : UInt8) :
    (dotted a b c d).toList = Nat.toDigits 10 a.toNat ++ '.' :: (Nat.toDigits 10 b.toNat ++
      '.' :: (Nat.toDigits 10 c.toNat ++ '.' :: Nat.toDigits 10 d.toNat)) := by
  simp [dotted]

/-- No decimal digit is the point. -/
theorem takeWhile_point (rest : List Char) : ('.' :: rest).takeWhile (Digit.isOf 10) = [] := by
  have hpoint : Digit.isOf 10 '.' = false := by decide
  simp [hpoint]

/-- Four bytes in dotted decimal are read back if no digit follows. -/
theorem readDotted_dotted (a b c d : UInt8) {rest : List Char}
    (hrest : rest.takeWhile (Digit.isOf 10) = []) :
    readDotted ((dotted a b c d).toList ++ rest) = some ((a, b, c, d), rest) := by
  simp [toList_dotted, readDotted, readChar, readByte_toDigits, takeWhile_point, hrest]

/-- What a number leaves is the end of what it was read from. -/
theorem readNumber_suffix {radix places bound n : Nat} {leadingZero : Bool} {cs rest : List Char}
    (h : readNumber radix places bound leadingZero cs = some (n, rest)) : rest <:+ cs := by
  unfold readNumber at h
  simp only at h
  split at h
  · cases h
  · split at h
    · cases h
    · obtain ⟨-, rfl⟩ : _ ∧ cs.dropWhile (Digit.isOf radix) = rest := by simpa using h
      exact List.dropWhile_suffix _

/-- Characters without a point are no four bytes in dotted decimal. -/
theorem readDotted_of_not_mem {cs : List Char} (h : '.' ∉ cs) : readDotted cs = none := by
  cases hbyte : readByte cs with
  | none => simp [readDotted, hbyte]
  | some p =>
    obtain ⟨a, rest⟩ := p
    have hsuffix : rest <:+ cs := by
      rw [readByte, Option.map_eq_some_iff] at hbyte
      obtain ⟨⟨n, left⟩, hnumber, heq⟩ := hbyte
      obtain rfl : left = rest := by simpa using (Prod.ext_iff.mp heq).2
      exact readNumber_suffix hnumber
    have hpoint : readChar '.' rest = none := by
      cases rest with
      | nil => rfl
      | cons c rest =>
        have hc : c ≠ '.' := fun hc => h (hsuffix.subset (by simp [hc]))
        simp [readChar, hc]
    simp [readDotted, hbyte, hpoint]

/-! ### Groups -/

/-- Groups in hexadecimal, a colon before each of them but the first. -/
def groupChars : Bool → List UInt16 → List Char
  | _, [] => []
  | true, g :: gs => Nat.toDigits 16 g.toNat ++ groupChars false gs
  | false, g :: gs => ':' :: (Nat.toDigits 16 g.toNat ++ groupChars false gs)

theorem toList_colons (groups : List UInt16) : (colons groups).toList = groupChars true groups := by
  induction groups with
  | nil => simp [colons, groupChars]
  | cons g rest ih =>
    cases rest with
    | nil => simp [colons, groupChars, Hex.ofNat]
    | cons h rest =>
      rw [groupChars]
      rw [groupChars] at ih
      simp [colons, Hex.ofNat] at ih ⊢
      simpa [groupChars] using ih

theorem mem_groupChars {c : Char} {first : Bool} {groups : List UInt16}
    (h : c ∈ groupChars first groups) : c = ':' ∨ ∃ d < 16, c = Nat.digitChar d := by
  induction groups generalizing first with
  | nil => simp [groupChars] at h
  | cons g rest ih =>
    have hmem : c = ':' ∨ c ∈ Nat.toDigits 16 g.toNat ∨ c ∈ groupChars false rest := by
      cases first with
      | true => exact Or.inr (by simpa [groupChars] using h)
      | false => simpa [groupChars] using h
    rcases hmem with hcolon | hdigit | hrest
    · exact Or.inl hcolon
    · exact Or.inr (Digit.exists_of_mem_toDigits (by decide) _ hdigit)
    · exact ih hrest

/-- Groups have no point. -/
theorem point_notMem_groupChars (first : Bool) (groups : List UInt16) :
    '.' ∉ groupChars first groups := by
  intro hmem
  obtain hcolon | ⟨d, -, hd⟩ := mem_groupChars hmem
  · exact absurd hcolon (by decide)
  · exact Nat.digitChar_ne '.' (by decide) hd.symm

/-- What may follow the groups of one side: nothing, or the two colons. -/
def Ends (rest : List Char) : Prop := rest = [] ∨ ∃ cs, rest = ':' :: ':' :: cs

/-- No digit is the colon. -/
theorem takeWhile_colon (rest : List Char) : (':' :: rest).takeWhile (Digit.isOf 16) = [] := by
  have hcolon : Digit.isOf 16 ':' = false := by decide
  simp [hcolon]

theorem readGroup_colon (rest : List Char) : readGroup (':' :: rest) = none := by
  simp [readGroup, readNumber, takeWhile_colon]

/-- Behind a group no digit follows. -/
theorem takeWhile_groupChars (groups : List UInt16) {rest : List Char} (h : Ends rest) :
    (groupChars false groups ++ rest).takeWhile (Digit.isOf 16) = [] := by
  cases groups with
  | cons g gs => exact takeWhile_colon _
  | nil =>
    obtain rfl | ⟨cs, rfl⟩ := h
    · rfl
    · exact takeWhile_colon _

/-- Where the groups end, no further one is read. -/
theorem readGroup_of_ends (first : Bool) {rest : List Char} (h : Ends rest) :
    (readSeparator first rest).bind readGroup = none := by
  obtain rfl | ⟨cs, rfl⟩ := h
  · cases first <;> rfl
  · cases first <;> simp [readSeparator, readChar, readGroup_colon]

/-- Without a point among the characters no dotted tail is read. -/
theorem readDotted_separated {first : Bool} {cs : List Char} (h : '.' ∉ cs) :
    (readSeparator first cs).bind readDotted = none := by
  cases first with
  | true => exact readDotted_of_not_mem h
  | false =>
    cases cs with
    | nil => rfl
    | cons c cs =>
      have hcs : '.' ∉ cs := fun hmem => h (List.mem_cons_of_mem c hmem)
      by_cases hc : c = ':'
      · simp [readSeparator, readChar, hc, readDotted_of_not_mem hcs]
      · simp [readSeparator, readChar, hc]

/-- A dotted tail ends the groups. -/
theorem readGroups_of_dotted {room : Nat} {first : Bool} {cs rest : List Char} {a b c d : UInt8}
    (h : (readSeparator first cs).bind readDotted = some ((a, b, c, d), rest)) :
    readGroups (room + 2) first cs = ([groupOfBytes a b, groupOfBytes c d], true, rest) := by
  simp [readGroups, h]

/-- A group stands before the others. -/
theorem readGroups_of_group {room : Nat} {first : Bool} {cs rest : List Char} {g : UInt16}
    (hdotted : (readSeparator first cs).bind readDotted = none)
    (hgroup : (readSeparator first cs).bind readGroup = some (g, rest)) :
    readGroups (room + 1) first cs =
      (g :: (readGroups room false rest).1, (readGroups room false rest).2) := by
  simp [readGroups, hdotted, hgroup]

/-- Where there is no further group, the groups end. -/
theorem readGroups_of_neither {room : Nat} {first : Bool} {cs : List Char}
    (hdotted : (readSeparator first cs).bind readDotted = none)
    (hgroup : (readSeparator first cs).bind readGroup = none) :
    readGroups room first cs = ([], false, cs) := by
  cases room with
  | zero => rfl
  | succ room => simp [readGroups, hdotted, hgroup]

/-- Groups are read back if there is room for them and they end. -/
theorem readGroups_groupChars {groups : List UInt16} {room : Nat} (first : Bool)
    {rest : List Char} (hroom : groups.length ≤ room) (hends : Ends rest) (hpoint : '.' ∉ rest) :
    readGroups room first (groupChars first groups ++ rest) = (groups, false, rest) := by
  induction groups generalizing room first with
  | nil =>
    rw [groupChars, List.nil_append]
    exact readGroups_of_neither (readDotted_separated hpoint) (readGroup_of_ends first hends)
  | cons g gs ih =>
    obtain ⟨room, rfl⟩ : ∃ r, room = r + 1 := Nat.exists_eq_succ_of_ne_zero (by
      rintro rfl
      simp at hroom)
    have hnone : '.' ∉ groupChars first (g :: gs) ++ rest := by
      rw [List.mem_append, not_or]
      exact ⟨point_notMem_groupChars first _, hpoint⟩
    have hgroup : (readSeparator first (groupChars first (g :: gs) ++ rest)).bind readGroup =
        some (g, groupChars false gs ++ rest) := by
      have hread := readGroup_toDigits g (takeWhile_groupChars gs hends)
      cases first <;> simpa [groupChars, readSeparator, readChar] using hread
    have hgs : readGroups room false (groupChars false gs ++ rest) = (gs, false, rest) :=
      ih false (by simpa using hroom)
    rw [readGroups_of_group (readDotted_separated hnone) hgroup, hgs]

/-! ### The longest run of zeros -/

/-- The run of zeros at the front, and what is behind it. -/
theorem zeroRun_spec (groups : List UInt16) :
    List.replicate (zeroRun groups) 0 ++ groups.drop (zeroRun groups) = groups := by
  induction groups with
  | nil => rfl
  | cons g rest ih =>
    by_cases hg : g = 0
    · have hrun : zeroRun (g :: rest) = zeroRun rest + 1 := by simp [zeroRun, hg]
      rw [hrun, List.replicate_succ, List.drop_succ_cons, List.cons_append, ih, hg]
    · have hrun : zeroRun (g :: rest) = 0 := by simp [zeroRun, hg]
      rw [hrun]
      rfl

theorem zeroRun_le_length (groups : List UInt16) : zeroRun groups ≤ groups.length := by
  rw [zeroRun]
  exact (List.takeWhile_prefix _).length_le

/-- The longest run is one of zeros, between the groups before it and those behind it. -/
theorem longestZeroRun_spec (groups : List UInt16) :
    groups.take (longestZeroRun groups).1 ++ List.replicate (longestZeroRun groups).2 0 ++
      groups.drop ((longestZeroRun groups).1 + (longestZeroRun groups).2) = groups := by
  induction groups with
  | nil => rfl
  | cons g rest ih =>
    by_cases hfirst : (longestZeroRun rest).2 ≤ zeroRun (g :: rest)
    · -- no later run is longer than the one that begins here
      simp [longestZeroRun, hfirst, zeroRun_spec]
    · rw [longestZeroRun, if_neg hfirst, Nat.add_right_comm, List.take_succ_cons,
        List.drop_succ_cons, List.cons_append, List.cons_append, ih]

/-- The longest run ends where the groups do, or before. -/
theorem longestZeroRun_le_length (groups : List UInt16) :
    (longestZeroRun groups).1 + (longestZeroRun groups).2 ≤ groups.length := by
  induction groups with
  | nil => exact Nat.le_refl 0
  | cons g rest ih =>
    by_cases hfirst : (longestZeroRun rest).2 ≤ zeroRun (g :: rest)
    · simpa [longestZeroRun, hfirst] using zeroRun_le_length (g :: rest)
    · simp only [longestZeroRun, if_neg hfirst, List.length_cons]
      omega

/-! ### Addresses -/

theorem ofGroups?_toList (groups : Vector UInt16 8) :
    ofGroups? groups.toList = some (.v6 groups) := by
  simp [ofGroups?, Vector.toList]

/-- A group is made of its two bytes. -/
theorem groupOfBytes_bytes (g : UInt16) : groupOfBytes (highByte g) g.toUInt8 = g := by
  have hg : g.toNat < 65536 := g.toNat_lt
  have hhigh : (highByte g).toNat = g.toNat / 256 := by
    simp [highByte, Nat.shiftRight_eq_div_pow]
    omega
  have hor : (g.toNat / 256) <<< 8 + g.toNat % 256 = (g.toNat / 256) <<< 8 ||| g.toNat % 256 :=
    Nat.shiftLeft_add_eq_or_of_lt (by omega) _
  have hlt : (g.toNat / 256) <<< 8 < 65536 := by
    rw [Nat.shiftLeft_eq]
    omega
  apply UInt16.toNat_inj.mp
  simp only [groupOfBytes, UInt16.toNat_or, UInt16.toNat_shiftLeft, UInt8.toNat_toUInt16, hhigh]
  simp
  rw [Nat.mod_eq_of_lt hlt, ← hor, Nat.shiftLeft_eq]
  omega

/-- All eight groups are read back. -/
theorem readV6_colons (groups : Vector UInt16 8) :
    readV6 (colons groups.toList).toList = some (.v6 groups, []) := by
  have hread : readGroups 8 true (groupChars true groups.toList ++ []) =
      (groups.toList, false, []) :=
    readGroups_groupChars true (by simp) (Or.inl rfl) (by simp)
  rw [List.append_nil] at hread
  simp [toList_colons, readV6, hread, ofGroups?_toList]

/-- What the readers of both sides of two colons make of them. -/
theorem readV6_of_groups {cs inner rest : List Char} {head tail : List UInt16}
    {dottedTail : Bool} (hlength : head.length < 8)
    (hhead : readGroups 8 true cs = (head, false, ':' :: ':' :: inner))
    (htail : readGroups (7 - head.length) true inner = (tail, dottedTail, rest)) :
    readV6 cs = (ofGroups? (head ++ List.replicate (8 - head.length - tail.length) 0 ++ tail)).map
      (·, rest) := by
  have hne : head.length ≠ 8 := by omega
  simp [readV6, hhead, htail, hne, readChar]

/-- Groups on both sides of two colons are read back with zeros between them. -/
theorem readV6_shortened {head tail : List UInt16} (h : head.length + tail.length < 8) :
    readV6 (groupChars true head ++ ':' :: ':' :: groupChars true tail) =
      (ofGroups? (head ++ List.replicate (8 - head.length - tail.length) 0 ++ tail)).map
        (·, []) := by
  have hpoint : '.' ∉ ':' :: ':' :: groupChars true tail := by
    simp [point_notMem_groupChars]
  have hhead : readGroups 8 true (groupChars true head ++ ':' :: ':' :: groupChars true tail) =
      (head, false, ':' :: ':' :: groupChars true tail) :=
    readGroups_groupChars true (by omega) (Or.inr ⟨_, rfl⟩) hpoint
  have htail : readGroups (7 - head.length) true (groupChars true tail ++ []) =
      (tail, false, []) :=
    readGroups_groupChars true (by omega) (Or.inl rfl) (by simp)
  rw [List.append_nil] at htail
  exact readV6_of_groups (by omega) hhead htail

/-- The text of eight groups is read back, shortened or not. -/
theorem readV6_groupsText (groups : Vector UInt16 8) :
    readV6 (groupsText groups.toList).toList = some (.v6 groups, []) := by
  have hspec := longestZeroRun_spec groups.toList
  have hle := longestZeroRun_le_length groups.toList
  rw [groupsText]
  generalize longestZeroRun groups.toList = run at hspec hle ⊢
  obtain ⟨start, zeros⟩ := run
  by_cases hrun : 2 ≤ zeros
  · have hhead : (groups.toList.take start).length = start := by
      rw [List.length_take]
      omega
    have htail : (groups.toList.drop (start + zeros)).length = 8 - (start + zeros) := by simp
    rw [Vector.length_toList] at hle
    have hzeros : 8 - start - (8 - (start + zeros)) = zeros := by omega
    have hread := readV6_shortened
      (show (groups.toList.take start).length + (groups.toList.drop (start + zeros)).length < 8 by
        omega)
    rw [hhead, htail, hzeros, hspec, ofGroups?_toList] at hread
    simpa [hrun, toList_colons] using hread
  · simpa [hrun] using readV6_colons groups

/-- No decimal digit begins the text. -/
theorem readDotted_of_takeWhile {cs : List Char} (h : cs.takeWhile (Digit.isOf 10) = []) :
    readDotted cs = none := by
  simp [readDotted, readByte, readNumber, h]

/-- An address of version 4 within version 6 is read back. -/
theorem readV6_mapped {groups : Vector UInt16 8} {g h : UInt16}
    (hgroups : groups.toList = [0, 0, 0, 0, 0, 0xFFFF, g, h]) :
    readV6 ("::ffff:" ++ dotted (highByte g) g.toUInt8 (highByte h) h.toUInt8).toList =
      some (.v6 groups, []) := by
  have hdotted : readDotted (dotted (highByte g) g.toUInt8 (highByte h) h.toUInt8).toList =
      some ((highByte g, g.toUInt8, highByte h, h.toUInt8), []) := by
    simpa using readDotted_dotted (highByte g) g.toUInt8 (highByte h) h.toUInt8
      (show ([] : List Char).takeWhile (Digit.isOf 10) = [] from rfl)
  generalize (dotted (highByte g) g.toUInt8 (highByte h) h.toUInt8) = tail at hdotted ⊢
  have hchars : ("::ffff:" ++ tail).toList =
      ':' :: ':' :: (['f', 'f', 'f', 'f'] ++ ':' :: tail.toList) := by simp
  rw [hchars]
  -- nothing stands before the two colons
  have hhead : readGroups 8 true (':' :: ':' :: (['f', 'f', 'f', 'f'] ++ ':' :: tail.toList)) =
      ([], false, ':' :: ':' :: (['f', 'f', 'f', 'f'] ++ ':' :: tail.toList)) := by
    have hcolon : Digit.isOf 10 ':' = false := by decide
    exact readGroups_of_neither (readDotted_of_takeWhile (by simp [hcolon])) (readGroup_colon _)
  -- behind them stand one group and the dotted tail
  have hnone : (readSeparator true (['f', 'f', 'f', 'f'] ++ ':' :: tail.toList)).bind readDotted =
      none := by
    have hf : Digit.isOf 10 'f' = false := by decide
    exact readDotted_of_takeWhile (by simp [hf])
  have hgroup : (readSeparator true (['f', 'f', 'f', 'f'] ++ ':' :: tail.toList)).bind readGroup =
      some (0xFFFF, ':' :: tail.toList) := by
    have hdigits : Nat.toDigits 16 (0xFFFF : UInt16).toNat = ['f', 'f', 'f', 'f'] := by decide
    rw [← hdigits]
    exact readGroup_toDigits 0xFFFF (takeWhile_colon _)
  have hbytes : (readSeparator false (':' :: tail.toList)).bind readDotted =
      some ((highByte g, g.toUInt8, highByte h, h.toUInt8), []) := by
    simpa [readSeparator, readChar] using hdotted
  have htail : readGroups 7 true (['f', 'f', 'f', 'f'] ++ ':' :: tail.toList) =
      ([0xFFFF, g, h], true, []) := by
    rw [readGroups_of_group hnone hgroup, readGroups_of_dotted hbytes, groupOfBytes_bytes,
      groupOfBytes_bytes]
  rw [readV6_of_groups (by decide) hhead htail]
  have hzeros : [] ++ List.replicate (8 - ([] : List UInt16).length - [0xFFFF, g, h].length) 0 ++
      [0xFFFF, g, h] = groups.toList := by
    rw [hgroups]
    rfl
  rw [hzeros, ofGroups?_toList, Option.map_some]

/-- The text of an address of version 6 is none of version 4. -/
theorem readV4_groupsText (groups : List UInt16) : readV4 (groupsText groups).toList = none := by
  have hpoint : '.' ∉ (groupsText groups).toList := by
    rw [groupsText]
    split <;> simp [toList_colons, point_notMem_groupChars]
  rw [readV4, readDotted_of_not_mem hpoint, Option.map_none]

/-- The text of an address is read back as the address. -/
theorem parse?_text (ip : IpAddr) : parse? ip.text = some ip := by
  cases ip with
  | v4 a b c d =>
    have hread := readDotted_dotted a b c d
      (show ([] : List Char).takeWhile (Digit.isOf 10) = [] from rfl)
    rw [List.append_nil] at hread
    simp [parse?, text, readV4, hread, whole]
  | v6 groups =>
    simp only [text]
    split
    · rename_i g h hgroups
      have hcolon : Digit.isOf 10 ':' = false := by decide
      have hread := readV6_mapped hgroups
      have hnone : readV4 ("::ffff:" ++
          dotted (highByte g) g.toUInt8 (highByte h) h.toUInt8).toList = none := by
        rw [readV4, readDotted_of_takeWhile (by simp [hcolon]), Option.map_none]
      rw [parse?, hnone, hread]
      rfl
    · rw [parse?, readV4_groupsText, readV6_groupsText]
      rfl

/-! ### The characters of a text -/

theorem mem_dotted {c : Char} {a b d e : UInt8} (h : c ∈ (dotted a b d e).toList) :
    c = '.' ∨ ∃ n < 16, c = Nat.digitChar n := by
  have hdigit : ∀ byte : UInt8, c ∈ Nat.toDigits 10 byte.toNat → ∃ n < 16, c = Nat.digitChar n := by
    intro byte hmem
    obtain ⟨n, hn, rfl⟩ := Digit.exists_of_mem_toDigits (by decide) _ hmem
    exact ⟨n, by omega, rfl⟩
  simp only [toList_dotted, List.mem_append, List.mem_cons] at h
  grind

/-- A text of an address has digits, points and colons. -/
theorem mem_text {c : Char} {ip : IpAddr} (h : c ∈ ip.text.toList) :
    c = '.' ∨ c = ':' ∨ ∃ n < 16, c = Nat.digitChar n := by
  cases ip with
  | v4 a b c d =>
    rcases mem_dotted h with hpoint | hdigit
    · exact Or.inl hpoint
    · exact Or.inr (Or.inr hdigit)
  | v6 groups =>
    simp only [text] at h
    split at h
    · rw [String.toList_append, List.mem_append] at h
      rcases h with hfront | hbytes
      · have hword : c = ':' ∨ c = 'f' ∨ c = ':' := by simpa using hfront
        rcases hword with rfl | rfl | rfl
        · exact Or.inr (Or.inl rfl)
        · exact Or.inr (Or.inr ⟨15, by decide, rfl⟩)
        · exact Or.inr (Or.inl rfl)
      · rcases mem_dotted hbytes with hpoint | hdigit
        · exact Or.inl hpoint
        · exact Or.inr (Or.inr hdigit)
    · right
      rw [groupsText] at h
      split at h
      · simp only [String.toList_append, toList_colons, List.mem_append] at h
        rcases h with (hhead | hcolons) | htail
        · exact mem_groupChars hhead
        · exact Or.inl (by simpa using hcolons)
        · exact mem_groupChars htail
      · rw [toList_colons] at h
        exact mem_groupChars h

end IpAddr

namespace Destination

/-- No address is the word for every host. -/
theorem sameWord_text (ip : IpAddr) : sameWord ip.text broadcastWord = false := by
  have hr : ∀ c ∈ ip.text.toList, c.toLower ≠ 'r' := by
    intro c hc
    have hdigits : ∀ n < 16, (Nat.digitChar n).toLower ≠ 'r' := by decide
    rcases IpAddr.mem_text hc with rfl | rfl | ⟨n, hn, rfl⟩
    · decide
    · decide
    · exact hdigits n hn
  rw [sameWord, beq_eq_false_iff_ne]
  intro hsame
  have hmem : 'r' ∈ ip.text.toList.map Char.toLower := by
    rw [hsame]
    decide
  obtain ⟨c, hc, hlower⟩ := List.mem_map.mp hmem
  exact hr c hc hlower

/-- The text of a destination is read back as the destination. -/
theorem ofText?_text (d : Destination) : ofText? d.text = some d := by
  cases d with
  | broadcast => simp [ofText?, text, sameWord]
  | address ip => simp [ofText?, text, sameWord_text, IpAddr.parse?_text]

end Destination

end Telemetry
