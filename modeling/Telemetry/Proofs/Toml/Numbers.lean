/-
An integer of a document is read back as the integer.

An integer is written in decimal, with a minus if it is negative. In the documents of the printer
the end of a line, a comma or a closing bracket follows it, so no reader of another kind of
number, or of points in time, gets further than the digits.

* `Number.digits?_append`, `Number.whole?_toDigits` — digits as far as they go;
* `Moment.read?_intChars` — an integer is no point in time;
* **`Number.read?_intChars`** — an integer that fits is read back.
-/
import Telemetry.Proofs.Text.Digits
import Telemetry.Toml.Reader

namespace Telemetry.Toml

/-- What may follow an integer: the end of a line, a comma or a closing bracket. -/
def EndsInt (rest : List Char) : Prop :=
  ∃ c tail, rest = c :: tail ∧ (c = '\n' ∨ c = ',' ∨ c = ']')

/-- Whether an integer fits the notation. -/
def FitsInt (i : Int) : Prop := -9223372036854775808 ≤ i ∧ i < 9223372036854775808

/-- The characters of an integer. -/
def intChars : Int → List Char
  | .ofNat n => Nat.toDigits 10 n
  | .negSucc n => '-' :: Nat.toDigits 10 (n + 1)

@[simp]
theorem toList_repr_int (i : Int) : i.repr.toList = intChars i := by
  cases i with
  | ofNat n =>
    show (Nat.repr n).toList = Nat.toDigits 10 n
    rw [Nat.repr_eq_ofList_toDigits, String.toList_ofList]
  | negSucc n =>
    show ("-" ++ Nat.repr (n + 1)).toList = '-' :: Nat.toDigits 10 (n + 1)
    rw [Nat.repr_eq_ofList_toDigits, String.toList_append, String.toList_ofList,
      String.toList_ofList]
    rfl

theorem isOf_of_endsInt {c : Char} (h : c = '\n' ∨ c = ',' ∨ c = ']') :
    Digit.isOf 10 c = false := by
  rcases h with rfl | rfl | rfl <;> decide

/-- A decimal digit is none of the other characters that the readers look for. -/
theorem ne_of_isOf {c d : Char} (hc : Digit.isOf 10 c = true) (hd : Digit.isOf 10 d = false) :
    c ≠ d := by
  rintro rfl
  rw [hc] at hd
  cases hd

/-- Digits of a number begin with a zero only if it is zero. -/
theorem toDigits_eq_cons (n : Nat) :
    ∃ d ds, Nat.toDigits 10 n = d :: ds ∧ Digit.isOf 10 d = true ∧ (0 < n → d ≠ '0') := by
  obtain ⟨d, ds, hds⟩ :=
    List.exists_cons_of_ne_nil (Nat.toDigits_ne_nil : Nat.toDigits 10 n ≠ [])
  have hmem : d ∈ Nat.toDigits 10 n := by simp [hds]
  refine ⟨d, ds, hds, Digit.isOf_of_mem_toDigits (by decide) (by decide) hmem, fun hn => ?_⟩
  have hhead := Digit.head?_toDigits (show 1 < 10 by decide) (by decide) hn
  rw [hds] at hhead
  simpa using hhead

namespace Number

theorem moreDigits?_append {ds rest : List Char} (hdigits : ∀ c ∈ ds, Digit.isOf 10 c = true)
    (hrest : EndsInt rest) : moreDigits? 10 (ds ++ rest) = some (ds, rest) := by
  induction ds with
  | nil =>
    obtain ⟨c, tail, rfl, hc⟩ := hrest
    have hdigit := isOf_of_endsInt hc
    have hscore : c ≠ '_' := by rcases hc with rfl | rfl | rfl <;> decide
    simp [moreDigits?, hdigit, hscore]
  | cons d ds ih =>
    have hd := hdigits d List.mem_cons_self
    have hscore : d ≠ '_' := ne_of_isOf hd (by decide)
    have hread := ih fun c hc => hdigits c (List.mem_cons_of_mem d hc)
    simp [moreDigits?, hd, hscore, hread, Quote.before]

theorem digits?_append {ds rest : List Char} (hne : ds ≠ [])
    (hdigits : ∀ c ∈ ds, Digit.isOf 10 c = true) (hrest : EndsInt rest) :
    digits? 10 (ds ++ rest) = some (ds, rest) := by
  obtain ⟨d, ds, rfl⟩ := List.exists_cons_of_ne_nil hne
  have hread := moreDigits?_append (fun c hc => hdigits c (List.mem_cons_of_mem d hc)) hrest
  simp [digits?, hdigits d List.mem_cons_self, hread, Quote.before]

theorem whole?_toDigits (n : Nat) {rest : List Char} (hrest : EndsInt rest) :
    whole? (Nat.toDigits 10 n ++ rest) = some (Nat.toDigits 10 n, rest) := by
  have hdigits : ∀ c ∈ Nat.toDigits 10 n, Digit.isOf 10 c = true :=
    fun c hc => Digit.isOf_of_mem_toDigits (by decide) (by decide) hc
  have hread := digits?_append Nat.toDigits_ne_nil hdigits hrest
  rcases Nat.eq_zero_or_pos n with rfl | hn
  · simp [whole?]
  · obtain ⟨d, ds, hds, -, hzero⟩ := toDigits_eq_cons n
    rw [hds, List.cons_append] at hread ⊢
    simp [whole?, hzero hn, hread]

/-- Digits have no sign. -/
theorem sign_toDigits (n : Nat) (rest : List Char) :
    sign (Nat.toDigits 10 n ++ rest) = (false, Nat.toDigits 10 n ++ rest) := by
  obtain ⟨d, ds, hds, hd, -⟩ := toDigits_eq_cons n
  have hminus : d ≠ '-' := ne_of_isOf hd (by decide)
  have hplus : d ≠ '+' := ne_of_isOf hd (by decide)
  simp [hds, sign, hminus, hplus]

/-- Digits with or without a minus are read as an integer if neither a point nor an exponent
follows. -/
theorem decimal?_digits {negative : Bool} {n : Nat} {cs rest : List Char} {v : Tree}
    (hsign : sign cs = (negative, Nat.toDigits 10 n ++ rest))
    (hint : int? (if negative then -Int.ofNat n else Int.ofNat n) = some v)
    (hrest : EndsInt rest) : decimal? cs = some (v, rest) := by
  have hfraction : fraction? rest = some ([], rest) := by
    obtain ⟨c, tail, rfl, hc⟩ := hrest
    rcases hc with rfl | rfl | rfl <;> rfl
  have hexponent : exponent? rest = some (none, rest) := by
    obtain ⟨c, tail, rfl, hc⟩ := hrest
    rcases hc with rfl | rfl | rfl <;> rfl
  simp only [decimal?, hsign, whole?_toDigits n hrest, hfraction, hexponent, bind, Option.bind,
    Digit.number_toDigits (show 1 < 10 by decide) (by decide)]
  simp only [List.isEmpty_nil, Option.isNone_none, Bool.and_self, if_true, hint]
  rfl

theorem decimal?_intChars {i : Int} {rest : List Char} (hfits : FitsInt i) (hrest : EndsInt rest) :
    decimal? (intChars i ++ rest) = some (.int i, rest) := by
  have hint : int? i = some (.int i) := if_pos hfits
  cases i with
  | ofNat n => exact decimal?_digits (sign_toDigits n rest) hint hrest
  | negSucc n =>
    have hsign : sign ('-' :: (Nat.toDigits 10 (n + 1) ++ rest)) =
        (true, Nat.toDigits 10 (n + 1) ++ rest) := rfl
    exact decimal?_digits hsign hint hrest

/-- An integer begins with a digit, or with a minus and a digit. -/
theorem sign_intChars (i : Int) (rest : List Char) :
    ∃ negative d ds, Digit.isOf 10 d = true ∧ sign (intChars i ++ rest) = (negative, d :: ds) := by
  cases i with
  | ofNat n =>
    obtain ⟨d, ds, hds, hd, -⟩ := toDigits_eq_cons n
    have hsign := sign_toDigits n rest
    rw [hds] at hsign
    exact ⟨false, d, ds ++ rest, hd, by rw [intChars, hds, hsign]; rfl⟩
  | negSucc n =>
    obtain ⟨d, ds, hds, hd, -⟩ := toDigits_eq_cons (n + 1)
    exact ⟨true, d, ds ++ rest, hd, by rw [intChars, hds]; rfl⟩

/-- An integer is no number without digits. -/
theorem special?_intChars (i : Int) (rest : List Char) : special? (intChars i ++ rest) = none := by
  obtain ⟨negative, d, ds, hd, hsign⟩ := sign_intChars i rest
  have hi : d ≠ 'i' := ne_of_isOf hd (by decide)
  have hn : d ≠ 'n' := ne_of_isOf hd (by decide)
  simp [special?, hsign, hi, hn]

/-- No digit and no letter follows a zero that an integer begins with. -/
theorem endsInt_of_zero {i : Int} {c : Char} {rest tail : List Char} (hrest : EndsInt rest)
    (h : intChars i ++ rest = '0' :: c :: tail) : c = '\n' ∨ c = ',' ∨ c = ']' := by
  cases i with
  | ofNat n =>
    rcases Nat.eq_zero_or_pos n with rfl | hn
    · obtain ⟨d, ds, rfl, hd⟩ := hrest
      obtain ⟨rfl, -⟩ : d = c ∧ ds = tail := by simpa [intChars] using h
      exact hd
    · obtain ⟨d, ds, hds, -, hzero⟩ := toDigits_eq_cons n
      rw [intChars, hds, List.cons_append] at h
      exact absurd (List.cons.inj h).1 (hzero hn)
  | negSucc n =>
    rw [intChars, List.cons_append] at h
    exact absurd (List.cons.inj h).1 (by decide)

/-- An integer that fits is read back. -/
theorem read?_intChars {i : Int} {rest : List Char} (hfits : FitsInt i) (hrest : EndsInt rest) :
    read? (intChars i ++ rest) = some (.int i, rest) := by
  have hdecimal : (special? (intChars i ++ rest)).or (decimal? (intChars i ++ rest)) =
      some (.int i, rest) := by
    rw [special?_intChars, Option.none_or, decimal?_intChars hfits hrest]
  unfold read?
  split
  -- a zero with the letter of another base behind it does not begin an integer
  · rename_i heq
    exact absurd (endsInt_of_zero hrest heq) (by decide)
  · rename_i heq
    exact absurd (endsInt_of_zero hrest heq) (by decide)
  · rename_i heq
    exact absurd (endsInt_of_zero hrest heq) (by decide)
  · exact hdecimal

end Number

namespace Moment

/-- What a field takes are digits, and the rest is left. -/
theorem field?_eq_some {places low high n : Nat} {cs taken left : List Char}
    (h : field? places low high cs = some (n, taken, left)) :
    (∀ c ∈ cs.take places, Digit.isOf 10 c = true) ∧ (cs.take places).length = places ∧
      left = cs.drop places := by
  simp only [field?] at h
  split at h
  · rename_i hdigits
    simp only [Bool.and_eq_true, decide_eq_true_eq, List.all_eq_true] at hdigits
    simp only [Option.some.injEq, Prod.mk.injEq] at h
    exact ⟨hdigits.1.1.2, hdigits.1.1.1, h.2.2.symm⟩
  · cases h

/-- Behind digits stands none of the marks of a date or a time. -/
theorem mark?_of_field? {m : Char} (hm : m = '-' ∨ m = ':') {places low high n : Nat}
    {ds rest taken left : List Char} (hdigits : ∀ c ∈ ds, Digit.isOf 10 c = true)
    (hrest : EndsInt rest) (h : field? places low high (ds ++ rest) = some (n, taken, left)) :
    mark? m left = none := by
  obtain ⟨htaken, hlength, rfl⟩ := field?_eq_some h
  obtain ⟨c, tail, rfl, hc⟩ := hrest
  -- a field that reached beyond the digits would have taken what follows them
  have hplaces : places ≤ ds.length := by
    refine Nat.le_of_not_lt fun hlong => ?_
    have hmem : c ∈ (ds ++ c :: tail).take places := by
      obtain ⟨k, hk⟩ : ∃ k, places - ds.length = k + 1 :=
        Nat.exists_eq_add_one_of_ne_zero (by omega)
      rw [List.take_append, hk, List.take_succ_cons]
      simp
    have hdigit := htaken c hmem
    rw [isOf_of_endsInt hc] at hdigit
    cases hdigit
  rw [List.drop_append_of_le_length hplaces]
  have hmark : Digit.isOf 10 m = false := by rcases hm with rfl | rfl <;> decide
  cases hleft : ds.drop places with
  | nil =>
    have hne : c ≠ m := by
      rcases hm with rfl | rfl <;> rcases hc with rfl | rfl | rfl <;> decide
    simp [mark?, hne]
  | cons d left =>
    have hd : d ∈ ds.drop places := by simp [hleft]
    have hne : d ≠ m := ne_of_isOf (hdigits d (List.mem_of_mem_drop hd)) hmark
    simp [mark?, hne]

theorem date?_digits {ds rest : List Char} (hdigits : ∀ c ∈ ds, Digit.isOf 10 c = true)
    (hrest : EndsInt rest) : date? (ds ++ rest) = none := by
  cases hfield : field? 4 0 9999 (ds ++ rest) with
  | none => simp [date?, hfield]
  | some p =>
    obtain ⟨n, taken, left⟩ := p
    have hmark := mark?_of_field? (Or.inl rfl) hdigits hrest hfield
    simp [date?, hfield, hmark]

theorem time?_digits {ds rest : List Char} (hdigits : ∀ c ∈ ds, Digit.isOf 10 c = true)
    (hrest : EndsInt rest) : time? (ds ++ rest) = none := by
  cases hfield : field? 2 0 23 (ds ++ rest) with
  | none => simp [time?, hfield]
  | some p =>
    obtain ⟨n, taken, left⟩ := p
    have hmark := mark?_of_field? (Or.inr rfl) hdigits hrest hfield
    simp [time?, hfield, hmark]

/-- A minus is no digit of a field. -/
theorem field?_minus (places low high : Nat) (cs : List Char) :
    field? (places + 1) low high ('-' :: cs) = none := by
  have hminus : Digit.isOf 10 '-' = false := by decide
  simp [field?, hminus]

/-- An integer is no point in time. -/
theorem read?_intChars (i : Int) {rest : List Char} (hrest : EndsInt rest) :
    read? (intChars i ++ rest) = none := by
  cases i with
  | ofNat n =>
    have hdigits : ∀ c ∈ Nat.toDigits 10 n, Digit.isOf 10 c = true :=
      fun c hc => Digit.isOf_of_mem_toDigits (by decide) (by decide) hc
    simp [read?, intChars, date?_digits hdigits hrest, time?_digits hdigits hrest, Quote.pack]
  | negSucc n =>
    simp [read?, intChars, date?, time?, field?_minus, Quote.pack]

end Moment

namespace Reader

/-- An integer begins with a digit or a minus. -/
theorem intChars_eq_cons (i : Int) :
    ∃ c cs, intChars i = c :: cs ∧ (Digit.isOf 10 c = true ∨ c = '-') := by
  cases i with
  | ofNat n =>
    obtain ⟨d, ds, hds, hd, -⟩ := toDigits_eq_cons n
    exact ⟨d, ds, hds, Or.inl hd⟩
  | negSucc n => exact ⟨'-', Nat.toDigits 10 (n + 1), rfl, Or.inr rfl⟩

/-- So it begins with no other character. -/
theorem ne_of_first {c d : Char} (hc : Digit.isOf 10 c = true ∨ c = '-')
    (hd : Digit.isOf 10 d = false) (hminus : '-' ≠ d) : c ≠ d := by
  rcases hc with hc | rfl
  · exact ne_of_isOf hc hd
  · exact hminus

/-- An integer that fits is read back as a value. -/
theorem single?_intChars {i : Int} {rest : List Char} (hfits : FitsInt i) (hrest : EndsInt rest) :
    single? (intChars i ++ rest) = some (.int i, rest) := by
  have hread : (Moment.read? (intChars i ++ rest)).or (Number.read? (intChars i ++ rest)) =
      some (.int i, rest) := by
    rw [Moment.read?_intChars i hrest, Option.none_or, Number.read?_intChars hfits hrest]
  obtain ⟨c, cs, hcs, hc⟩ := intChars_eq_cons i
  have hdouble : c ≠ '"' := ne_of_first hc (by decide) (by decide)
  have hsingle : c ≠ '\'' := ne_of_first hc (by decide) (by decide)
  have ht : c ≠ 't' := ne_of_first hc (by decide) (by decide)
  have hf : c ≠ 'f' := ne_of_first hc (by decide) (by decide)
  rw [hcs, List.cons_append] at hread ⊢
  simpa [single?, hdouble, hsingle, ht, hf] using hread

end Reader

end Telemetry.Toml
