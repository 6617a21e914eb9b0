/-
A text in quotes is read back as the text.

The printer takes the plainest quotes that can hold a text; which ones they are, the reader finds
out from the text alone. Each reader is taken over what the printer writes for one character, and
then over the whole text by induction on its characters.

* `Quote.basic?_basicChar` — one character between double quotes, escaped or not;
* `Quote.closing?_append` — quotes within a text of several lines against the three that
  close it;
* **`Quote.text?_textChars`** — a text in the quotes that the printer takes;
* **`Quote.name?_name`** — a name, bare or in quotes.
-/
import Mathlib.Data.List.TakeWhile
import Telemetry.Toml.Printer

namespace Telemetry.Toml

namespace Quote

open Printer

/-! ### One line between double quotes -/

theorem isPlain_of_not_isControl {c : Char} (h : isControl c = false) (hline : c ≠ '\n') :
    isPlain c = true := by
  simp [isControl, isPlain] at h ⊢
  grind

/-- A control is read from its number. -/
theorem coded?_coded {c : Char} (h : isControl c = true) :
    coded? [Digit.upper (c.toNat / 4096 % 16), Digit.upper (c.toNat / 256 % 16),
      Digit.upper (c.toNat / 16 % 16), Digit.upper (c.toNat % 16)] = some c := by
  have hall : ∀ n < 128,
      coded? [Digit.upper (n / 4096 % 16), Digit.upper (n / 256 % 16), Digit.upper (n / 16 % 16),
        Digit.upper (n % 16)] = some (Char.ofNat n) := by decide
  have hsmall : c.toNat < 128 := by
    simp [isControl] at h
    rcases h with ⟨⟨hlt, -⟩, -⟩ | rfl
    · have hval : c.toNat < ' '.toNat := UInt32.lt_iff_toNat_lt.mp hlt
      exact Nat.lt_trans hval (by decide)
    · decide
  rw [hall c.toNat hsmall, Char.ofNat_toNat]

/-- The characters that a letter or a mark behind a backslash stands for. -/
def lettered : List Char := ['\x08', '\t', '\n', '\x0c', '\r', '"', '\\']

theorem mem_lettered {c : Char} :
    c ∈ lettered ↔ c = '\x08' ∨ c = '\t' ∨ c = '\n' ∨ c = '\x0c' ∨ c = '\r' ∨ c = '"' ∨
      c = '\\' := by
  simp [lettered]

/-- The other characters stand for themselves between double quotes, unless they are controls. -/
theorem basicChar_of_not_lettered {c : Char} (h : c ∉ lettered) :
    basicChar c = if isControl c then coded c else [c] := by
  simp only [mem_lettered, not_or] at h
  obtain ⟨hb, ht, hn, hf, hr, hquote, hbackslash⟩ := h
  simp [basicChar, hb, ht, hn, hf, hr, hquote, hbackslash]

/-- What is written for a character begins neither with a quote nor with the end of a line. -/
theorem basicChar_eq_cons (c : Char) :
    ∃ d ds, basicChar c = d :: ds ∧ d ≠ '"' ∧ d ≠ '\n' ∧ d ≠ '\r' := by
  by_cases hlettered : c ∈ lettered
  · rcases mem_lettered.mp hlettered with rfl | rfl | rfl | rfl | rfl | rfl | rfl <;>
      simp [basicChar]
  · rw [basicChar_of_not_lettered hlettered]
    simp only [mem_lettered, not_or] at hlettered
    by_cases hcontrol : isControl c = true
    · simp [hcontrol, coded]
    · simp [hcontrol, hlettered]

/-- What is written for a character between double quotes is read as the character. -/
theorem basic?_basicChar (c : Char) (rest : List Char) :
    basic? (basicChar c ++ rest) = before (some c) (basic? rest) := by
  by_cases hlettered : c ∈ lettered
  · rcases mem_lettered.mp hlettered with rfl | rfl | rfl | rfl | rfl | rfl | rfl <;>
      simp [basicChar, basic?, escape?]
  · rw [basicChar_of_not_lettered hlettered]
    by_cases hcontrol : isControl c = true
    · have hcoded := coded?_coded hcontrol
      simp [hcontrol, coded, basic?, hcoded]
    · simp only [mem_lettered, not_or] at hlettered
      have hplain : isPlain c = true :=
        isPlain_of_not_isControl (by simpa using hcontrol) hlettered.2.2.1
      simp [hcontrol, basic?, plain?, hplain, hlettered]

/-- A text between double quotes is read back, whatever is in it. -/
theorem basic?_flatMap (cs rest : List Char) :
    basic? (cs.flatMap basicChar ++ '"' :: rest) = some (cs, rest) := by
  induction cs with
  | nil => simp [basic?]
  | cons c cs ih => rw [List.flatMap_cons, List.append_assoc, basic?_basicChar, ih, before]

/-! ### One line between single quotes -/

/-- A text without ends of lines, controls and single quotes is read back from single quotes. -/
theorem raw?_append {cs : List Char} (hplain : ∀ c ∈ cs, isPlain c = true)
    (hquote : '\'' ∉ cs) (rest : List Char) : raw? (cs ++ '\'' :: rest) = some (cs, rest) := by
  induction cs with
  | nil => simp [raw?]
  | cons c cs ih =>
    obtain ⟨hne, hquote⟩ : '\'' ≠ c ∧ '\'' ∉ cs := by simpa [not_or] using hquote
    have hread := ih (fun d hd => hplain d (List.mem_cons_of_mem c hd)) hquote
    simp [raw?, hread, plain?, hplain c List.mem_cons_self, hne.symm, before]

/-! ### Quotes within a text of several lines -/

/-- The length of the run of quotes at the front. -/
def frontRun (quote : Char) (cs : List Char) : Nat := (cs.takeWhile (· == quote)).length

theorem frontRun_cons_self (quote : Char) (cs : List Char) :
    frontRun quote (quote :: cs) = frontRun quote cs + 1 := by
  simp [frontRun]

theorem frontRun_cons_of_ne {quote c : Char} (h : c ≠ quote) (cs : List Char) :
    frontRun quote (c :: cs) = 0 := by
  simp [frontRun, h]

/-- Up to two quotes before the closing ones belong to the text, if nothing else follows them;
and with something else behind them they close nothing. -/
theorem closing?_append {quote : Char} {cs rest : List Char} (hrun : frontRun quote cs ≤ 2)
    (hrest : rest.takeWhile (· == quote) = []) :
    closing? quote (cs ++ quote :: quote :: quote :: rest) =
      if cs.all (· == quote) then some (cs, rest) else none := by
  by_cases hall : cs.all (· == quote) = true
  · have hquotes : ∀ c ∈ cs, (c == quote) = true := by simpa using hall
    have hcs : List.replicate cs.length quote = cs :=
      (List.eq_replicate_iff.mpr ⟨rfl, by simpa using hall⟩).symm
    have hlength : cs.length ≤ 2 := by
      rwa [frontRun, List.takeWhile_eq_self_iff.mpr hquotes] at hrun
    have htaken : (cs ++ quote :: quote :: quote :: rest).takeWhile (· == quote) =
        cs ++ [quote, quote, quote] := by
      rw [List.takeWhile_append_of_pos hquotes]
      simp [hrest]
    have hown : min cs.length 2 = cs.length := by omega
    have hleft : (cs ++ quote :: quote :: quote :: rest).drop (cs.length + 3) = rest := by simp
    simp [closing?, htaken, hown, hcs, hleft, hall]
  · -- the run ends before the text does
    have htaken : (cs ++ quote :: quote :: quote :: rest).takeWhile (· == quote) =
        cs.takeWhile (· == quote) := by
      rw [List.takeWhile_append, if_neg]
      intro hlength
      have hself := (List.takeWhile_prefix (· == quote)).eq_of_length hlength
      exact hall (by simpa using List.takeWhile_eq_self_iff.mp hself)
    have hshort : (cs.takeWhile (· == quote)).length < 3 := Nat.lt_succ_of_le hrun
    simp [closing?, htaken, hshort, hall]

theorem longestRun_mono {quote : Char} {m n : Nat} (h : m ≤ n) (cs : List Char) :
    longestRun quote m cs ≤ longestRun quote n cs := by
  induction cs generalizing m n with
  | nil => exact h
  | cons c cs ih =>
    rw [longestRun, longestRun]
    split
    · exact ih (Nat.succ_le_succ h)
    · omega

/-- The run at the front is no longer than the longest one. -/
theorem add_frontRun_le (quote : Char) (run : Nat) (cs : List Char) :
    run + frontRun quote cs ≤ longestRun quote run cs := by
  induction cs generalizing run with
  | nil => exact Nat.le_refl run
  | cons c cs ih =>
    rw [longestRun]
    split
    · rename_i hc
      have hle := ih (run + 1)
      rw [hc, frontRun_cons_self]
      omega
    · rename_i hc
      rw [frontRun_cons_of_ne hc]
      omega

/-- The longest run behind the first character is no longer than the longest one. -/
theorem longestRun_tail (quote c : Char) (cs : List Char) :
    longestRun quote 0 cs ≤ longestRun quote 0 (c :: cs) := by
  rw [longestRun]
  split
  · exact longestRun_mono (Nat.zero_le 1) cs
  · omega

/-! ### Several lines between three single quotes -/

/-- A text without controls and without three single quotes in a row is read back from three
single quotes. -/
theorem longRaw?_append {cs : List Char} (hcontrols : ∀ c ∈ cs, isControl c = false)
    (hruns : longestRun '\'' 0 cs ≤ 2) {rest : List Char}
    (hrest : rest.takeWhile (· == '\'') = []) :
    longRaw? (cs ++ '\'' :: '\'' :: '\'' :: rest) = some (cs, rest) := by
  induction cs with
  | nil =>
    have hclosing := closing?_append (show frontRun '\'' [] ≤ 2 from Nat.zero_le 2) hrest
    rw [List.nil_append] at hclosing
    simp [longRaw?, hclosing]
  | cons c cs ih =>
    have hread := ih (fun d hd => hcontrols d (List.mem_cons_of_mem c hd))
      (Nat.le_trans (longestRun_tail _ c cs) hruns)
    have hfront : frontRun '\'' (c :: cs) ≤ 2 := by
      have hle := add_frontRun_le '\'' 0 (c :: cs)
      omega
    have hclosing := closing?_append hfront hrest
    by_cases hquote : c = '\''
    · -- a quote belongs to the text, unless nothing but the closing ones follows
      subst hquote
      rw [List.cons_append] at hclosing ⊢
      by_cases hall : ('\'' :: cs).all (· == '\'') = true
      · simp [longRaw?, hclosing, hall]
      · simp [longRaw?, hclosing, hall, hread, before]
    · by_cases hline : c = '\n'
      · simp [hline, longRaw?, hread, before]
      · have hcontrol := hcontrols c List.mem_cons_self
        have hreturn : c ≠ '\r' := by
          rintro rfl
          exact absurd hcontrol (by decide)
        have hplain := isPlain_of_not_isControl hcontrol hline
        simp [longRaw?, hread, before, plain?, hplain, hquote, hreturn]

/-! ### Several lines between three double quotes -/

/-- What is written for a character other than a quote and an end of a line is read as it. -/
theorem longBasic?_basicChar {c : Char} (hquote : c ≠ '"') (hline : c ≠ '\n')
    (rest : List Char) :
    longBasic? false (basicChar c ++ rest) = before (some c) (longBasic? false rest) := by
  by_cases hlettered : c ∈ lettered
  · rcases mem_lettered.mp hlettered with rfl | rfl | rfl | rfl | rfl | rfl | rfl <;>
      simp_all [basicChar, longBasic?, escape?, joins, skipSpaces, isSpace, lineEnd?]
  · rw [basicChar_of_not_lettered hlettered]
    by_cases hcontrol : isControl c = true
    · have hcoded := coded?_coded hcontrol
      simp [hcontrol, coded, longBasic?, hcoded]
    · simp only [mem_lettered, not_or] at hlettered
      have hplain : isPlain c = true := isPlain_of_not_isControl (by simpa using hcontrol) hline
      simp [hcontrol, longBasic?, plain?, hplain, hlettered]

/-- A backslash keeps a quote from closing the text. -/
theorem longBasic?_escapedQuote (rest : List Char) :
    longBasic? false ('\\' :: '"' :: rest) = before (some '"') (longBasic? false rest) := by
  simp [longBasic?, escape?, joins, skipSpaces, isSpace, lineEnd?]

/-- What is written for the text behind a quote, by whether the quotes go on. -/
theorem longBasicChars_quote (run : Nat) (cs : List Char) :
    longBasicChars run ('"' :: cs) =
      if run = 2 then '\\' :: '"' :: longBasicChars 0 cs
      else '"' :: longBasicChars (run + 1) cs := by
  rw [longBasicChars, if_pos rfl]

/-- No more quotes are written in a row than the escaping allows. -/
theorem frontRun_longBasicChars {run : Nat} (hrun : run ≤ 2) (cs : List Char) :
    run + frontRun '"' (longBasicChars run cs) ≤ 2 := by
  induction cs generalizing run with
  | nil => exact hrun
  | cons c cs ih =>
    by_cases hquote : c = '"'
    · rw [hquote, longBasicChars_quote]
      split
      · rw [frontRun_cons_of_ne (by decide)]
        exact hrun
      · have hle := ih (show run + 1 ≤ 2 by omega)
        rw [frontRun_cons_self]
        omega
    · rw [longBasicChars, if_neg hquote]
      split
      · rw [frontRun_cons_of_ne (by decide)]
        exact hrun
      · obtain ⟨d, ds, hd, hne, -⟩ := basicChar_eq_cons c
        rw [hd, List.cons_append, frontRun_cons_of_ne hne]
        exact hrun

/-- A text that is written as quotes alone is made of them. -/
theorem longBasicChars_of_all {run : Nat} {cs : List Char}
    (h : (longBasicChars run cs).all (· == '"') = true) : longBasicChars run cs = cs := by
  induction cs generalizing run with
  | nil => rfl
  | cons c cs ih =>
    by_cases hquote : c = '"'
    · subst hquote
      rw [longBasicChars_quote] at h ⊢
      split at h
      · simp at h
      · rename_i hrun
        rw [List.all_cons, Bool.and_eq_true] at h
        rw [if_neg hrun, ih h.2]
    · rw [longBasicChars, if_neg hquote] at h
      split at h
      · simp at h
      · obtain ⟨d, ds, hd, hne, -⟩ := basicChar_eq_cons c
        simp [hd, hne] at h

/-- A text is read back from three double quotes, whatever is in it. -/
theorem longBasic?_append {run : Nat} (hrun : run ≤ 2) (cs : List Char) {rest : List Char}
    (hrest : rest.takeWhile (· == '"') = []) :
    longBasic? false (longBasicChars run cs ++ '"' :: '"' :: '"' :: rest) = some (cs, rest) := by
  induction cs generalizing run with
  | nil =>
    have hclosing := closing?_append (show frontRun '"' [] ≤ 2 from Nat.zero_le 2) hrest
    rw [List.nil_append] at hclosing
    simp [longBasicChars, longBasic?, hclosing]
  | cons c cs ih =>
    by_cases hquote : c = '"'
    · subst hquote
      by_cases htwo : run = 2
      · rw [longBasicChars_quote, if_pos htwo, List.cons_append, List.cons_append,
          longBasic?_escapedQuote, ih (Nat.zero_le 2), before]
      · have hfront : frontRun '"' (longBasicChars run ('"' :: cs)) ≤ 2 := by
          have hle := frontRun_longBasicChars hrun ('"' :: cs)
          omega
        have hclosing := closing?_append hfront hrest
        have hread := ih (show run + 1 ≤ 2 by omega)
        by_cases hall : (longBasicChars run ('"' :: cs)).all (· == '"') = true
        · -- nothing but quotes is left, and they belong to the text
          rw [if_pos hall, longBasicChars_of_all hall] at hclosing
          rw [longBasicChars_of_all hall]
          rw [List.cons_append] at hclosing ⊢
          simp [longBasic?, hclosing]
        · rw [if_neg hall] at hclosing
          rw [longBasicChars_quote, if_neg htwo, List.cons_append] at hclosing ⊢
          simp [longBasic?, hclosing, hread, before]
    · rw [longBasicChars, if_neg hquote]
      split
      · rename_i hline
        simp [hline, longBasic?, ih (Nat.zero_le 2), before]
      · rename_i hline
        rw [List.append_assoc, longBasic?_basicChar hquote hline, ih (Nat.zero_le 2), before]

/-! ### Texts -/

theorem text?_basic {cs : List Char} (h : ∀ rest, cs ≠ '"' :: '"' :: rest) :
    text? ('"' :: cs) = pack (basic? cs) := by
  unfold text?
  split <;> simp_all

theorem text?_raw {cs : List Char} (h : ∀ rest, cs ≠ '\'' :: '\'' :: rest) :
    text? ('\'' :: cs) = pack (raw? cs) := by
  unfold text?
  split <;> simp_all

theorem basic_append (cs rest : List Char) :
    basic cs ++ rest = '"' :: (cs.flatMap basicChar ++ '"' :: rest) := by
  simp [basic]

theorem raw_append (cs rest : List Char) : raw cs ++ rest = '\'' :: (cs ++ '\'' :: rest) := by
  simp [raw]

/-- A text between double quotes on one line. -/
theorem text?_basicText (cs : List Char) {rest : List Char}
    (hrest : rest.takeWhile (· == '"') = []) :
    text? (basic cs ++ rest) = some (String.ofList cs, rest) := by
  rw [basic_append, text?_basic, basic?_flatMap]
  · rfl
  · intro tail heq
    cases cs with
    | nil =>
      -- the two quotes are all there is
      obtain rfl : rest = '"' :: tail := by simpa using heq
      simp at hrest
    | cons c cs =>
      obtain ⟨d, ds, hd, hne, -⟩ := basicChar_eq_cons c
      rw [List.flatMap_cons, hd] at heq
      exact hne (List.cons.inj heq).1

/-- The end of a line that begins a text of several lines is not part of it. -/
theorem skipLineEnd_opening {cs X : List Char}
    (h : '\n' ∉ cs → ∃ d ds, X = d :: ds ∧ d ≠ '\n' ∧ d ≠ '\r') :
    skipLineEnd (opening cs ++ X) = X := by
  by_cases hline : '\n' ∈ cs
  · simp [opening, hline, skipLineEnd, lineEnd?]
  · obtain ⟨d, ds, rfl, hd, hd'⟩ := h hline
    simp [opening, hline, skipLineEnd, lineEnd?, hd, hd']

theorem notMem_of_longestRun {quote : Char} {cs : List Char} (h : longestRun quote 0 cs = 0) :
    quote ∉ cs := by
  induction cs with
  | nil => exact List.not_mem_nil
  | cons c cs ih =>
    have htail : longestRun quote 0 cs = 0 := by
      have hle := longestRun_tail quote c cs
      omega
    have hfront := add_frontRun_le quote 0 (c :: cs)
    have hne : c ≠ quote := by
      rintro rfl
      rw [frontRun_cons_self] at hfront
      omega
    rw [List.mem_cons, not_or]
    exact ⟨hne.symm, ih htail⟩

/-- What is written of a text between three double quotes begins with no end of a line, if the
text has none. -/
theorem longBasicChars_eq_cons {cs : List Char} (hline : '\n' ∉ cs) (rest : List Char) :
    ∃ d ds, longBasicChars 0 cs ++ '"' :: rest = d :: ds ∧ d ≠ '\n' ∧ d ≠ '\r' := by
  cases cs with
  | nil => exact ⟨'"', rest, rfl, by decide, by decide⟩
  | cons c cs =>
    have hc : c ≠ '\n' := fun h => hline (by simp [h])
    by_cases hquote : c = '"'
    · exact ⟨'"', longBasicChars 1 cs ++ '"' :: rest, by simp [hquote, longBasicChars], by decide,
        by decide⟩
    · obtain ⟨d, ds, hd, -, hne⟩ := basicChar_eq_cons c
      exact ⟨d, ds ++ longBasicChars 0 cs ++ '"' :: rest, by simp [longBasicChars, hquote, hc, hd],
        hne⟩

/-- A text between three double quotes. -/
theorem text?_longBasicText (cs : List Char) {rest : List Char}
    (hrest : rest.takeWhile (· == '"') = []) :
    text? (longBasic cs ++ rest) = some (String.ofList cs, rest) := by
  have happend : longBasic cs ++ rest = '"' :: '"' :: '"' ::
      (opening cs ++ (longBasicChars 0 cs ++ '"' :: '"' :: '"' :: rest)) := by
    simp [longBasic]
  rw [happend]
  simp only [text?]
  rw [skipLineEnd_opening fun hline => longBasicChars_eq_cons hline _,
    longBasic?_append (Nat.zero_le 2) cs hrest]
  rfl

/-- A text between three single quotes. -/
theorem text?_longRawText {cs : List Char} (hcontrols : ∀ c ∈ cs, isControl c = false)
    (hruns : longestRun '\'' 0 cs ≤ 2) {rest : List Char}
    (hrest : rest.takeWhile (· == '\'') = []) :
    text? (longRaw cs ++ rest) = some (String.ofList cs, rest) := by
  have happend : longRaw cs ++ rest = '\'' :: '\'' :: '\'' ::
      (opening cs ++ (cs ++ '\'' :: '\'' :: '\'' :: rest)) := by
    simp [longRaw]
  have hfirst : '\n' ∉ cs →
      ∃ d ds, cs ++ '\'' :: '\'' :: '\'' :: rest = d :: ds ∧ d ≠ '\n' ∧ d ≠ '\r' := by
    intro hline
    cases cs with
    | nil => exact ⟨_, _, rfl, by decide, by decide⟩
    | cons c cs =>
      refine ⟨c, _, rfl, fun h => hline (by simp [h]), ?_⟩
      rintro rfl
      exact absurd (hcontrols '\r' List.mem_cons_self) (by decide)
  rw [happend]
  simp only [text?]
  rw [skipLineEnd_opening hfirst, longRaw?_append hcontrols hruns hrest]
  rfl

/-- A text between single quotes on one line. -/
theorem text?_rawText {cs : List Char} (hne : cs ≠ []) (hplain : ∀ c ∈ cs, isPlain c = true)
    (hquote : '\'' ∉ cs) (rest : List Char) :
    text? (raw cs ++ rest) = some (String.ofList cs, rest) := by
  rw [raw_append, text?_raw, raw?_append hplain hquote]
  · rfl
  · intro tail heq
    obtain ⟨c, cs, rfl⟩ := List.exists_cons_of_ne_nil hne
    exact hquote (by simp [(List.cons.inj heq).1])

/-- A text is read back from the plainest quotes that can hold it. -/
theorem text?_textChars (cs : List Char) {rest : List Char}
    (hdouble : rest.takeWhile (· == '"') = []) (hsingle : rest.takeWhile (· == '\'') = []) :
    text? (textChars cs ++ rest) = some (String.ofList cs, rest) := by
  have hcontrols : cs.any isControl = false → ∀ c ∈ cs, isControl c = false := by simp
  -- the cases are those of the printer, from the plainest quotes on
  simp only [textChars]
  split
  · exact text?_basicText cs hdouble
  · rename_i hbasic
    split
    · rename_i hraw
      simp only [Bool.and_eq_true, Bool.not_eq_true', decide_eq_true_eq] at hraw
      obtain ⟨⟨hcontrol, hsingles⟩, hline⟩ := hraw
      have hline' : '\n' ∉ cs := by simpa using hline
      have hplain : ∀ c ∈ cs, isPlain c = true := fun c hc =>
        isPlain_of_not_isControl (hcontrols hcontrol c hc) fun h => hline' (h ▸ hc)
      -- the empty text stands between double quotes
      have hne : cs ≠ [] := by
        rintro rfl
        exact hbasic (by decide)
      exact text?_rawText hne hplain (notMem_of_longestRun hsingles) rest
    · split
      · exact text?_longBasicText cs hdouble
      · split
        · rename_i hraw
          simp only [Bool.and_eq_true, Bool.not_eq_true', decide_eq_true_eq] at hraw
          exact text?_longRawText (hcontrols hraw.1) hraw.2 hsingle
        · split
          · exact text?_longBasicText cs hdouble
          · exact text?_basicText cs hdouble

/-! ### Names -/

/-- A name without quotes ends where its characters do. -/
theorem name?_bare {cs : List Char} (hne : cs ≠ []) (hbare : ∀ c ∈ cs, isBare c = true)
    {rest : List Char} (hrest : rest.takeWhile isBare = []) :
    name? (cs ++ rest) = some (String.ofList cs, rest) := by
  have htaken : (cs ++ rest).takeWhile isBare = cs := by
    rw [List.takeWhile_append_of_pos hbare, hrest, List.append_nil]
  have hleft : (cs ++ rest).dropWhile isBare = rest := by
    rw [List.dropWhile_append_of_pos hbare]
    have hsplit : rest.takeWhile isBare ++ rest.dropWhile isBare = rest :=
      List.takeWhile_append_dropWhile
    rwa [hrest, List.nil_append] at hsplit
  obtain ⟨c, cs, rfl⟩ := List.exists_cons_of_ne_nil hne
  have hc := hbare c List.mem_cons_self
  have hdouble : c ≠ '"' := by
    rintro rfl
    exact absurd hc (by decide)
  have hsingle : c ≠ '\'' := by
    rintro rfl
    exact absurd hc (by decide)
  rw [List.cons_append] at htaken hleft ⊢
  simp [name?, hdouble, hsingle, htaken, hleft]

theorem name?_basicText (cs rest : List Char) :
    name? (basic cs ++ rest) = some (String.ofList cs, rest) := by
  rw [basic_append]
  simp only [name?, basic?_flatMap]
  rfl

/-- A name is read back, bare or in quotes. -/
theorem name?_name (s : String) {rest : List Char} (hrest : rest.takeWhile isBare = []) :
    name? ((name s).toList ++ rest) = some (s, rest) := by
  have hs : String.ofList s.toList = s := by simp
  simp only [name]
  split
  · rename_i hbare
    simp only [Bool.and_eq_true, Bool.not_eq_true', List.isEmpty_eq_false_iff,
      List.all_eq_true] at hbare
    rw [name?_bare hbare.1 hbare.2 hrest, hs]
  · split
    · rw [String.toList_ofList, name?_basicText, hs]
    · split
      · rename_i hraw
        simp only [Bool.and_eq_true, Bool.not_eq_true', List.any_eq_false, Bool.or_eq_true,
          decide_eq_true_eq, not_or, Bool.not_eq_true] at hraw
        have hplain : ∀ c ∈ s.toList, isPlain c = true := fun c hc =>
          isPlain_of_not_isControl (hraw.1 c hc).1 (hraw.1 c hc).2
        have hquote : '\'' ∉ s.toList := by simpa using hraw.2
        rw [String.toList_ofList, raw_append]
        simp only [name?, raw?_append hplain hquote]
        rw [pack, hs]
      · rw [String.toList_ofList, name?_basicText, hs]

end Quote

end Telemetry.Toml
