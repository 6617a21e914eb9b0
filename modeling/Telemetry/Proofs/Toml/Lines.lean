/-
The lines of a document are read back as what they say.

* `Single` — the values that the printer writes on the lines of a table;
* `Reader.value?_single` — such a value is read back up to the end of its line;
* `Reader.path?_nameChars` — names with points between them are read back;
* `Reader.line?_entry`, `Reader.line?_header` — one line of either kind;
* **`Reads`** — characters that are read as certain lines wherever they stand, with
  `Reads.append` to put them together.

Design notes: the reader of lines takes a bound on its steps, which falls by one with each line
and with nothing else. So what is read as some lines takes that many steps from the bound.
-/
import Telemetry.Proofs.Toml.Numbers
import Telemetry.Proofs.Toml.Quoted

namespace Telemetry.Toml

/-- A value that stands on the line of its name: an integer, a text, or a list of integers. -/
inductive Single : Tree → Prop where
  | int {i : Int} (h : FitsInt i) : Single (.int i)
  | text (s : String) : Single (.text s)
  | ints {items : List Int} (h : ∀ i ∈ items, FitsInt i) : Single (.list (items.map .int))

namespace Reader

/-- A character that is no blank and begins neither a comment nor the end of a line. -/
def Says (c : Char) : Prop := isSpace c = false ∧ c ≠ '#' ∧ c ≠ '\n' ∧ c ≠ '\r'

theorem skipSpaces_of_says {c : Char} (h : Says c) (cs : List Char) :
    skipSpaces (c :: cs) = c :: cs := by
  simp [skipSpaces, h.1]

theorem skipLines_of_says {c : Char} (h : Says c) (cs : List Char) :
    skipLines false (c :: cs) = c :: cs := by
  obtain ⟨hspace, hcomment, hline, hreturn⟩ := h
  simp [skipLines, hspace, hcomment, hreturn]

/-! ### Values -/

theorem value?_int {i : Int} (h : FitsInt i) {rest : List Char} (hrest : EndsInt rest)
    (fuel level : Nat) : value? (fuel + 1) level (intChars i ++ rest) = some (.int i, rest) := by
  have hread := single?_intChars h hrest
  obtain ⟨c, cs, hcs, hc⟩ := intChars_eq_cons i
  have hbracket : c ≠ '[' := ne_of_first hc (by decide) (by decide)
  have hbrace : c ≠ '\x7b' := ne_of_first hc (by decide) (by decide)
  rw [hcs, List.cons_append] at hread ⊢
  simpa [value?, hbracket, hbrace] using hread

/-- A text begins with a quote of either kind. -/
theorem textChars_eq_cons (cs : List Char) :
    ∃ c ds, Printer.textChars cs = c :: ds ∧ (c = '"' ∨ c = '\'') := by
  simp only [Printer.textChars]
  split
  · exact ⟨_, _, rfl, Or.inl rfl⟩
  split
  · exact ⟨_, _, rfl, Or.inr rfl⟩
  split
  · exact ⟨_, _, rfl, Or.inl rfl⟩
  split
  · exact ⟨_, _, rfl, Or.inr rfl⟩
  split <;> exact ⟨_, _, rfl, Or.inl rfl⟩

theorem value?_text (s : String) (rest : List Char) (fuel level : Nat) :
    value? (fuel + 1) level ((Printer.text s).toList ++ '\n' :: rest) =
      some (.text s, '\n' :: rest) := by
  have hread := Quote.text?_textChars s.toList
    (show ('\n' :: rest).takeWhile (· == '"') = [] by simp)
    (show ('\n' :: rest).takeWhile (· == '\'') = [] by simp)
  rw [Printer.text, String.toList_ofList]
  obtain ⟨c, ds, hcs, hc⟩ := textChars_eq_cons s.toList
  rw [hcs, List.cons_append] at hread ⊢
  rcases hc with rfl | rfl <;> simp [value?, single?, hread]

/-! ### Lists of integers -/

/-- The lines of integers between brackets. -/
def rowChars (items : List Int) : List Char :=
  items.flatMap fun i => [' ', ' ', ' ', ' '] ++ intChars i ++ [',', '\n']

theorem says_of_first {c : Char} (h : Digit.isOf 10 c = true ∨ c = '-') : Says c := by
  have hspace : c ≠ ' ' := ne_of_first h (by decide) (by decide)
  have htab : c ≠ '\t' := ne_of_first h (by decide) (by decide)
  exact ⟨by simp [isSpace, hspace, htab], ne_of_first h (by decide) (by decide),
    ne_of_first h (by decide) (by decide), ne_of_first h (by decide) (by decide)⟩

theorem skipLines_intChars (i : Int) (rest : List Char) :
    skipLines false (intChars i ++ rest) = intChars i ++ rest := by
  obtain ⟨c, cs, hcs, hc⟩ := intChars_eq_cons i
  rw [hcs, List.cons_append, skipLines_of_says (says_of_first hc)]

theorem comma_says : Says ',' := by simp [Says, isSpace]

/-- The last item of a list. -/
theorem items?_last {i : Int} (h : FitsInt i) {cs rest : List Char} (fuel level : Nat)
    (hcs : skipLines false cs = intChars i ++ ']' :: rest) :
    items? (fuel + 2) level cs = some ([.int i], rest) := by
  have hvalue := value?_int h (show EndsInt (']' :: rest) from ⟨_, _, rfl, by simp⟩) fuel level
  obtain ⟨c, ds, hds, hc⟩ := intChars_eq_cons i
  have hbracket : c ≠ ']' := ne_of_first hc (by decide) (by decide)
  rw [hds, List.cons_append] at hcs hvalue
  simp [items?, hcs, hbracket, hvalue, skipLines, isSpace]

/-- An item of a list that a comma follows. -/
theorem items?_comma {i : Int} (h : FitsInt i) {cs rest : List Char} (fuel level : Nat)
    (hcs : skipLines false cs = intChars i ++ ',' :: rest) :
    items? (fuel + 2) level cs =
      (items? (fuel + 1) level rest).map fun p => (.int i :: p.1, p.2) := by
  have hvalue := value?_int h (show EndsInt (',' :: rest) from ⟨_, _, rfl, by simp⟩) fuel level
  obtain ⟨c, ds, hds, hc⟩ := intChars_eq_cons i
  have hbracket : c ≠ ']' := ne_of_first hc (by decide) (by decide)
  rw [hds, List.cons_append] at hcs hvalue
  rw [items?, hcs]
  simp [hbracket, hvalue, skipLines_of_says comma_says]
  cases items? (fuel + 1) level rest <;> rfl

/-- Integers on lines of their own, each with a comma, are read up to the closing bracket. -/
theorem items?_rowChars {items : List Int} (h : ∀ i ∈ items, FitsInt i) (rest : List Char)
    {fuel : Nat} (hfuel : items.length ≤ fuel) (level : Nat) :
    items? (fuel + 1) level ('\n' :: (rowChars items ++ ']' :: rest)) =
      some (items.map .int, rest) := by
  -- each item takes one step of the bound, and the closing bracket the last one
  induction items generalizing fuel with
  | nil => simp [rowChars, items?, skipLines, isSpace]
  | cons i items ih =>
    obtain ⟨fuel, rfl⟩ : ∃ n, fuel = n + 1 := Nat.exists_eq_add_one_of_ne_zero (by
      rintro rfl
      simp at hfuel)
    have hrows : skipLines false ('\n' :: (rowChars (i :: items) ++ ']' :: rest)) =
        intChars i ++ ',' :: '\n' :: (rowChars items ++ ']' :: rest) := by
      rw [← skipLines_intChars i]
      simp [rowChars, skipLines, isSpace]
    have hread := ih (fun j hj => h j (List.mem_cons_of_mem i hj)) (by simpa using hfuel)
    rw [items?_comma (h i List.mem_cons_self) fuel level hrows, hread]
    rfl

theorem values_ints (items : List Int) :
    Printer.values (items.map .int) = items.map fun i => toString i := by
  induction items with
  | nil => rfl
  | cons i items ih => rw [List.map_cons, Printer.values, Printer.value, ih, List.map_cons]

theorem toList_rows (items : List Int) :
    (String.join ((items.map fun i => toString i).map fun i => "    " ++ i ++ ",\n")).toList =
      rowChars items := by
  induction items with
  | nil => rfl
  | cons i items ih =>
    rw [List.map_cons, List.map_cons, String.join_cons]
    simp [rowChars] at ih ⊢
    exact ih

/-- A list of several integers has each of them on a line. -/
theorem toList_listed (i j : Int) (items : List Int) :
    (Printer.listed ((i :: j :: items).map fun i => toString i)).toList =
      '[' :: '\n' :: (rowChars (i :: j :: items) ++ [']']) := by
  rw [← toList_rows]
  simp [Printer.listed]

/-- A list of integers is read back. -/
theorem value?_ints {items : List Int} (h : ∀ i ∈ items, FitsInt i) (rest : List Char)
    {fuel : Nat} (hfuel : items.length + 2 ≤ fuel) :
    value? fuel 0 ((Printer.value (.list (items.map .int))).toList ++ rest) =
      some (.list (items.map .int), rest) := by
  obtain ⟨fuel, rfl⟩ : ∃ n, fuel = n + 1 := Nat.exists_eq_add_one_of_ne_zero (by omega)
  -- what stands between the brackets
  have hlist : ∀ cs, items? fuel 1 (cs ++ ']' :: rest) = some (items.map .int, rest) →
      value? (fuel + 1) 0 ('[' :: (cs ++ ']' :: rest)) = some (.list (items.map .int), rest) := by
    intro cs hitems
    simp [value?, nestingLimit, hitems]
  rw [Printer.value, values_ints]
  obtain ⟨fuel, rfl⟩ : ∃ n, fuel = n + 1 := Nat.exists_eq_add_one_of_ne_zero (by omega)
  -- the printer puts up to one item on the line of the brackets
  rcases items with _ | ⟨i, _ | ⟨j, items⟩⟩
  · have hitems : items? (fuel + 1) 1 ([] ++ ']' :: rest) = some ([], rest) := by
      simp [items?, skipLines, isSpace]
    exact hlist [] hitems
  · obtain ⟨fuel, rfl⟩ : ∃ n, fuel = n + 1 := Nat.exists_eq_add_one_of_ne_zero (by
      rintro rfl
      simp at hfuel)
    have hitems := items?_last (h i List.mem_cons_self) fuel 1 (skipLines_intChars i (']' :: rest))
    simpa [Printer.listed] using hlist (intChars i) hitems
  · have hitems := items?_rowChars h rest (show (i :: j :: items).length ≤ fuel by omega) 1
    rw [toList_listed]
    simpa using hlist ('\n' :: rowChars (i :: j :: items)) hitems

theorem length_le_rowChars (items : List Int) : items.length ≤ (rowChars items).length := by
  induction items with
  | nil => exact Nat.le_refl 0
  | cons i items ih =>
    rw [rowChars, List.flatMap_cons, ← rowChars]
    simp only [List.length_cons, List.length_append]
    omega

/-- The steps that the reader of a line is given are enough for a list on it. -/
theorem length_le_ints (items : List Int) :
    items.length ≤ (Printer.value (.list (items.map .int))).toList.length := by
  rw [Printer.value, values_ints]
  match items with
  | [] => exact Nat.zero_le _
  | [i] => simp [Printer.listed]
  | i :: j :: items =>
    have hrows := length_le_rowChars (i :: j :: items)
    rw [toList_listed]
    simp only [List.length_cons, List.length_append] at hrows ⊢
    omega

/-- A value is read back up to the end of its line. -/
theorem value?_single {v : Tree} (h : Single v) (rest : List Char) :
    value? (2 * ((Printer.value v).toList ++ '\n' :: rest).length + 2) 0
      ((Printer.value v).toList ++ '\n' :: rest) = some (v, '\n' :: rest) := by
  cases h with
  | @int i hi =>
    have hread := value?_int hi (show EndsInt ('\n' :: rest) from ⟨_, _, rfl, Or.inl rfl⟩)
      (2 * ((Printer.value (.int i)).toList ++ '\n' :: rest).length + 1) 0
    simpa [Printer.value] using hread
  | text s =>
    exact value?_text s rest _ 0
  | @ints items hitems =>
    refine value?_ints hitems ('\n' :: rest) ?_
    have hlength := length_le_ints items
    rw [List.length_append]
    omega

/-- A value begins with a character that says something. -/
theorem value_eq_cons {v : Tree} (h : Single v) :
    ∃ c cs, (Printer.value v).toList = c :: cs ∧ Says c := by
  cases h with
  | @int i hi =>
    obtain ⟨c, cs, hcs, hc⟩ := intChars_eq_cons i
    exact ⟨c, cs, by simp [Printer.value, hcs], says_of_first hc⟩
  | text s =>
    obtain ⟨c, ds, hcs, hc⟩ := textChars_eq_cons s.toList
    refine ⟨c, ds, by simp [Printer.value, Printer.text, hcs], ?_⟩
    rcases hc with rfl | rfl <;> simp [Says, isSpace]
  | @ints items hitems =>
    have hbracket : Says '[' := by simp [Says, isSpace]
    rw [Printer.value, values_ints]
    rcases items with _ | ⟨i, _ | ⟨j, items⟩⟩
    · exact ⟨'[', _, rfl, hbracket⟩
    · exact ⟨'[', intChars i ++ [']'], by simp [Printer.listed], hbracket⟩
    · exact ⟨'[', _, toList_listed i j items, hbracket⟩

/-! ### Names -/

/-- A name begins with a character that says something and is no bracket. -/
theorem name_eq_cons (s : String) :
    ∃ c cs, (Printer.name s).toList = c :: cs ∧ Says c ∧ c ≠ '[' := by
  have hquotes : ∀ c, c = '"' ∨ c = '\'' → Says c ∧ c ≠ '[' := by
    intro c hc
    rcases hc with rfl | rfl <;> simp [Says, isSpace]
  simp only [Printer.name]
  split
  · rename_i hbare
    simp only [Bool.and_eq_true, Bool.not_eq_true', List.isEmpty_eq_false_iff,
      List.all_eq_true] at hbare
    obtain ⟨c, cs, hcs⟩ := List.exists_cons_of_ne_nil hbare.1
    have hc : Quote.isBare c = true := hbare.2 c (by simp [hcs])
    have hne : ∀ d, Quote.isBare d = false → c ≠ d := by
      rintro d hd rfl
      rw [hc] at hd
      cases hd
    have hspace : isSpace c = false := by
      simp [isSpace, hne ' ' (by decide), hne '\t' (by decide)]
    exact ⟨c, cs, hcs, ⟨hspace, hne _ (by decide), hne _ (by decide), hne _ (by decide)⟩,
      hne _ (by decide)⟩
  · split
    · exact ⟨'"', _, String.toList_ofList, hquotes _ (Or.inl rfl)⟩
    · split
      · exact ⟨'\'', _, String.toList_ofList, hquotes _ (Or.inr rfl)⟩
      · exact ⟨'"', _, String.toList_ofList, hquotes _ (Or.inl rfl)⟩

/-- Names with points between them. -/
def nameChars (path : List String) (last : String) : List Char :=
  path.flatMap (fun n => (Printer.name n).toList ++ ['.']) ++ (Printer.name last).toList

/-- Names are read back if they are not too many, and neither a further one nor a point follows. -/
theorem path?_nameChars {limit : Nat} {path : List String} (last : String) {rest : List Char}
    (hlimit : path.length < limit) (hrest : rest.takeWhile Quote.isBare = [])
    (hpoint : ∀ cs, skipSpaces rest ≠ '.' :: cs) :
    Quote.path? limit (nameChars path last ++ rest) = some ((path, last), skipSpaces rest) := by
  have hspaces : ∀ n cs, skipSpaces ((Printer.name n).toList ++ cs) =
      (Printer.name n).toList ++ cs := by
    intro n cs
    obtain ⟨c, ds, hds, hsays, -⟩ := name_eq_cons n
    rw [hds, List.cons_append, skipSpaces_of_says hsays]
  induction path generalizing limit with
  | nil =>
    obtain ⟨limit, rfl⟩ : ∃ n, limit = n + 1 := Nat.exists_eq_add_one_of_ne_zero (by omega)
    have hname := Quote.name?_name last hrest
    simp [nameChars, Quote.path?, hspaces, hname]
  | cons n path ih =>
    obtain ⟨limit, rfl⟩ : ∃ m, limit = m + 1 := Nat.exists_eq_add_one_of_ne_zero (by
      rintro rfl
      simp at hlimit)
    have hname := Quote.name?_name n
      (show ('.' :: (nameChars path last ++ rest)).takeWhile Quote.isBare = [] by
        have hdot : Quote.isBare '.' = false := by decide
        simp [hdot])
    have hread := ih (show path.length < limit by simpa using hlimit)
    have hchars : nameChars (n :: path) last ++ rest =
        (Printer.name n).toList ++ '.' :: (nameChars path last ++ rest) := by
      simp [nameChars]
    have hdot : skipSpaces ('.' :: (nameChars path last ++ rest)) =
        '.' :: (nameChars path last ++ rest) :=
      skipSpaces_of_says (by simp [Says, isSpace]) _
    rw [hchars]
    simp [Quote.path?, hspaces, hname, hdot, hread]

/-! ### Lines -/

/-- The line of a name and its value. -/
def entryChars (n : String) (v : Tree) : List Char :=
  (Printer.name n).toList ++ [' ', '=', ' '] ++ (Printer.value v).toList

theorem line?_entry (n : String) {v : Tree} (h : Single v) (rest : List Char) :
    line? (entryChars n v ++ '\n' :: rest) = some (.entry [] n v, '\n' :: rest) := by
  have hpath : path? (entryChars n v ++ '\n' :: rest) =
      some (([], n), '=' :: ' ' :: ((Printer.value v).toList ++ '\n' :: rest)) := by
    have hbare : Quote.isBare ' ' = false := by decide
    have hread := path?_nameChars n (show ([] : List String).length < nestingLimit - 1 by decide)
      (show (' ' :: '=' :: ' ' :: ((Printer.value v).toList ++ '\n' :: rest)).takeWhile
        Quote.isBare = [] by simp [hbare])
      (by simp [skipSpaces, isSpace])
    simpa [path?, nameChars, entryChars, skipSpaces, isSpace] using hread
  have hvalue := value?_single h rest
  obtain ⟨d, ds, hds, hdsays⟩ := value_eq_cons h
  have hspaces : skipSpaces (' ' :: ((Printer.value v).toList ++ '\n' :: rest)) =
      (Printer.value v).toList ++ '\n' :: rest := by
    have hblank : skipSpaces (' ' :: ((Printer.value v).toList ++ '\n' :: rest)) =
        skipSpaces ((Printer.value v).toList ++ '\n' :: rest) := by simp [skipSpaces, isSpace]
    rw [hblank, hds, List.cons_append, skipSpaces_of_says hdsays]
  have hentry : entry? (entryChars n v ++ '\n' :: rest) = some (.entry [] n v, '\n' :: rest) := by
    unfold entry?
    simp only [hpath, hspaces, hvalue]
  obtain ⟨c, cs, hcs, -, hbracket⟩ := name_eq_cons n
  have hfirst : entryChars n v ++ '\n' :: rest =
      c :: (cs ++ [' ', '=', ' '] ++ (Printer.value v).toList ++ '\n' :: rest) := by
    simp [entryChars, hcs]
  rw [hfirst] at hentry ⊢
  simpa [line?, hbracket] using hentry

/-- The line of a header. -/
def headerChars (path : List String) (last : String) : List Char :=
  '[' :: (nameChars path last ++ [']'])

theorem line?_header {path : List String} (last : String) (h : path.length < nestingLimit - 1)
    (rest : List Char) :
    line? (headerChars path last ++ '\n' :: rest) = some (.header path last, '\n' :: rest) := by
  have hpath : path? (nameChars path last ++ ']' :: '\n' :: rest) =
      some ((path, last), ']' :: '\n' :: rest) := by
    have hbare : Quote.isBare ']' = false := by decide
    have hread := path?_nameChars last h
      (show (']' :: '\n' :: rest).takeWhile Quote.isBare = [] by simp [hbare])
      (by simp [skipSpaces, isSpace])
    simpa [path?, skipSpaces, isSpace] using hread
  obtain ⟨c, cs, hcs, hbracket⟩ : ∃ c cs, nameChars path last = c :: cs ∧ c ≠ '[' := by
    cases path with
    | nil =>
      obtain ⟨c, cs, hcs, -, hbracket⟩ := name_eq_cons last
      exact ⟨c, cs, hcs, hbracket⟩
    | cons n path =>
      obtain ⟨c, cs, hcs, -, hbracket⟩ := name_eq_cons n
      exact ⟨c, cs ++ '.' :: nameChars path last, by simp [nameChars, hcs], hbracket⟩
  have hchars : headerChars path last ++ '\n' :: rest =
      '[' :: (nameChars path last ++ ']' :: '\n' :: rest) := by simp [headerChars]
  rw [hchars]
  rw [hcs, List.cons_append] at hpath ⊢
  simp [line?, hbracket, hpath]

end Reader

/-! ### Several lines -/

/-- Characters that are read as certain lines, wherever they stand. -/
structure Reads (cs : List Char) (lines : List Line) : Prop where
  length_le : lines.length ≤ cs.length
  eq : ∀ fuel rest, Reader.lines? (fuel + lines.length) (cs ++ rest) =
    (Reader.lines? fuel rest).map (lines ++ ·)

namespace Reads

variable {cs ds : List Char} {lines more : List Line}

theorem nil : Reads [] [] where
  length_le := Nat.le_refl 0
  eq fuel rest := by cases h : Reader.lines? fuel rest <;> simp [h]

theorem append (h : Reads cs lines) (h' : Reads ds more) : Reads (cs ++ ds) (lines ++ more) where
  length_le := by
    rw [List.length_append, List.length_append]
    exact Nat.add_le_add h.length_le h'.length_le
  eq fuel rest := by
    rw [List.length_append, Nat.add_comm lines.length, ← Nat.add_assoc, List.append_assoc, h.eq,
      h'.eq, Option.map_map]
    congr 1
    funext ls
    exact (List.append_assoc lines more ls).symm

/-- An empty line says nothing. -/
theorem blank : Reads ['\n'] [] where
  length_le := Nat.zero_le _
  eq fuel rest := by
    have hskip : Reader.skipLines false ('\n' :: rest) = Reader.skipLines false rest := by
      simp [Reader.skipLines]
    have hsame : Reader.lines? fuel ('\n' :: rest) = Reader.lines? fuel rest := by
      cases fuel with
      | zero => rfl
      | succ fuel => rw [Reader.lines?, hskip, Reader.lines?]
    simpa using hsame

/-- A line says what it is read as. -/
theorem line {c : Char} {l : Line} (hc : Reader.Says c)
    (h : ∀ rest, Reader.line? (c :: cs ++ '\n' :: rest) = some (l, '\n' :: rest)) :
    Reads (c :: cs ++ ['\n']) [l] where
  length_le := by simp
  eq fuel rest := by
    have hline := h rest
    have hrest : Reader.lineRest? ('\n' :: rest) = some rest := by
      simp [Reader.lineRest?, skipSpaces, isSpace, Reader.skipComment, lineEnd?]
    have hchars : c :: cs ++ ['\n'] ++ rest = c :: (cs ++ '\n' :: rest) := by simp
    rw [List.cons_append] at hline
    rw [hchars, List.length_singleton, Reader.lines?, Reader.skipLines_of_says hc]
    simp only [hline, hrest]
    rfl

/-- The line of a name and its value. -/
theorem entry (n : String) {v : Tree} (h : Single v) :
    Reads (Reader.entryChars n v ++ ['\n']) [.entry [] n v] := by
  obtain ⟨c, ds, hds, hsays, -⟩ := Reader.name_eq_cons n
  have hfirst : Reader.entryChars n v =
      c :: (ds ++ [' ', '=', ' '] ++ (Printer.value v).toList) := by
    simp [Reader.entryChars, hds]
  rw [hfirst]
  refine line hsays fun rest => ?_
  rw [← hfirst]
  exact Reader.line?_entry n h rest

/-- The line of a header. -/
theorem header {path : List String} (last : String) (h : path.length < Reader.nestingLimit - 1) :
    Reads (Reader.headerChars path last ++ ['\n']) [.header path last] :=
  line (by simp [Reader.Says, isSpace]) fun rest => Reader.line?_header last h rest

/-- Characters that are read as lines to their end are a document of those lines. -/
theorem lines?_eq (h : Reads cs lines) : Reader.lines? (cs.length + 1) cs = some lines := by
  obtain ⟨n, hn⟩ := Nat.exists_eq_add_of_le' h.length_le
  have hread := h.eq (n + 1) []
  rw [List.append_nil] at hread
  rw [hn, Nat.add_right_comm, hread]
  simp [Reader.lines?, Reader.skipLines]

end Reads

end Telemetry.Toml
