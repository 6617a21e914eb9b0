/-
A document of sections is read back as its tree.

A section is a table with a title, in which single values come before tables of single values.
The printer writes a header for it, unless all it has are such tables, and a header for each of
those.

* `Section` — a section, with `Section.document` for the tree that sections make up;
* `Section.Proper` — values that the printer can write, under distinct names;
* `Section.addLines` — the lines of a section build its table up;
* `Blocks` — texts with an empty line between them, against the lines that they are read as;
* `Section.kept` — a section without some of its entries is proper as well;
* **`Toml.parse?_print`** — a table of proper sections is read back from its text.
-/
import Telemetry.Proofs.Toml.Drafts
import Telemetry.Proofs.Toml.Lines

namespace Telemetry.Toml

/-- A table with a title: its single values and the tables behind them. -/
structure Section where
  title : String
  singles : List (String × Tree)
  tables : List (String × List (String × Tree))

/-- Single values under distinct names. -/
structure Leaf (es : List (String × Tree)) : Prop where
  singles : ∀ e ∈ es, Single e.2
  names : (es.map Prod.fst).Nodup

/-- The lines of the values of a table. -/
def entryLines (es : List (String × Tree)) : List Line := es.map fun e => .entry [] e.1 e.2

namespace Section

/-- The entries of the table. -/
def entries (s : Section) : List (String × Tree) :=
  s.singles ++ s.tables.map fun t => (t.1, .table t.2)

/-- The tree that sections make up. -/
def document (sections : List Section) : Tree :=
  .table (sections.map fun s => (s.title, .table s.entries))

/-- Values that the printer can write, under distinct names. -/
structure Proper (s : Section) : Prop where
  singles : ∀ e ∈ s.singles, Single e.2
  tables : ∀ t ∈ s.tables, Leaf t.2
  names : (s.singles.map Prod.fst ++ s.tables.map Prod.fst).Nodup

/-- Whether the section has a header of its own. -/
def hasHeader (s : Section) : Bool := !s.singles.isEmpty || s.tables.isEmpty

/-- The lines of the tables of a section. -/
def tableLines (title : String) (tables : List (String × List (String × Tree))) : List Line :=
  tables.flatMap fun t => .header [title] t.1 :: entryLines t.2

/-- The lines of a section. -/
def lines (s : Section) : List Line :=
  (if s.hasHeader then .header [] s.title :: entryLines s.singles else []) ++
    tableLines s.title s.tables

/-! ### Building up -/

open Entries Draft

/-- The parts that tables of single values are. -/
def tableParts (tables : List (String × List (String × Tree))) : Entries :=
  tables.map fun t => (t.1, .table .header (valueParts t.2))

variable {title : String} {root : Entries}

/-- A section at the end of a document is a hole of it. -/
theorem hole (htitle : title ∉ root.map Prod.fst) (origin : Origin) :
    Hole [title] origin fun es => root ++ [(title, .table origin es)] :=
  Hole.root.table htitle origin

/-- The values of one more table, after its header. -/
theorem addTable (origin : Origin) (entries : Entries) (htitle : title ∉ root.map Prod.fst)
    {t : String × List (String × Tree)} (hleaf : Leaf t.2) (hname : t.1 ∉ entries.map Prod.fst) :
    (entryLines t.2).foldlM add
      ⟨root ++ [(title, .table origin (entries ++ [(t.1, .table .header [])]))], [title, t.1]⟩ =
      some ⟨root ++ [(title, .table origin (entries ++ tableParts [t]))], [title, t.1]⟩ := by
  have hinner := (hole htitle origin).table hname .header
  have hread := addEntries hinner [] t.2 (by simpa using hleaf.names)
  simpa [entryLines, tableParts] using hread

/-- The tables of a section, one after the other. -/
theorem addTables (origin : Origin) (entries : Entries) (htitle : title ∉ root.map Prod.fst)
    {tables : List (String × List (String × Tree))} (hleaves : ∀ t ∈ tables, Leaf t.2)
    (hnames : (entries.map Prod.fst ++ tables.map Prod.fst).Nodup) (current : List String) :
    ∃ path, (tableLines title tables).foldlM add
      ⟨root ++ [(title, .table origin entries)], current⟩ =
        some ⟨root ++ [(title, .table origin (entries ++ tableParts tables))], path⟩ := by
  induction tables generalizing entries current with
  | nil => exact ⟨current, by simp [tableLines, tableParts]⟩
  | cons t tables ih =>
    have hname : t.1 ∉ entries.map Prod.fst := notMem_of_nodup hnames
    have hnames' : (((entries ++ tableParts [t]).map Prod.fst) ++ tables.map Prod.fst).Nodup := by
      simpa [tableParts] using hnames
    have hheader := header_hole (hole htitle origin) hname current
    obtain ⟨hleaf, hleaves'⟩ := List.forall_mem_cons.mp hleaves
    have hvalues := addTable origin entries htitle hleaf hname
    obtain ⟨path, hrest⟩ := ih _ hleaves' hnames' [title, t.1]
    refine ⟨path, ?_⟩
    have hlines : tableLines title (t :: tables) =
        .header [title] t.1 :: (entryLines t.2 ++ tableLines title tables) := by
      simp [tableLines]
    have hparts : entries ++ tableParts [t] ++ tableParts tables =
        entries ++ tableParts (t :: tables) := by
      simp [tableParts]
    rw [hlines, add_cons hheader, ← hparts]
    exact (add_append hvalues _).trans hrest

/-- The table that the lines of a section build up, and how it came to be. -/
def part (s : Section) : Part :=
  .table (if s.hasHeader then .header else .implied)
    (valueParts s.singles ++ tableParts s.tables)

/-- The lines of a section build its table up at the end of the document. -/
theorem addLines {s : Section} (hs : s.Proper) (htitle : s.title ∉ root.map Prod.fst)
    (current : List String) :
    ∃ path, s.lines.foldlM add ⟨root, current⟩ = some ⟨root ++ [(s.title, s.part)], path⟩ := by
  obtain ⟨hsingles, hleaves, hnames⟩ := hs
  by_cases hheader : s.hasHeader = true
  · -- the header makes the section; its values fill it, and the tables come behind them
    have hopen : add ⟨root, current⟩ (.header [] s.title) =
        some ⟨root ++ [(s.title, .table .header [])], [s.title]⟩ :=
      header_hole Hole.root htitle current
    have hvalues := addEntries (hole htitle .header) [] s.singles
      (by simpa using (List.nodup_append.mp hnames).1)
    obtain ⟨path, htables⟩ := addTables .header (valueParts s.singles) htitle hleaves
      (by simpa using hnames) [s.title]
    refine ⟨path, ?_⟩
    have hlines : s.lines = .header [] s.title :: (entryLines s.singles ++
        tableLines s.title s.tables) := by
      simp [lines, hheader]
    rw [hlines, add_cons hopen]
    rw [part, if_pos hheader]
    exact (add_append hvalues _).trans htables
  · -- the header of the first table makes the section
    obtain ⟨hnone, hsome⟩ : s.singles = [] ∧ s.tables ≠ [] := by
      simpa [hasHeader] using hheader
    obtain ⟨t, tables, ht⟩ := List.exists_cons_of_ne_nil hsome
    rw [ht] at hleaves hnames
    have hopen := header_absent htitle t.1 current
    obtain ⟨hleaf, hleaves'⟩ := List.forall_mem_cons.mp hleaves
    have hvalues := addTable .implied [] htitle hleaf (by simp)
    obtain ⟨path, htables⟩ := addTables .implied (tableParts [t]) htitle hleaves'
      (by simpa [hnone, tableParts] using hnames) [s.title, t.1]
    refine ⟨path, ?_⟩
    have hlines : s.lines = .header [s.title] t.1 :: (entryLines t.2 ++
        tableLines s.title tables) := by
      simp [lines, hheader, ht, tableLines]
    have hpart : s.part = .table .implied (tableParts [t] ++ tableParts tables) := by
      simp [part, hheader, hnone, ht, valueParts, tableParts]
    rw [hlines, add_cons hopen, hpart]
    exact (add_append hvalues _).trans htables

/-- The lines of sections build a table up for each of them. -/
theorem addSections (root : Entries) {sections : List Section} (hs : ∀ s ∈ sections, s.Proper)
    (htitles : (root.map Prod.fst ++ sections.map Section.title).Nodup) (current : List String) :
    ∃ path, (sections.flatMap Section.lines).foldlM add ⟨root, current⟩ =
      some ⟨root ++ sections.map fun s => (s.title, s.part), path⟩ := by
  induction sections generalizing root current with
  | nil => exact ⟨current, by simp⟩
  | cons s sections ih =>
    have htitle : s.title ∉ root.map Prod.fst := notMem_of_nodup htitles
    obtain ⟨hproper, hs'⟩ := List.forall_mem_cons.mp hs
    obtain ⟨path, hfirst⟩ := addLines hproper htitle current
    obtain ⟨path', hrest⟩ := ih (root ++ [(s.title, s.part)]) hs' (by simpa using htitles) path
    refine ⟨path', ?_⟩
    rw [List.flatMap_cons, add_append hfirst]
    simpa using hrest

/-! ### Trees -/

theorem treeEntries_append (es fs : Entries) :
    treeEntries (es ++ fs) = treeEntries es ++ treeEntries fs := by
  induction es with
  | nil => simp [treeEntries]
  | cons e es ih =>
    obtain ⟨n, p⟩ := e
    rw [List.cons_append, treeEntries, treeEntries, ih, List.cons_append]

theorem treeEntries_valueParts (es : List (String × Tree)) : treeEntries (valueParts es) = es := by
  induction es with
  | nil => simp [valueParts, treeEntries]
  | cons e es ih =>
    rw [valueParts, List.map_cons, ← valueParts, treeEntries, ih, Part.tree]

theorem treeEntries_tableParts (tables : List (String × List (String × Tree))) :
    treeEntries (tableParts tables) = tables.map fun t => (t.1, .table t.2) := by
  induction tables with
  | nil => simp [tableParts, treeEntries]
  | cons t tables ih =>
    rw [tableParts, List.map_cons, ← tableParts, treeEntries, ih, Part.tree,
      treeEntries_valueParts, List.map_cons]

theorem tree_part (s : Section) : s.part.tree = .table s.entries := by
  rw [part, Part.tree, treeEntries_append, treeEntries_valueParts, treeEntries_tableParts, entries]

theorem treeEntries_sections (sections : List Section) :
    treeEntries (sections.map fun s => (s.title, s.part)) =
      sections.map fun s => (s.title, .table s.entries) := by
  induction sections with
  | nil => simp [treeEntries]
  | cons s sections ih => rw [List.map_cons, treeEntries, ih, tree_part, List.map_cons]

/-! ### The text -/

theorem singles_cons {v : Tree} (h : Single v) (n : String) (rest : List (String × Tree)) :
    Printer.singles ((n, v) :: rest) =
      Printer.name n ++ " = " ++ Printer.value v ++ "\n" ++ Printer.singles rest := by
  cases h <;> rw [Printer.singles] <;> simp

/-- Tables have no line among the single values. -/
theorem singles_append_tables {es : List (String × Tree)} (h : ∀ e ∈ es, Single e.2)
    (tables : List (String × List (String × Tree))) :
    Printer.singles (es ++ tables.map fun t => (t.1, .table t.2)) = Printer.singles es := by
  induction es with
  | nil =>
    induction tables with
    | nil => rfl
    | cons t tables ih => simpa [Printer.singles] using ih
  | cons e es ih =>
    obtain ⟨hsingle, hrest⟩ := List.forall_mem_cons.mp h
    rw [List.cons_append, singles_cons hsingle, ih hrest, singles_cons hsingle]

theorem singles_ne_empty {es : List (String × Tree)} (h : ∀ e ∈ es, Single e.2) (hne : es ≠ []) :
    Printer.singles es ≠ "" := by
  obtain ⟨e, es, rfl⟩ := List.exists_cons_of_ne_nil hne
  intro hempty
  have hchars := congrArg String.toList hempty
  rw [singles_cons (h e List.mem_cons_self)] at hchars
  simp at hchars

/-- The lines of single values are read back. -/
theorem reads_singles {es : List (String × Tree)} (h : ∀ e ∈ es, Single e.2) :
    Reads (Printer.singles es).toList (entryLines es) := by
  induction es with
  | nil => exact Reads.nil
  | cons e es ih =>
    obtain ⟨hsingle, hrest⟩ := List.forall_mem_cons.mp h
    have hchars : (Printer.singles (e :: es)).toList =
        Reader.entryChars e.1 e.2 ++ ['\n'] ++ (Printer.singles es).toList := by
      rw [singles_cons hsingle]
      simp [Reader.entryChars]
    rw [hchars]
    exact (Reads.entry e.1 hsingle).append (ih hrest)

theorem toList_names (path : List String) (last : String) :
    (".".intercalate ((path ++ [last]).map Printer.name)).toList = Reader.nameChars path last := by
  induction path with
  | nil => simp [Reader.nameChars]
  | cons n path ih =>
    -- a point follows the first name because at least one more name does
    obtain ⟨m, rest, hm⟩ := List.exists_cons_of_ne_nil (show path ++ [last] ≠ [] by simp)
    rw [hm] at ih
    rw [List.cons_append, hm]
    simp [Reader.nameChars] at ih ⊢
    exact ih

/-- A header and the single values under it are read back. -/
theorem reads_headed {path : List String} (last : String)
    (hpath : path.length < Reader.nestingLimit - 1) {es : List (String × Tree)}
    (h : ∀ e ∈ es, Single e.2) :
    Reads ("[" ++ ".".intercalate ((path ++ [last]).map Printer.name) ++ "]\n" ++
      Printer.singles es).toList (.header path last :: entryLines es) := by
  have hchars : ("[" ++ ".".intercalate ((path ++ [last]).map Printer.name) ++ "]\n" ++
      Printer.singles es).toList =
        Reader.headerChars path last ++ ['\n'] ++ (Printer.singles es).toList := by
    rw [Reader.headerChars, ← toList_names]
    simp
  rw [hchars]
  exact (Reads.header last hpath).append (reads_singles h)

end Section

/-! ### Blocks -/

/-- Texts that begin with a bracket, and the lines that they are read as. -/
inductive Blocks : List String → List Line → Prop where
  | nil : Blocks [] []
  | cons {b : String} {bs : List String} {ls more : List Line} (h : Reads b.toList ls)
      (hfirst : b.toList.head? = some '[') (hrest : Blocks bs more) : Blocks (b :: bs) (ls ++ more)

namespace Blocks

variable {bs cs : List String} {ls more : List Line}

theorem append (h : Blocks bs ls) (h' : Blocks cs more) : Blocks (bs ++ cs) (ls ++ more) := by
  induction h with
  | nil => exact h'
  | cons hb hfirst hrest ih =>
    rw [List.append_assoc]
    exact .cons hb hfirst ih

theorem toList_intercalate_cons (b c : String) (cs : List String) :
    ("\n".intercalate (b :: c :: cs)).toList =
      b.toList ++ (['\n'] ++ ("\n".intercalate (c :: cs)).toList) := by
  simp

/-- Blocks with an empty line between them are read one after the other. -/
theorem reads (h : Blocks bs ls) : Reads ("\n".intercalate bs).toList ls := by
  induction h with
  | nil => exact Reads.nil
  | @cons b bs ls more hb hfirst hrest ih =>
    cases bs with
    | nil =>
      cases hrest
      simpa using hb
    | cons c cs =>
      rw [toList_intercalate_cons]
      exact hb.append (Reads.blank.append ih)

/-- No mark of byte order begins them. -/
theorem characters_eq (h : Blocks bs ls) :
    Reader.characters ("\n".intercalate bs) = ("\n".intercalate bs).toList := by
  have hmark : ∀ cs, ("\n".intercalate bs).toList ≠ '\uFEFF' :: cs := by
    intro cs heq
    cases h with
    | nil => simp at heq
    | @cons b bs ls more hb hfirst hrest =>
      obtain ⟨ds, hds⟩ := List.head?_eq_some_iff.mp hfirst
      cases bs with
      | nil => simp [hds] at heq
      | cons c rest =>
        rw [toList_intercalate_cons, hds, List.cons_append] at heq
        exact absurd (List.cons.inj heq).1 (by decide)
  unfold Reader.characters
  split
  · rename_i cs heq
    exact absurd heq (hmark cs)
  · rfl

/-- The block of a header and the single values under it. -/
theorem headed (path : List String) (last : String) (hpath : path.length < Reader.nestingLimit - 1)
    {es entries : List (String × Tree)} (h : ∀ e ∈ es, Single e.2)
    (hsingles : Printer.singles entries = Printer.singles es)
    (hheader : Printer.hasHeader entries = true) :
    Blocks (Printer.headed (path ++ [last]) entries) (.header path last :: entryLines es) := by
  rw [Printer.headed, if_pos hheader, hsingles]
  have hread := Section.reads_headed last hpath h
  simpa using Blocks.cons hread (by simp) .nil

/-- Single values have no sections of their own. -/
theorem subsections_append {es : List (String × Tree)} (h : ∀ e ∈ es, Single e.2)
    (path : List String) (entries : List (String × Tree)) :
    Printer.subsections path (es ++ entries) = Printer.subsections path entries := by
  induction es with
  | nil => rfl
  | cons e es ih =>
    obtain ⟨n, v⟩ := e
    obtain ⟨hsingle, hrest⟩ := List.forall_mem_cons.mp h
    have hnone : Printer.sections (path ++ [n]) v = [] := by
      cases hsingle <;> rw [Printer.sections] <;> simp
    rw [List.cons_append, Printer.subsections, hnone, List.nil_append, ih hrest]

/-- A table of single values has a header, if only for want of any. -/
theorem hasHeader_leaf {es : List (String × Tree)} (h : ∀ e ∈ es, Single e.2) :
    Printer.hasHeader es = true := by
  cases es with
  | nil => rfl
  | cons e es =>
    have hne := Section.singles_ne_empty h (List.cons_ne_nil e es)
    simp [Printer.hasHeader, hne]

/-- The tables of a section. -/
theorem tables (title : String) {tables : List (String × List (String × Tree))}
    (h : ∀ t ∈ tables, Leaf t.2) :
    Blocks (Printer.subsections [title] (tables.map fun t => (t.1, .table t.2)))
      (Section.tableLines title tables) := by
  induction tables with
  | nil => exact .nil
  | cons t tables ih =>
    obtain ⟨⟨hleaf, -⟩, hrest⟩ := List.forall_mem_cons.mp h
    have hinner : Printer.subsections [title, t.1] t.2 = [] := by
      have hnone := subsections_append hleaf [title, t.1] []
      rwa [List.append_nil] at hnone
    have hfirst : Blocks (Printer.sections [title, t.1] (.table t.2))
        (.header [title] t.1 :: entryLines t.2) := by
      rw [Printer.sections, hinner, List.append_nil]
      exact headed [title] t.1 (by simp [Reader.nestingLimit]) hleaf rfl (hasHeader_leaf hleaf)
    have hlines : Section.tableLines title (t :: tables) =
        (.header [title] t.1 :: entryLines t.2) ++ Section.tableLines title tables :=
      List.flatMap_cons
    rw [List.map_cons, Printer.subsections, hlines]
    exact hfirst.append (ih hrest)

end Blocks

namespace Section

theorem singles_entries {s : Section} (hs : s.Proper) :
    Printer.singles s.entries = Printer.singles s.singles :=
  singles_append_tables hs.singles s.tables

/-- The printer writes a header for the sections that have one. -/
theorem hasHeader_entries {s : Section} (hs : s.Proper) :
    Printer.hasHeader s.entries = s.hasHeader := by
  have hsingles := singles_entries hs
  by_cases hnone : s.singles = []
  · have hempty : Printer.singles s.entries = "" := by rw [hsingles, hnone, Printer.singles]
    rw [Printer.hasHeader, hempty]
    simp [hasHeader, hnone, entries]
  · have hne : Printer.singles s.entries ≠ "" := by
      rw [hsingles]
      exact singles_ne_empty hs.singles hnone
    simp [Printer.hasHeader, hasHeader, hne, hnone]

/-- A section. -/
theorem blocks {s : Section} (hs : s.Proper) :
    Blocks (Printer.sections [s.title] (.table s.entries)) s.lines := by
  have htables := Blocks.tables s.title hs.tables
  have hhead : Blocks (Printer.headed [s.title] s.entries)
      (if s.hasHeader then .header [] s.title :: entryLines s.singles else []) := by
    by_cases hheader : s.hasHeader = true
    · rw [if_pos hheader]
      exact Blocks.headed [] s.title (by simp [Reader.nestingLimit]) hs.singles
        (singles_entries hs) (by rw [hasHeader_entries hs, hheader])
    · rw [if_neg hheader, Printer.headed, hasHeader_entries hs, if_neg hheader]
      exact .nil
  rw [Printer.sections, entries, Blocks.subsections_append hs.singles, ← entries]
  exact hhead.append htables

/-- All sections of a document. -/
theorem blocks_document {sections : List Section} (hs : ∀ s ∈ sections, s.Proper) :
    Blocks (Printer.subsections [] (sections.map fun s => (s.title, .table s.entries)))
      (sections.flatMap lines) := by
  induction sections with
  | nil => exact .nil
  | cons s sections ih =>
    obtain ⟨hproper, hrest⟩ := List.forall_mem_cons.mp hs
    rw [List.map_cons, Printer.subsections, List.flatMap_cons]
    exact (blocks hproper).append (ih hrest)

/-- The text of a document of sections is its blocks: no value stands outside of them. -/
theorem print_document (sections : List Section) :
    print (document sections) =
      "\n".intercalate
        (Printer.subsections [] (sections.map fun s => (s.title, .table s.entries))) := by
  have hfront := singles_append_tables (show ∀ e ∈ ([] : List (String × Tree)), Single e.2 by simp)
    (sections.map fun s => (s.title, s.entries))
  have hnone : Printer.singles (sections.map fun s => (s.title, .table s.entries)) = "" := by
    simpa [Function.comp_def, Printer.singles] using hfront
  rw [document, print, hnone]
  simp

/-- A document of sections is read back from its text. -/
theorem parse?_print_document {sections : List Section} (hs : ∀ s ∈ sections, s.Proper)
    (htitles : (sections.map Section.title).Nodup) :
    parse? (print (document sections)) = some (document sections) := by
  have hblocks := blocks_document hs
  -- the text is read as the lines of its blocks, and the lines build the sections up
  obtain ⟨path, hbuilt⟩ := addSections [] hs (by simpa using htitles) []
  have hlines := hblocks.reads.lines?_eq
  have hdraft : Draft.ofLines (sections.flatMap lines) =
      some ⟨sections.map fun s => (s.title, s.part), path⟩ := by
    simpa [Draft.ofLines] using hbuilt
  rw [print_document, parse?, hblocks.characters_eq]
  simp only [hlines, hdraft]
  rw [Option.map_some, Draft.tree, treeEntries_sections, document]

/-- The section without the entries whose names are not kept. -/
def kept (s : Section) (keep : String → Bool) : Section where
  title := s.title
  singles := s.singles.filter fun e => keep e.1
  tables := s.tables.filter fun t => keep t.1

theorem Proper.kept {s : Section} (hs : s.Proper) (keep : String → Bool) :
    (s.kept keep).Proper where
  singles e he := hs.singles e ((List.mem_filter.mp he).1)
  tables t ht := hs.tables t ((List.mem_filter.mp ht).1)
  names := hs.names.sublist
    ((List.filter_sublist.map Prod.fst).append (List.filter_sublist.map Prod.fst))

theorem entries_kept (s : Section) (keep : String → Bool) :
    (s.kept keep).entries = s.entries.filter fun e => keep e.1 := by
  simp [entries, kept, List.filter_append, List.filter_map, Function.comp_def]

end Section

/-- A tree that is a proper section under a title. -/
def IsSection (title : String) (v : Tree) : Prop :=
  ∃ s : Section, s.Proper ∧ s.title = title ∧ v = .table s.entries

/-- Tables that are sections make up a document. -/
theorem exists_document {es : List (String × Tree)} (h : ∀ e ∈ es, IsSection e.1 e.2) :
    ∃ sections : List Section, (∀ s ∈ sections, s.Proper) ∧
      sections.map Section.title = es.map Prod.fst ∧ .table es = Section.document sections := by
  induction es with
  | nil => exact ⟨[], by simp, rfl, rfl⟩
  | cons e es ih =>
    obtain ⟨⟨s, hs, htitle, htree⟩, hrest⟩ := List.forall_mem_cons.mp h
    obtain ⟨sections, hsections, htitles, hdocument⟩ := ih hrest
    refine ⟨s :: sections, ?_, ?_, ?_⟩
    · simpa using ⟨hs, hsections⟩
    · simp [htitle, htitles]
    · obtain ⟨title, v⟩ := e
      obtain rfl : s.title = title := htitle
      obtain rfl : v = .table s.entries := htree
      simpa [Section.document] using hdocument

/-- A table of sections under distinct titles is read back from its text. -/
theorem parse?_print {es : List (String × Tree)} (h : ∀ e ∈ es, IsSection e.1 e.2)
    (htitles : (es.map Prod.fst).Nodup) : parse? (print (.table es)) = some (.table es) := by
  obtain ⟨sections, hsections, hnames, hdocument⟩ := exists_document h
  rw [hdocument]
  exact Section.parse?_print_document hsections (hnames ▸ htitles)

end Telemetry.Toml
