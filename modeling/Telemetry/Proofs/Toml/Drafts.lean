/-
The lines of a document build its tables up.

A document under construction is taken as what surrounds the table that is open: a `Hole` of the
whole, which the entries of the table fill. Values fill it further, and a header puts another
table behind the entries that are there.

* `Entries.Hole` — the surroundings of a table at the end of a path;
* `Draft.assign_hole` — one more value in the open table;
* `Draft.header_hole`, `Draft.header_absent` — one more table, in one that is there or in one
  that is not there yet;
* **`Draft.addEntries`** — the values of a table, one after the other.
-/
import Telemetry.Toml.Draft

namespace Telemetry.Toml

namespace Entries

variable {name : String} {entries : Entries}

/-! ### Names that are not there yet -/

/-- What comes later under distinct names is not there yet. -/
theorem notMem_of_nodup {names more : List String} (h : (names ++ name :: more).Nodup) :
    name ∉ names := by
  intro hmem
  exact (List.nodup_append.mp h).2.2 name hmem name List.mem_cons_self rfl

theorem get?_of_notMem (h : name ∉ entries.map Prod.fst) : get? name entries = none := by
  induction entries with
  | nil => rfl
  | cons e rest ih =>
    obtain ⟨n, p⟩ := e
    obtain ⟨hne, hrest⟩ : name ≠ n ∧ name ∉ rest.map Prod.fst := by simpa using h
    rw [get?, if_neg hne.symm, ih hrest]

theorem get?_append_self (h : name ∉ entries.map Prod.fst) (p : Part) :
    get? name (entries ++ [(name, p)]) = some p := by
  induction entries with
  | nil => simp [get?]
  | cons e rest ih =>
    obtain ⟨n, q⟩ := e
    obtain ⟨hne, hrest⟩ : name ≠ n ∧ name ∉ rest.map Prod.fst := by simpa using h
    rw [List.cons_append, get?, if_neg hne.symm, ih hrest]

theorem set_of_notMem (h : name ∉ entries.map Prod.fst) (p : Part) :
    set name p entries = entries ++ [(name, p)] := by
  induction entries with
  | nil => rfl
  | cons e rest ih =>
    obtain ⟨n, q⟩ := e
    obtain ⟨hne, hrest⟩ : name ≠ n ∧ name ∉ rest.map Prod.fst := by simpa using h
    rw [set, if_neg hne.symm, ih hrest, List.cons_append]

theorem set_append_self (h : name ∉ entries.map Prod.fst) (p q : Part) :
    set name q (entries ++ [(name, p)]) = entries ++ [(name, q)] := by
  induction entries with
  | nil => simp [set]
  | cons e rest ih =>
    obtain ⟨n, r⟩ := e
    obtain ⟨hne, hrest⟩ : name ≠ n ∧ name ∉ rest.map Prod.fst := by simpa using h
    rw [List.cons_append, set, if_neg hne.symm, ih hrest, List.cons_append]

/-! ### Holes -/

/-- What surrounds the table at the end of a path: a change of the table there is the change of
what fills the hole. -/
def Hole (path : List String) (origin : Origin) (surround : Entries → Entries) : Prop :=
  ∀ change entries, within false change path .header (surround entries) =
    (change origin entries).map surround

/-- The whole document is a hole at the end of the empty path. -/
theorem Hole.root : Hole [] .header id := by
  intro change entries
  simp [within]

/-- A change at the end of a longer path is one of the table that the last name stands in. -/
theorem within_concat (change : Origin → Entries → Option Entries) (path : List String)
    (name : String) (origin : Origin) (entries : Entries) :
    within false change (path ++ [name]) origin entries =
      within false (fun o es => within false change [name] o es) path origin entries := by
  induction path generalizing origin entries with
  | nil => rfl
  | cons n path ih =>
    rw [List.cons_append, within, within]
    simp only [ih]

/-- A table behind the entries of a hole is a hole. -/
theorem Hole.table {path : List String} {origin : Origin} {surround : Entries → Entries}
    (h : Hole path origin surround) (hname : name ∉ entries.map Prod.fst) (o : Origin) :
    Hole (path ++ [name]) o fun es => surround (entries ++ [(name, .table o es)]) := by
  intro change es
  rw [within_concat, h]
  simp only [within, get?_append_self hname, set_append_self hname]
  simp [Function.comp_def]

end Entries

namespace Draft

open Entries

variable {path : List String} {origin : Origin} {surround : Entries → Entries}
  {entries : Entries} {name : String}

theorem add_cons {d d' : Draft} {l : Line} (h : add d l = some d') (more : List Line) :
    (l :: more).foldlM add d = more.foldlM add d' := by
  rw [List.foldlM_cons, h]
  rfl

theorem add_append {d d' : Draft} {lines : List Line} (h : lines.foldlM add d = some d')
    (more : List Line) : (lines ++ more).foldlM add d = more.foldlM add d' := by
  rw [List.foldlM_append, h]
  rfl

/-- A new value fills the hole further. -/
theorem assign_hole (h : Hole path origin surround) (hname : name ∉ entries.map Prod.fst)
    (v : Tree) :
    add ⟨surround entries, path⟩ (.entry [] name v) =
      some ⟨surround (entries ++ [(name, .value v)]), path⟩ := by
  have hassign : Entries.assign [] name v entries = some (entries ++ [(name, .value v)]) := by
    simp [Entries.assign, within, get?_of_notMem hname]
  rw [add, Draft.assign, h, hassign]
  rfl

/-- The parts that single values are. -/
def valueParts (es : List (String × Tree)) : Entries := es.map fun e => (e.1, .value e.2)

@[simp]
theorem names_valueParts (es : List (String × Tree)) :
    (valueParts es).map Prod.fst = es.map Prod.fst := by
  simp [valueParts]

/-- The values of a table, one after the other. -/
theorem addEntries (h : Hole path origin surround) (entries : Entries) (es : List (String × Tree))
    (hnames : ((entries.map Prod.fst) ++ es.map Prod.fst).Nodup) :
    (es.map fun e => Line.entry [] e.1 e.2).foldlM add ⟨surround entries, path⟩ =
      some ⟨surround (entries ++ valueParts es), path⟩ := by
  induction es generalizing entries with
  | nil => simp [valueParts]
  | cons e es ih =>
    have hname : e.1 ∉ entries.map Prod.fst := notMem_of_nodup hnames
    have hrest :
        (((entries ++ [(e.1, Part.value e.2)]).map Prod.fst) ++ es.map Prod.fst).Nodup := by
      simpa using hnames
    rw [List.map_cons, add_cons (assign_hole h hname e.2)]
    have hread := ih _ hrest
    simpa [valueParts] using hread

/-- A header in a table that is there puts one more table behind its entries. -/
theorem header_hole (h : Hole path origin surround) (hname : name ∉ entries.map Prod.fst)
    (current : List String) :
    add ⟨surround entries, current⟩ (.header path name) =
      some ⟨surround (entries ++ [(name, .table .header [])]), path ++ [name]⟩ := by
  have hopen : Entries.openTable path name (surround entries) =
      some (surround (entries ++ [(name, .table .header [])])) := by
    rw [Entries.openTable, h]
    simp [get?_of_notMem hname]
  rw [add, hopen]
  rfl

/-- A header in a table that is not there yet puts that table behind the entries as well. -/
theorem header_absent {title : String} (htitle : title ∉ entries.map Prod.fst) (name : String)
    (current : List String) :
    add ⟨entries, current⟩ (.header [title] name) =
      some ⟨entries ++ [(title, .table .implied [(name, .table .header [])])],
        [title, name]⟩ := by
  have hopen : Entries.openTable [title] name entries =
      some (entries ++ [(title, .table .implied [(name, .table .header [])])]) := by
    simp [Entries.openTable, within, get?_of_notMem htitle, set_of_notMem htitle, get?]
  rw [add, hopen]
  rfl

end Draft

end Telemetry.Toml
