/-
Stack budgets by task name.

* `StackBudgets.get?` — the budget of a name;
* `StackBudgets.insert` — adds a budget or replaces the one of the same name;
* `StackBudgets.override` — a table with entries of another put over it;
* `StackBudgets.ofTaskKinds` — the budgets of the tasks the program always runs.

Design notes: a table is a list of pairs with pairwise distinct names, and every
operation keeps the names distinct.
-/
import Telemetry.Task.Kind

namespace Telemetry

/-- Budgets in bytes, one for each name. -/
structure StackBudgets where
  entries : List (String × Nat) := []
deriving DecidableEq

namespace StackBudgets

/-- A table without budgets. -/
def empty : StackBudgets := ⟨[]⟩

/-- The value of a key in a list of pairs. -/
def lookup (name : String) : List (String × Nat) → Option Nat
  | [] => none
  | (n, b) :: rest => if n = name then some b else lookup name rest

/-- A list of pairs in which a key has a new value. -/
def put (name : String) (budget : Nat) : List (String × Nat) → List (String × Nat)
  | [] => [(name, budget)]
  | (n, b) :: rest => if n = name then (name, budget) :: rest else (n, b) :: put name budget rest

/-- The budget of a name. -/
def get? (b : StackBudgets) (name : String) : Option Nat := lookup name b.entries

/-- A table in which a name has a new budget. -/
def insert (b : StackBudgets) (name : String) (budget : Nat) : StackBudgets :=
  ⟨put name budget b.entries⟩

/-- A table with the entries `overrides` put over it. -/
def override (b : StackBudgets) (overrides : List (String × Nat)) : StackBudgets :=
  overrides.foldl (fun b p => b.insert p.1 p.2) b

/-- The number of names. -/
def length (b : StackBudgets) : Nat := b.entries.length

/-- The budgets of the tasks the program always runs. -/
def ofTaskKinds : StackBudgets :=
  empty.override (TaskKind.all.map fun k => (k.name, k.stackSize))

end StackBudgets

end Telemetry
