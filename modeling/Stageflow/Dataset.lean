import Stageflow.Table

/-!
# Datasets

A dataset is a list of items that may be marked as kept for several readers. Keeping a dataset
never changes its items, and the union of two datasets is not kept, whatever they are.
-/

namespace Stageflow

/-- A list of items, and whether it is kept for several readers. -/
structure Dataset (α : Type) where
  items : List α
  cached : Bool
deriving Inhabited, DecidableEq

namespace Dataset

variable {α β : Type}

/-- A dataset that is not kept. -/
def of (items : List α) : Dataset α := ⟨items, false⟩

def size (d : Dataset α) : Nat := d.items.length

/-- The items of one dataset after those of the other. -/
def union (a b : Dataset α) : Dataset α := of (a.items ++ b.items)

/-- Marks a dataset as kept. -/
def cache (d : Dataset α) : Dataset α := { d with cached := true }

/-- Marks a dataset as kept under a condition. -/
def cacheIf (keep : Bool) (d : Dataset α) : Dataset α := if keep then d.cache else d

/-- The union of several datasets; a single one is itself. -/
def unionAll : List (Dataset α) → Option (Dataset α)
  | [] => none
  | d :: ds => some (ds.foldl union d)

theorem unionAll_eq_none {ds : List (Dataset α)} : unionAll ds = none ↔ ds = [] := by
  cases ds <;> simp [unionAll]

/-- The items of a union are those of its datasets, in their order. -/
theorem unionAll_items {ds : List (Dataset α)} {d : Dataset α} (h : unionAll ds = some d) :
    d.items = ds.flatMap (·.items) := by
  have run (d : Dataset α) (ds : List (Dataset α)) :
      (ds.foldl union d).items = d.items ++ ds.flatMap (·.items) := by
    induction ds generalizing d with
    | nil => simp
    | cons e ds ih => rw [List.foldl_cons, ih, union, of, List.append_assoc, List.flatMap_cons]
  cases ds with
  | nil => cases h
  | cons e ds =>
    obtain rfl := Option.some.inj h
    exact run e ds

/-- A dataset in words, without its items. -/
def summary (d : Dataset α) : String :=
  "LocalDataset \x7b len: " ++ toString d.size ++ ", cached: " ++
    (if d.cached then "true" else "false") ++ " \x7d"

end Dataset

end Stageflow
