/-!
# Tables

A table is a list of name and value pairs in ascending order of the names, each name once.

* `Table.insert` keeps the order: `Table.insert_ascending`.
* `Names.sorted` lists the distinct names of a list in ascending order.
-/

namespace Stageflow

/-- Names of stages, ports, inputs and fields. -/
abbrev Name := String

/-- Pairs of a name and a value; the functions below keep the names ascending. -/
abbrev Table (α : Type) := List (Name × α)

namespace Table

variable {α β : Type}

/-- The names are strictly ascending. -/
def Ascending (t : Table α) : Prop := t.Pairwise (·.1 < ·.1)

/-- Puts a value under a name; an earlier value of that name is replaced. -/
def insert (k : Name) (v : α) : Table α → Table α
  | [] => [(k, v)]
  | (k', v') :: t =>
    if k < k' then (k, v) :: (k', v') :: t
    else if k = k' then (k, v) :: t
    else (k', v') :: insert k v t

theorem mem_insert_or {t : Table α} {k : Name} {v : α} {p : Name × α} (h : p ∈ t.insert k v) :
    p = (k, v) ∨ p ∈ t := by
  induction t with
  | nil => simpa [insert] using h
  | cons q t ih =>
    unfold insert at h
    grind

theorem insert_ascending {t : Table α} (k : Name) (v : α) (h : t.Ascending) :
    (t.insert k v).Ascending := by
  induction t with
  | nil => simp [insert, Ascending]
  | cons q t ih =>
    obtain ⟨below, rest⟩ := List.pairwise_cons.mp h
    unfold insert
    split
    · next before =>
      refine List.pairwise_cons.mpr ⟨fun p hp => ?_, h⟩
      rcases List.mem_cons.mp hp with rfl | hp
      · exact before
      · exact String.lt_trans before (below p hp)
    · next behind =>
      split
      · next same => exact List.pairwise_cons.mpr ⟨fun p hp => same ▸ below p hp, rest⟩
      · next other =>
        refine List.pairwise_cons.mpr ⟨fun p hp => ?_, ih rest⟩
        rcases mem_insert_or hp with rfl | hp
        · exact Std.lt_of_le_of_ne (String.not_lt.mp behind) (Ne.symm other)
        · exact below p hp

/-- The value under a name. -/
def get? (t : Table α) (k : Name) : Option α := (t.find? (·.1 = k)).map (·.2)

/-- Whether a name has a value. -/
def contains (t : Table α) (k : Name) : Bool := t.any (·.1 = k)

/-- The names in ascending order. -/
def keys (t : Table α) : List Name := t.map (·.1)

/-- The values in order of their names. -/
def values (t : Table α) : List α := t.map (·.2)

/-- A table of the pairs given in any order; of two values for a name the later stays. -/
def ofList (ps : List (Name × α)) : Table α := ps.foldl (fun t p => t.insert p.1 p.2) []

/-- Changes every value. -/
def mapValues (f : α → β) (t : Table α) : Table β := t.map fun p => (p.1, f p.2)

/-- Changes the value under a name, starting from `none` where there is none. -/
def update (k : Name) (f : Option α → α) (t : Table α) : Table α := t.insert k (f (t.get? k))

/-- The values of each name in their order. -/
def grouped (ps : List (Name × α)) : Table (List α) :=
  ps.foldl (fun t p => t.update p.1 fun old => old.getD [] ++ [p.2]) []

end Table

/-- The distinct elements of a list, in the order in which they first appear. -/
def distinct {α : Type} [DecidableEq α] (xs : List α) : List α :=
  xs.foldl (fun seen x => if x ∈ seen then seen else seen ++ [x]) []

namespace Names

/-- Puts a name into an ascending list unless it is there. -/
def insert (k : Name) : List Name → List Name
  | [] => [k]
  | k' :: t => if k < k' then k :: k' :: t else if k = k' then k' :: t else k' :: insert k t

/-- The distinct names of a list in ascending order. -/
def sorted (ns : List Name) : List Name := ns.foldr insert []

theorem mem_insert {a k : Name} {t : List Name} : a ∈ insert k t ↔ a = k ∨ a ∈ t := by
  induction t with
  | nil => simp [insert]
  | cons k' t ih =>
    unfold insert
    split
    · simp
    · split
      · next h => subst h; simp
      · simp only [List.mem_cons, ih]; grind

theorem mem_sorted {a : Name} {ns : List Name} : a ∈ sorted ns ↔ a ∈ ns := by
  induction ns with
  | nil => simp [sorted]
  | cons k ns ih => rw [sorted, List.foldr_cons, mem_insert, ← sorted, ih, List.mem_cons]

end Names

end Stageflow
