import Mathlib.Data.List.Basic
import Stageflow.Operators
import Stageflow.Proofs.Names
import Stageflow.Proofs.Steps

/-!
# Joins as nested loops

A step of a join cuts its left side into chunks and looks the records of its right side up by key.
Neither shows in the rows:

* `Rows.nested` is the step as a loop over the left side with a loop over the right side in it;
* `Rows.joinRow_byKey`: the index has the records that a look at every record finds;
* `Rows.leftChunks_length_le`: there are at most as many chunks as partitions;
* `Operators.join_nested`: so a step has the rows of the nested loops, whatever the partitions are.
-/

namespace Stageflow

/-! ## Chunks -/

section Chunks

variable {α : Type} {size n : Nat} {xs : List α}

theorem flatten_chunks (size : Nat) (xs : List α) : (chunks size xs).flatten = xs := by
  fun_induction chunks size xs with
  | case1 => rfl
  | case2 x xs ih => rw [List.flatten_cons, ih, List.cons_append, List.take_append_drop]

theorem chunks_ne_nil {chunk : List α} (h : chunk ∈ chunks size xs) : chunk ≠ [] := by
  fun_induction chunks size xs with
  | case1 => cases h
  | case2 x xs ih =>
    rcases List.mem_cons.mp h with rfl | h
    · exact List.cons_ne_nil x _
    · exact ih h

/-- A list that fits into `n` chunks is not cut into more. -/
theorem length_chunks_le (some_size : 1 ≤ size) (fits : xs.length ≤ size * n) :
    (chunks size xs).length ≤ n := by
  induction n generalizing xs with
  | zero =>
    obtain rfl := List.length_eq_zero_iff.mp (Nat.le_zero.mp fits)
    simp [chunks]
  | succ n ih =>
    cases xs with
    | nil => simp [chunks]
    | cons x xs =>
      have rest : (xs.drop (size - 1)).length ≤ size * n := by
        rw [List.length_drop]
        rw [List.length_cons, Nat.mul_succ] at fits
        omega
      have shorter := ih rest
      rw [chunks, List.length_cons]
      omega

end Chunks

namespace Rows

/-- As many chunks as there are partitions are enough. -/
theorem le_chunkSize_mul (size : Nat) {partitions : Nat} (some_partition : 1 ≤ partitions) :
    size ≤ chunkSize size partitions * partitions := by
  have rounded : size ≤ (size + partitions - 1) / partitions * partitions := by
    have division := Nat.div_add_mod' (size + partitions - 1) partitions
    have remainder := Nat.mod_lt (size + partitions - 1) some_partition
    omega
  exact rounded.trans (Nat.mul_le_mul_right partitions (Nat.le_max_right 1 _))

section LeftChunks

variable (default : Nat) (left : Joined) (partitions : Option Nat)

theorem leftChunks_flatten : (leftChunks default left partitions).flatten = left.items :=
  flatten_chunks _ _

/-- There are at most as many chunks as partitions. -/
theorem leftChunks_length_le :
    (leftChunks default left partitions).length ≤ effectivePartitions default partitions := by
  apply length_chunks_le
  · exact Nat.le_max_left 1 _
  · exact le_chunkSize_mul left.size (Nat.le_max_left 1 _)

end LeftChunks

/-! ## Nested loops -/

/-- The records with a key, in their order. -/
def matching (right : List (String × Json)) (key : String) : List Json :=
  (right.filter (·.1 = key)).map (·.2)

/-- The rows that one row on the left becomes by a look at every record on the right. -/
def nestedRow (right : List (String × Json)) (type : JoinType) (flatten : Flatten)
    (left : String × JoinRow) : List (String × JoinRow) :=
  match matching right left.1 with
  | [] => if type = .inner then [] else [(left.1, flatten (some left.2) none)]
  | records => records.map fun r => (left.1, flatten (some left.2) (some r))

/-- A step of a join as a loop over the left side with a loop over the right side in it, and one
over the right side for the records whose key no row on the left has. -/
def nested (left : List (String × JoinRow)) (right : List (String × Json)) (type : JoinType)
    (flatten : Flatten) : List (String × JoinRow) :=
  left.flatMap (nestedRow right type flatten) ++
    if type = .fullOuter then
      (right.filter (·.1 ∉ left.map (·.1))).map fun p => (p.1, flatten none (some p.2))
    else []

variable {type : JoinType} {flatten : Flatten}

/-- The index has the records that a look at every record finds. -/
theorem joinRow_byKey (right : Keyed) (row : String × JoinRow) :
    joinRow (byKey right) type flatten row = nestedRow right.items type flatten row := by
  have found : (byKey right).get? row.1 =
      if matching right.items row.1 = [] then none else some (matching right.items row.1) :=
    Table.get?_grouped right.items row.1
  unfold joinRow nestedRow
  rw [found]
  cases matching right.items row.1 <;> rfl

theorem rightOnly_eq (left : List (String × JoinRow)) (right : List (String × Json)) :
    rightOnly left right flatten =
      (right.filter (·.1 ∉ left.map (·.1))).map fun p => (p.1, flatten none (some p.2)) := by
  unfold rightOnly
  congr 1
  apply List.filter_congr
  intro p _
  have known : left.any (·.1 = p.1) = decide (p.1 ∈ left.map (·.1)) := by
    rw [Bool.eq_iff_iff, List.any_eq_true, decide_eq_true_eq, List.mem_map]
    simp only [decide_eq_true_eq]
  rw [known, decide_not]

/-- A step shows neither how its left side was cut nor how its right side was looked up. -/
theorem join_items (default : Nat) (left : Joined) (right : Keyed) (type : JoinType)
    (partitions : Option Nat) (flatten : Flatten) :
    (join default left right type partitions flatten).items =
      left.items.flatMap (nestedRow right.items type flatten) ++
        if type = .fullOuter then rightOnly left.items right.items flatten else [] := by
  have rows : (joinRow (byKey right) type flatten) = nestedRow right.items type flatten := by
    funext row
    exact joinRow_byKey right row
  simp only [join, Dataset.of, rows]
  rw [← List.flatMap_assoc (f := fun c => c), List.flatMap_id', leftChunks_flatten]

theorem join_eq_nested (default : Nat) (left : Joined) (right : Keyed) (type : JoinType)
    (partitions : Option Nat) (flatten : Flatten) :
    join default left right type partitions flatten =
      .of (nested left.items right.items type flatten) := by
  have items := join_items default left right type partitions flatten
  rw [rightOnly_eq] at items
  exact congrArg Dataset.of items

end Rows

namespace Operators

open Rows

/--
**A step of a join is two nested loops.** Its rows are those that each row on the left makes with
the records on the right of the same key, in the order of both sides. No partition count shows in
them, be it zero or as large as it likes: the chunks are at most as many as the partitions, and
together they are the left side.
-/
theorem join_nested {ε : Type} (ops : Operators) (left : Joined) (right : Keyed) (type : JoinType)
    (partitions : Option Nat) (flatten : Flatten) :
    (ops.join left right type partitions flatten : Journaled ε Joined).result =
        .ok (.of (nested left.items right.items type flatten)) ∧
      (∀ (others : Operators) (partitions' : Option Nat),
        (others.join left right type partitions' flatten : Journaled ε Joined).result =
          (ops.join left right type partitions flatten : Journaled ε Joined).result) ∧
      let cut := leftChunks ops.defaultPartitions left partitions
      cut.flatten = left.items ∧ (∀ chunk ∈ cut, chunk ≠ []) ∧
        cut.length ≤ max 1 (partitions.getD ops.defaultPartitions) := by
  have rows (any : Operators) (partitions : Option Nat) :
      (any.join left right type partitions flatten : Journaled ε Joined).result =
        .ok (.of (nested left.items right.items type flatten)) :=
    congrArg Except.ok (join_eq_nested any.defaultPartitions left right type partitions flatten)
  refine ⟨rows ops partitions, ?_, ?_, ?_, ?_⟩
  · intro others partitions'
    rw [rows others, rows ops]
  · exact leftChunks_flatten ops.defaultPartitions left partitions
  · intro chunk listed
    exact chunks_ne_nil listed
  · exact leftChunks_length_le ops.defaultPartitions left partitions

end Operators

end Stageflow
