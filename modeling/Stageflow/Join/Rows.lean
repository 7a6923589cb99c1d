import Stageflow.Journal

/-!
# Joined rows

One step of a join combines the rows so far with the records of the next input that have the same
key. The left side is worked on in chunks, one for each partition; the right side is looked up by
key.

* `Rows.join` is a step; `chunks` cuts its left side, `Rows.byKey` is the index of its right side.
* `Rows.flattenInner` and `Rows.flattenFullOuter` extend a row by one element.
* `Rows.merge` turns a row into an object with a member for each input.
-/

namespace Stageflow

/-- Records with their join keys. -/
abbrev Keyed := Dataset (String × Json)

/-- Rows with their join keys. -/
abbrev Joined := Dataset (String × JoinRow)

/-- Combines the row so far, if there is one, with a matching record, if there is one. -/
abbrev Flatten := Option JoinRow → Option Json → JoinRow

/-- Cuts a list into chunks of a size; only the last may be shorter. A size of 0 counts as 1. -/
def chunks {α : Type} (size : Nat) : List α → List (List α)
  | [] => []
  | x :: xs => (x :: xs.take (size - 1)) :: chunks size (xs.drop (size - 1))
termination_by xs => xs.length
decreasing_by simp only [List.length_drop, List.length_cons]; omega

namespace Rows

/-- The element of an input with or without a record. -/
def element (input : Name) (record : Option Json) : JoinElement := ⟨input, record⟩

/-- A record of the first input as a row. -/
def seed (input : Name) (record : Json) : JoinRow := [.present input record]

/-- Extends a row; without a row there is nothing before the element. -/
def flattenInner (input : Name) : Flatten := fun left right =>
  left.getD [] ++ [element input right]

/-- Extends a row; without a row every input joined before is marked as absent. -/
def flattenFullOuter (input : Name) (previous : List Name) : Flatten := fun left right =>
  left.getD (previous.map .absent) ++ [element input right]

/-- The rows of the first input. -/
def seedAll (input : Name) (keyed : Keyed) : Joined :=
  .of (keyed.items.map fun p => (p.1, seed input p.2))

/-- The index of the right side: the records of each key, in their order. -/
def byKey (right : Keyed) : Table (List Json) := Table.grouped right.items

/-- The rows that one row on the left becomes. -/
def joinRow (index : Table (List Json)) (type : JoinType) (flatten : Flatten)
    (left : String × JoinRow) : List (String × JoinRow) :=
  match index.get? left.1 with
  | some records => records.map fun r => (left.1, flatten (some left.2) (some r))
  | none => if type = .inner then [] else [(left.1, flatten (some left.2) none)]

/-- The records on the right whose key no row on the left has, as rows. -/
def rightOnly (left : List (String × JoinRow)) (right : List (String × Json)) (flatten : Flatten) :
    List (String × JoinRow) :=
  (right.filter fun p => !left.any (·.1 = p.1)).map fun p => (p.1, flatten none (some p.2))

/-- The number of partitions that a step runs with. -/
def effectivePartitions (default : Nat) (partitions : Option Nat) : Nat :=
  max 1 (partitions.getD default)

/-- The length of the chunks of a left side of some size. -/
def chunkSize (size partitions : Nat) : Nat := max 1 ((size + partitions - 1) / partitions)

/-- The chunks that the left side of a step is worked on in. -/
def leftChunks (default : Nat) (left : Joined) (partitions : Option Nat) :
    List (List (String × JoinRow)) :=
  chunks (chunkSize left.size (effectivePartitions default partitions)) left.items

/-- One step of a join. -/
def join (default : Nat) (left : Joined) (right : Keyed) (type : JoinType)
    (partitions : Option Nat) (flatten : Flatten) : Joined :=
  let index := byKey right
  let rows := (leftChunks default left partitions).flatMap (·.flatMap (joinRow index type flatten))
  .of (rows ++ if type = .fullOuter then rightOnly left.items right.items flatten else [])

/-- A row as an object with a member for each input; an absent record is `null`. -/
def merge (row : JoinRow) : Json :=
  .ofMembers (row.map fun e => (e.stage, e.record.getD .null))

end Rows

end Stageflow
