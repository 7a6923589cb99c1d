import Stageflow.Table

/-!
# Record counters

Counts of the records that a stage read, emitted and rejected, modulo `2 ^ 64`. Stages without a
collector are not counted.
-/

namespace Stageflow

/-- What is counted. -/
inductive Counter
  | input
  | output
  | error
deriving DecidableEq, Inhabited

/-- The counts of a stage. -/
structure Metrics where
  input : UInt64
  output : UInt64
  error : UInt64
deriving DecidableEq, Inhabited

namespace Metrics

def zero : Metrics := ⟨0, 0, 0⟩

/-- Adds to one of the counts. -/
def add (m : Metrics) (c : Counter) (n : Nat) : Metrics :=
  match c with
  | .input => { m with input := m.input + UInt64.ofNat n }
  | .output => { m with output := m.output + UInt64.ofNat n }
  | .error => { m with error := m.error + UInt64.ofNat n }

end Metrics

/-- The counts of the stages that have a collector. -/
abbrev Collectors := Table Metrics

namespace Collectors

/-- Fresh collectors for some stages. -/
def fresh (stages : List Name) : Collectors := Table.ofList (stages.map fun s => (s, Metrics.zero))

/-- Counts for a stage, if it has a collector. -/
def add (cs : Collectors) (stage : Name) (c : Counter) (n : Nat) : Collectors :=
  match cs.get? stage with
  | none => cs
  | some m => Table.insert stage (m.add c n) cs

end Collectors

end Stageflow
