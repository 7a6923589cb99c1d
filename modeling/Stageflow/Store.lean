import Stageflow.Record

/-!
# The store

Records written by sinks and alerts published, by stage. Both only grow, at their ends.
-/

namespace Stageflow

/-- What sinks wrote and what was published. -/
structure Store where
  written : Table (List Json)
  alerts : Table (List Alert)
deriving Inhabited

namespace Store

def empty : Store := ⟨[], []⟩

/-- Appends to the items under a name. -/
def append {α : Type} (t : Table (List α)) (stage : Name) (items : List α) : Table (List α) :=
  Table.update stage (fun old => old.getD [] ++ items) t

/-- Appends records to what a stage wrote. -/
def write (s : Store) (stage : Name) (records : List Json) : Store :=
  { s with written := append s.written stage records }

/-- Appends alerts to what a stage published. -/
def publish (s : Store) (stage : Name) (alerts : List Alert) : Store :=
  { s with alerts := append s.alerts stage alerts }

/-- The records that a stage wrote, none if it never did. -/
def recordsOf (s : Store) (stage : Name) : List Json := (s.written.get? stage).getD []

/-- The alerts that a stage published. -/
def alertsOf (s : Store) (stage : Name) : List Alert := (s.alerts.get? stage).getD []

def hasWritten (s : Store) (stage : Name) : Bool := s.written.contains stage

/-- The stages that wrote at least once, in ascending order. -/
def sinks (s : Store) : List Name := s.written.keys

end Store

end Stageflow
