import Stageflow.Settings
import Stageflow.Sink.Pool
import Stageflow.Walk

/-!
# Runs

A run walks a phase and then waits for the writes that the walk put off. Runs that follow each other
add to one ledger; only the counts start anew with every run.

* `Walk.run` is a run that does the writes one after the other.
* `Walk.RunsTo` are all runs, by the ways in which workers may go about the writes.
-/

namespace Stageflow

/-- What a run tells at its end. -/
structure Report where
  visited : List Name
  sinksCompleted : Nat
  /-- Whether the wait for the sinks was interrupted. -/
  interrupted : Bool
deriving DecidableEq, Inhabited

namespace Report

/-- The report of a walk and of the wait after it. -/
def ofOutcome (visited : List Name) : Outcome → Report
  | .completed n => ⟨visited, n, false⟩
  | .interrupted _ => ⟨visited, 0, true⟩

end Report

namespace Walk

/-- Walks the phase and waits for its sinks. -/
def run (w : Walk) (interrupted : Bool) : Journaled FlowError Report := do
  let s ← w.schedule
  let outcome ← execute s.tasks interrupted
  return .ofOutcome s.registry.stages outcome

/-- The reports to which runs may come on some workers, with what they have done by then. -/
inductive RunsTo (w : Walk) (maxWorkers : Option Nat) (interrupted : Bool) :
    Report → List Event → Prop
  | intro {s p outcome} (walked : w.schedule.result = .ok s)
      (reached : Pool.Reachable maxWorkers s.tasks interrupted p)
      (ended : p.verdict = some (.ok outcome)) :
      RunsTo w maxWorkers interrupted (.ofOutcome s.registry.stages outcome)
        (w.schedule.events ++ p.events)

end Walk

/-- The ledger with which the next run begins, for the stages that are to be counted. -/
def Ledger.countAnew (l : Ledger) (stages : List Name) : Ledger :=
  { l with collectors := Collectors.fresh stages }

namespace SinkTask

/-- How each of some tasks ends when they are run one by one. -/
def runAll (tasks : List SinkTask) : List Event × List (SinkTask × Ending) :=
  (tasks.flatMap (·.events), tasks.map fun t => (t, t.ending))

end SinkTask

end Stageflow
