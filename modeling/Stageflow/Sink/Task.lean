import Stageflow.Journal
import Stageflow.Text.Quoted

/-!
# Sink tasks

A write that the scheduling walk puts off until the walk is over. A task is data: the stage it is
for, the records it was given, what it does to the outside, and how it ends.
-/

namespace Stageflow

/-- How a sink task ends. -/
inductive Ending
  | done
  | failed (failure : Failure)
  | panicked (message : String)
deriving DecidableEq, Inhabited

/-- A deferred write. -/
structure SinkTask where
  stage : Name
  records : List Json
  /-- What it does to the outside when it is run. -/
  events : List Event
  ending : Ending
  /-- Whether it asks for the wait for sinks to be abandoned. -/
  interrupts : Bool
deriving Inhabited

namespace SinkTask

/-- A task in words. -/
def summary (t : SinkTask) : String := "SinkTask \x7b stage: " ++ Text.quote t.stage ++ ", .. \x7d"

/-- Writes records to the store, unless the sink is registered to fail. -/
def write (stage : Name) (records : List Json) (failure : Option String) : SinkTask :=
  match failure with
  | some m => ⟨stage, records, [], .failed (.of m), false⟩
  | none =>
    ⟨stage, records,
      [.counted stage .input records.length, .wrote stage records,
        .counted stage .output records.length], .done, false⟩

end SinkTask

end Stageflow
