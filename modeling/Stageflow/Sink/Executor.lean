import Stageflow.Sink.Task

/-!
# Running sink tasks

Tasks run on a bounded number of workers, and the wait for them ends with the first failure, with
the last success, or when it is interrupted.

* `workerCount` is the number of workers for some number of tasks.
* `execute` runs tasks one after the other, as one worker does, and observes each of them before the
  next. It is one of the ways in which workers may go about their tasks.
-/

namespace Stageflow

/-- The number of workers for some tasks: at least one, and no more than there are tasks. -/
def workerCount (maxWorkers : Option Nat) (tasks : Nat) : Nat :=
  match maxWorkers with
  | some m => max 1 (min m (max tasks 1))
  | none => max tasks 1

/-- A number moved into a range, unless the range is empty. -/
def clamp? (low high n : Nat) : Option Nat :=
  if low ≤ high then some (max low (min n high)) else none

section WorkerCount

variable {maxWorkers : Option Nat} {tasks : Nat}

theorem one_le_workerCount : 1 ≤ workerCount maxWorkers tasks := by
  cases maxWorkers <;> simp only [workerCount] <;> omega

theorem workerCount_le_tasks : workerCount maxWorkers tasks ≤ max 1 tasks := by
  cases maxWorkers <;> simp only [workerCount] <;> omega

theorem workerCount_le_bound (m : Nat) : workerCount (some m) tasks ≤ max 1 m := by
  simp only [workerCount]
  omega

/-- The range into which a bound on the workers is moved is never empty. -/
theorem clamp?_bound (m tasks : Nat) :
    clamp? 1 (max tasks 1) m = some (workerCount (some m) tasks) := by
  have nonempty : 1 ≤ max tasks 1 := Nat.le_max_right tasks 1
  rw [clamp?, if_pos nonempty, workerCount]

end WorkerCount

/-- How the wait for sink tasks ends if none of them fails. -/
inductive Outcome
  | completed (tasks : Nat)
  /-- The wait was interrupted before so many tasks were observed. -/
  | interrupted (pending : Nat)
deriving DecidableEq, Inhabited

/-- The error of a task that did not end well. -/
def SinkTask.error? (t : SinkTask) : Option FlowError :=
  match t.ending with
  | .done => none
  | .failed f => some (.sinkFailed t.stage f)
  | .panicked m => some (.sinkPanicked t.stage m)

/-- Runs the tasks that are left, of which there were `total`. -/
def executeFrom (total : Nat) : List SinkTask → (completed : Nat) → Journaled FlowError Outcome
  | [], completed => return .completed completed
  | t :: ts, completed =>
    ⟨t.events, .ok ()⟩ >>= fun _ =>
      if t.interrupts then return .interrupted (total - completed)
      else
        match t.error? with
        | some e => .fail e
        | none => executeFrom total ts (completed + 1)

/-- Runs tasks; without tasks there is nothing to interrupt. -/
def execute (tasks : List SinkTask) (interrupted : Bool) : Journaled FlowError Outcome :=
  if interrupted ∧ !tasks.isEmpty then return .interrupted tasks.length
  else executeFrom tasks.length tasks 0

end Stageflow
