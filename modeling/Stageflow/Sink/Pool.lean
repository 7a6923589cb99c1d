import Stageflow.Sink.Executor

/-!
# Workers

All ways in which a bounded number of workers may go about some sink tasks. A task starts when it
gets a permit, in any order, and does its events one by one; the wait observes the tasks that have
ended, in any order, until it has a verdict.

* `Pool.Step` is what may happen next, `Pool.Run` any number of such steps.
* The wait looks for an interruption before it looks for a task that has ended. An interruption that
  is asked for between the two is found when the wait looks again.
* After the verdict the wait lets go of the tasks. One that runs goes on without its permit, which
  may let another start before the wait has come to that one.
-/

namespace Stageflow

/-- How far a task is. -/
inductive Progress
  | waiting
  /-- It runs; these events are still to be done. It holds its permit until the wait lets go. -/
  | running (left : List Event) (holds : Bool)
  /-- It has ended, and the wait has not observed it. -/
  | ended
  | observed
deriving Inhabited

namespace Progress

def isWaiting : Progress → Bool
  | waiting => true
  | _ => false

def isRunning : Progress → Bool
  | running .. => true
  | _ => false

/-- Whether the task holds a permit. -/
def holdsPermit : Progress → Bool
  | running _ holds => holds
  | _ => false

def isObserved : Progress → Bool
  | observed => true
  | _ => false

end Progress

/-- Sink tasks on their way through the workers. -/
structure Pool where
  tasks : List (SinkTask × Progress)
  /-- The permits that no task holds. -/
  permits : Nat
  /-- The places of the tasks that were started, in the order of their starts. -/
  started : List Nat
  /-- Whether an interruption was asked for. -/
  interrupted : Bool
  /-- Whether the wait has just found that it is not interrupted. -/
  looked : Bool
  /-- The successes that the wait has counted. -/
  completed : Nat
  /-- What the tasks have done so far, in the order in which it happened. -/
  events : List Event
  /-- How the wait ended, if it has. -/
  verdict : Option (Except FlowError Outcome)

namespace Pool

/-- No task has been started. -/
def initial (workers : Nat) (tasks : List SinkTask) (interrupted : Bool) : Pool :=
  ⟨tasks.map (·, .waiting), workers, [], interrupted, false, 0, [], none⟩

/-- The number of tasks with some progress. -/
def count (p : Pool) (s : Progress → Bool) : Nat := p.tasks.countP (s ·.2)

/-- The number of tasks that run. -/
def running (p : Pool) : Nat := p.count Progress.isRunning

/-- The tasks, with the progress of one of them. -/
def withTask (p : Pool) (before after : List (SinkTask × Progress)) (t : SinkTask)
    (s : Progress) : Pool :=
  { p with tasks := before ++ (t, s) :: after }

/-- Ends the wait. -/
def conclude (p : Pool) (v : Except FlowError Outcome) : Pool := { p with verdict := some v }

/-- What may happen next. -/
inductive Step : Pool → Pool → Prop
  /-- A waiting task takes a permit and starts. -/
  | take {p before after t} (shape : p.tasks = before ++ (t, .waiting) :: after)
      (free : 0 < p.permits) :
      Step p
        { p.withTask before after t (.running t.events true) with
          permits := p.permits - 1
          started := p.started ++ [before.length] }
  /-- A task that runs does its next event. -/
  | act {p before after t e es holds}
      (shape : p.tasks = before ++ (t, .running (e :: es) holds) :: after) :
      Step p { p.withTask before after t (.running es holds) with events := p.events ++ [e] }
  /-- A task ends; it has asked for an interruption by then, if it does so at all. -/
  | finish {p before after t holds}
      (shape : p.tasks = before ++ (t, .running [] holds) :: after) :
      Step p
        { p.withTask before after t .ended with
          permits := p.permits + holds.toNat
          interrupted := p.interrupted || t.interrupts }
  /-- An interruption is asked for. -/
  | interrupt {p} : Step p { p with interrupted := true }
  /-- The wait finds that it is interrupted. -/
  | abandon {p} (asked : p.interrupted = true) (nonempty : p.tasks ≠ [])
      (pending : p.verdict = none) (again : p.looked = false) :
      Step p (p.conclude (.ok (.interrupted (p.tasks.length - p.completed))))
  /-- The wait finds that it is not interrupted. -/
  | look {p} (calm : p.interrupted = false) (pending : p.verdict = none) :
      Step p { p with looked := true }
  /-- The wait finds no task that has ended, and will look again. -/
  | rest {p} (looked : p.looked = true) (pending : p.verdict = none) :
      Step p { p with looked := false }
  /-- The wait observes the success of a task. -/
  | observe {p before after t} (shape : p.tasks = before ++ (t, .ended) :: after)
      (looked : p.looked = true) (well : t.error? = none) (pending : p.verdict = none) :
      Step p
        { p.withTask before after t .observed with
          looked := false
          completed := p.completed + 1 }
  /-- The wait observes the failure of a task. -/
  | report {p before after t e} (shape : p.tasks = before ++ (t, .ended) :: after)
      (looked : p.looked = true) (ill : t.error? = some e) (pending : p.verdict = none) :
      Step p (p.conclude (.error e))
  /-- The wait finds no task left; without tasks it need not look for an interruption. -/
  | complete {p} (none_left : ∀ x ∈ p.tasks, x.2.isObserved)
      (looked : p.looked = true ∨ p.tasks = []) (pending : p.verdict = none) :
      Step p (p.conclude (.ok (.completed p.completed)))
  /-- After the verdict a task that runs loses its permit and goes on. -/
  | release {p before after t es}
      (shape : p.tasks = before ++ (t, .running es true) :: after) (late : p.verdict ≠ none) :
      Step p { p.withTask before after t (.running es false) with permits := p.permits + 1 }

/-- Any number of steps. -/
inductive Run : Pool → Pool → Prop
  | done {p} : Run p p
  | next {p q r} : Run p q → Step q r → Run p r

/-- The pools that some tasks may come to on the workers that they are given. -/
def Reachable (maxWorkers : Option Nat) (tasks : List SinkTask) (interrupted : Bool)
    (p : Pool) : Prop :=
  Run (initial (workerCount maxWorkers tasks.length) tasks interrupted) p

end Pool

end Stageflow
