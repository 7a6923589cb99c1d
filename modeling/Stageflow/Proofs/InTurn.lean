import Stageflow.Proofs.Steps
import Stageflow.Sink.Pool

/-!
# Tasks in turn

`execute` runs sink tasks one after the other and observes each of them before the next. This is one
of the ways in which workers may go about them, whatever their number: `execute_reachable`.
-/

namespace Stageflow

theorem executeFrom_cons {total completed : Nat} {t : SinkTask} {ts : List SinkTask} :
    executeFrom total (t :: ts) completed =
      ⟨t.events, .ok ()⟩ >>= fun _ =>
        if t.interrupts then pure (.interrupted (total - completed))
        else
          match t.error? with
          | some e => .fail e
          | none => executeFrom total ts (completed + 1) := rfl

namespace Pool

variable {p q r : Pool}

theorem Run.trans (first : Run p q) (second : Run q r) : Run p r := by
  induction second with
  | done => exact first
  | next _ step ih => exact .next ih step

theorem Step.run (h : Step p q) : Run p q := .next .done h

/-- A pool between two tasks: those before were observed, and nobody has asked for anything. -/
def between (permits : Nat) (observed waiting : List SinkTask) (started : List Nat)
    (events : List Event) : Pool :=
  ⟨observed.map (·, .observed) ++ waiting.map (·, .waiting), permits, started, false, false,
    observed.length, events, none⟩

/-- A pool that is at one of its tasks. -/
def within (permits : Nat) (observed : List SinkTask) (t : SinkTask) (s : Progress)
    (waiting : List SinkTask) (started : List Nat) (interrupted : Bool) (events : List Event) :
    Pool :=
  ⟨observed.map (·, .observed) ++ (t, s) :: waiting.map (·, .waiting), permits, started,
    interrupted, false, observed.length, events, none⟩

variable {permits : Nat}

theorem run_events (observed : List SinkTask) (t : SinkTask) (waiting : List SinkTask)
    (started : List Nat) (events es : List Event) :
    Run (within permits observed t (.running es true) waiting started false events)
      (within permits observed t (.running [] true) waiting started false (events ++ es)) := by
  induction es generalizing events with
  | nil => simpa using .done
  | cons e es ih =>
    have acted : Step (within permits observed t (.running (e :: es) true) waiting started false
        events) (within permits observed t (.running es true) waiting started false
        (events ++ [e])) := .act rfl
    have rest := acted.run.trans (ih (events ++ [e]))
    simpa using rest

/-- A task that waits is run to its end. -/
theorem run_task (free : 0 < permits) (observed : List SinkTask) (t : SinkTask)
    (waiting : List SinkTask) (started : List Nat) (events : List Event) :
    Run (between permits observed (t :: waiting) started events)
      (within permits observed t .ended waiting (started ++ [observed.length]) t.interrupts
        (events ++ t.events)) := by
  have taken : Step (between permits observed (t :: waiting) started events)
      (within (permits - 1) observed t (.running t.events true) waiting
        (started ++ [observed.length]) false events) := by
    have step := Step.take (p := between permits observed (t :: waiting) started events) rfl free
    simpa [between, within, withTask] using step
  have finished : Step
      (within (permits - 1) observed t (.running [] true) waiting (started ++ [observed.length])
        false (events ++ t.events))
      (within permits observed t .ended waiting (started ++ [observed.length]) t.interrupts
        (events ++ t.events)) := by
    have step := Step.finish (p := within (permits - 1) observed t (.running [] true) waiting
      (started ++ [observed.length]) false (events ++ t.events)) rfl
    have returned : permits - 1 + 1 = permits := by omega
    simpa [within, withTask, returned] using step
  exact (taken.run.trans (run_events observed t waiting _ events t.events)).trans finished.run

/-- A task that succeeds is run to its end and observed. -/
theorem run_success (free : 0 < permits) (observed : List SinkTask) (t : SinkTask)
    (waiting : List SinkTask) (started : List Nat) (events : List Event)
    (calm : t.interrupts = false) (well : t.error? = none) :
    Run (between permits observed (t :: waiting) started events)
      (between permits (observed ++ [t]) waiting (started ++ [observed.length])
        (events ++ t.events)) := by
  have ended := run_task free observed t waiting started events
  rw [calm] at ended
  have looked := Step.look (p := within permits observed t .ended waiting
    (started ++ [observed.length]) false (events ++ t.events)) rfl rfl
  have noticed := Step.observe (p := { within permits observed t .ended waiting
    (started ++ [observed.length]) false (events ++ t.events) with looked := true })
    rfl rfl well rfl
  have counted := (ended.trans looked.run).trans noticed.run
  simpa [between, within, withTask] using counted

theorem run_inTurn (free : 0 < permits) (observed waiting : List SinkTask) (started : List Nat)
    (events : List Event) :
    ∃ p, Run (between permits observed waiting started events) p ∧
      p.verdict = some
        (executeFrom (observed.length + waiting.length) waiting observed.length).result ∧
      p.events = events ++
        (executeFrom (observed.length + waiting.length) waiting observed.length).events := by
  -- A success leaves the pool between two tasks again, with one more observed and one less waiting.
  induction waiting generalizing observed started events with
  | nil =>
    have looked := Step.look (p := between permits observed [] started events) rfl rfl
    have completed := Step.complete
      (p := { between permits observed [] started events with looked := true })
      (by simp [between, Progress.isObserved]) (.inl rfl) rfl
    exact ⟨_, looked.run.trans completed.run, rfl, by simp [conclude, between, executeFrom, pure]⟩
  | cons t waiting ih =>
    rw [executeFrom_cons]
    have ended := run_task free observed t waiting started events
    cases asks : t.interrupts with
    | true =>
      rw [asks] at ended
      have abandoned := Step.abandon (p := within permits observed t .ended waiting
        (started ++ [observed.length]) true (events ++ t.events)) rfl (by simp [within]) rfl rfl
      refine ⟨_, ended.trans abandoned.run, ?_, ?_⟩
      · simp [conclude, within, bind, pure]
      · simp [conclude, within, bind, pure]
    | false =>
      cases failure : t.error? with
      | some e =>
        rw [asks] at ended
        have looked := Step.look (p := within permits observed t .ended waiting
          (started ++ [observed.length]) false (events ++ t.events)) rfl rfl
        have reported := Step.report (p := { within permits observed t .ended waiting
          (started ++ [observed.length]) false (events ++ t.events) with looked := true })
          rfl rfl failure rfl
        refine ⟨_, (ended.trans looked.run).trans reported.run, ?_, ?_⟩
        · simp [conclude, bind, Journaled.fail]
        · simp [conclude, within, bind, Journaled.fail]
      | none =>
        have counted := run_success free observed t waiting started events asks failure
        obtain ⟨p, rest, verdict, did⟩ := ih (observed ++ [t]) (started ++ [observed.length])
          (events ++ t.events)
        have length : (observed ++ [t]).length + waiting.length =
            observed.length + (t :: waiting).length := by simp; omega
        rw [length, List.length_append, List.length_singleton] at verdict did
        refine ⟨p, counted.trans rest, ?_, ?_⟩
        · simp [verdict, bind]
        · simp [did, bind]

/-- Running the tasks one by one is one of the ways in which workers may go about them. -/
theorem execute_reachable (maxWorkers : Option Nat) (tasks : List SinkTask) (interrupted : Bool) :
    ∃ p, Reachable maxWorkers tasks interrupted p ∧
      p.verdict = some (execute tasks interrupted).result ∧
      p.events = (execute tasks interrupted).events := by
  by_cases asked : interrupted ∧ !tasks.isEmpty
  · obtain ⟨rfl, nonempty⟩ := asked
    have abandoned := Step.abandon
      (p := initial (workerCount maxWorkers tasks.length) tasks true) rfl
      (by simpa [initial] using nonempty) rfl rfl
    refine ⟨_, abandoned.run, ?_, ?_⟩
    · simp [conclude, initial, execute, nonempty, pure]
    · simp [conclude, initial, execute, nonempty, pure]
  · rw [execute, if_neg asked]
    cases tasks with
    | nil =>
      have completed := Step.complete
        (p := initial (workerCount maxWorkers ([] : List SinkTask).length) [] interrupted)
        (by simp [initial]) (.inr rfl) rfl
      exact ⟨_, completed.run, rfl, rfl⟩
    | cons t ts =>
      obtain rfl : interrupted = false := by simpa using asked
      have free : 0 < workerCount maxWorkers (t :: ts).length := one_le_workerCount
      obtain ⟨p, run, verdict, did⟩ := run_inTurn free [] (t :: ts) [] []
      exact ⟨p, run, by simpa using verdict, by simpa using did⟩

end Pool

end Stageflow
