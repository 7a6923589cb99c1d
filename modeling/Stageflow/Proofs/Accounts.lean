import Stageflow.Proofs.Ledgers
import Stageflow.Proofs.Workers

/-!
# What tasks have done

Tasks for different stages, each of which does nothing but to its own stage. Workers may mix their
events in any way, but what is about one stage is what its task does, in its order:

* `Step.accounted`: what a task has done, and what it has left to do, are its events;
* `Reachable.completed_agree`: two waits that completed have seen the same, stage by stage.
-/

namespace Stageflow

/-- Tasks for different stages, each of which only does what is about its own stage. -/
structure Apart (tasks : List SinkTask) : Prop where
  distinct : (tasks.map (·.stage)).Nodup
  own : ∀ t ∈ tasks, ∀ e ∈ t.events, e.stage = t.stage

/-- The task for a stage is the only one. -/
theorem Apart.filter_stage {tasks : List SinkTask} {t : SinkTask} (apart : Apart tasks)
    (ht : t ∈ tasks) : tasks.filter (·.stage = t.stage) = [t] := by
  obtain ⟨before, after, split, others⟩ := exists_split_of_nodup apart.distinct ht
  have front : before.filter (·.stage = t.stage) = [] :=
    List.filter_eq_nil_iff.mpr fun u hu => by simpa using others u (by simp [hu])
  have back : after.filter (·.stage = t.stage) = [] :=
    List.filter_eq_nil_iff.mpr fun u hu => by simpa using others u (by simp [hu])
  rw [split, List.filter_append, List.filter_cons_of_pos (by simp), front, back, List.nil_append]

/-- What a task has left to do. -/
def Progress.left (t : SinkTask) : Progress → List Event
  | waiting => t.events
  | running es _ => es
  | ended | observed => []

namespace Pool

variable {p q : Pool} {tasks : List SinkTask} {maxWorkers : Option Nat} {interrupted : Bool}

/-- The tasks, with what each of them has left to do. -/
def remaining (p : Pool) : List (SinkTask × List Event) := p.tasks.map fun x => (x.1, x.2.left x.1)

theorem remaining_map (p : Pool) : p.remaining.map (·.1) = p.tasks.map (·.1) := by
  simp [remaining, Function.comp_def]

/-- A step lets one task do its next event, or nothing is done. -/
theorem Step.remaining (h : Step p q) :
    (q.events = p.events ∧ q.remaining = p.remaining) ∨
      ∃ before t e es after, q.events = p.events ++ [e] ∧
        p.remaining = before ++ (t, e :: es) :: after ∧
        q.remaining = before ++ (t, es) :: after := by
  cases h with
  | @act before after t e es holds shape =>
    refine .inr ⟨before.map fun x => (x.1, x.2.left x.1), t, e, es,
      after.map fun x => (x.1, x.2.left x.1), rfl, ?_, ?_⟩
    · simp [Pool.remaining, shape, Progress.left]
    · simp [Pool.remaining, withTask, Progress.left]
  | take shape free | finish shape | observe shape looked well pending | release shape late =>
    refine .inl ⟨rfl, ?_⟩
    simp [Pool.remaining, withTask, shape, Progress.left]
  | interrupt | abandon asked nonempty pending again | look calm pending | rest looked pending =>
    exact .inl ⟨rfl, rfl⟩
  | report shape looked ill pending | complete none_left looked pending => exact .inl ⟨rfl, rfl⟩

/-- What was done is about the stages of tasks, and is what these have not left to do. -/
structure Accounted (p : Pool) : Prop where
  each : ∀ x ∈ p.remaining, p.events.filter (·.stage = x.1.stage) ++ x.2 = x.1.events
  staged : ∀ e ∈ p.events, ∃ t ∈ p.tasks.map (·.1), e.stage = t.stage

theorem Accounted.mem_task {e : Event} (acc : Accounted p) (he : e ∈ p.events) :
    ∃ t ∈ p.tasks.map (·.1), e.stage = t.stage ∧ e ∈ t.events := by
  obtain ⟨t, listed, about⟩ := acc.staged e he
  have shown : t ∈ p.remaining.map (·.1) := remaining_map p ▸ listed
  obtain ⟨x, hx, rfl⟩ := List.mem_map.mp shown
  refine ⟨x.1, listed, about, ?_⟩
  rw [← acc.each x hx]
  exact List.mem_append_left _ (List.mem_filter.mpr ⟨he, by simpa using about⟩)

theorem Step.accounted (h : Step p q) (apart : Apart (p.tasks.map (·.1))) (acc : Accounted p) :
    Accounted q := by
  obtain ⟨each, staged⟩ := acc
  rcases h.remaining with ⟨same, same'⟩ | ⟨before, t, e, es, after, next, shape, shape'⟩
  · constructor
    · rwa [same, same']
    · rwa [same, h.tasks_map]
  · have done := each (t, e :: es) (by simp [shape])
    have listed : t ∈ p.tasks.map (·.1) := by
      rw [← remaining_map, shape]
      simp
    have about : e.stage = t.stage := by
      refine apart.own t listed e ?_
      rw [← done]
      simp
    -- No other task is for this stage, so the event counts for one task only.
    have fresh : t.stage ∉ (before ++ after).map (·.1.stage) := by
      have distinct := apart.distinct
      rw [← remaining_map, shape, List.map_map, List.map_append, List.map_cons,
        List.nodup_middle] at distinct
      rw [List.map_append]
      exact (List.nodup_cons.mp distinct).1
    have other : ∀ x ∈ before ++ after, e.stage ≠ x.1.stage := by
      intro x hx same
      exact fresh (List.mem_map.mpr ⟨x, hx, same.symm.trans about⟩)
    rw [shape] at each
    constructor
    · intro x hx
      rw [shape', List.mem_append, List.mem_cons] at hx
      rw [next, List.filter_append]
      by_cases here : x = (t, es)
      · subst here
        simpa [about] using done
      · have away : x ∈ before ++ after := by grind
        have old := each x (by grind)
        simpa [other x away] using old
    · intro a ha
      rw [next, List.mem_append, List.mem_singleton] at ha
      rw [h.tasks_map]
      rcases ha with earlier | rfl
      · exact staged a earlier
      · exact ⟨t, listed, about⟩

theorem accounted_initial {workers : Nat} : Accounted (initial workers tasks interrupted) where
  each := by simp [initial, remaining, Progress.left]
  staged := fun _ impossible => nomatch impossible

theorem Reachable.accounted (h : Reachable maxWorkers tasks interrupted p) (apart : Apart tasks) :
    Accounted p := by
  induction h with
  | done => exact accounted_initial
  | next run step ih =>
    have tasks_eq := (Reachable.inv run).tasks
    exact step.accounted (tasks_eq ▸ apart) ih

/-- When a wait completes, what is about the stage of a task is all that the task does. -/
theorem Reachable.completed_events {n : Nat} {t : SinkTask}
    (h : Reachable maxWorkers tasks interrupted p) (apart : Apart tasks)
    (ended : p.verdict = some (.ok (.completed n))) (ht : t ∈ tasks) :
    p.events.filter (·.stage = t.stage) = t.events := by
  obtain ⟨-, -, tasks_eq, observed⟩ := h.inv.completed ended
  rw [← tasks_eq, List.mem_map] at ht
  obtain ⟨⟨t, s⟩, hx, rfl⟩ := ht
  have nothing : s.left t = [] := by
    have here : s.isObserved := (observed (t, s) hx).1
    cases s with
    | observed => rfl
    | _ => simp [Progress.isObserved] at here
  have done := (h.accounted apart).each (t, s.left t) (List.mem_map.mpr ⟨(t, s), hx, rfl⟩)
  rwa [nothing, List.append_nil] at done

/-- Two waits for the same tasks that completed have seen the same of every stage. -/
theorem Reachable.completed_agree {maxWorkers' : Option Nat} {interrupted' : Bool} {n n' : Nat}
    (h : Reachable maxWorkers tasks interrupted p) (h' : Reachable maxWorkers' tasks interrupted' q)
    (apart : Apart tasks) (ended : p.verdict = some (.ok (.completed n)))
    (ended' : q.verdict = some (.ok (.completed n'))) (stage : Name) :
    p.events.filter (·.stage = stage) = q.events.filter (·.stage = stage) := by
  by_cases listed : ∃ t ∈ tasks, t.stage = stage
  · obtain ⟨t, ht, rfl⟩ := listed
    rw [h.completed_events apart ended ht, h'.completed_events apart ended' ht]
  · have none {maxWorkers : Option Nat} {interrupted : Bool} {p : Pool}
        (h : Reachable maxWorkers tasks interrupted p) :
        p.events.filter (·.stage = stage) = [] := by
      refine List.filter_eq_nil_iff.mpr fun e he => ?_
      obtain ⟨t, ht, about⟩ := (h.accounted apart).staged e he
      rw [h.inv.tasks] at ht
      intro same
      exact listed ⟨t, ht, about.symm.trans (by simpa using same)⟩
    rw [none h, none h']

end Pool

end Stageflow
