import Mathlib.Data.List.Nodup
import Stageflow.Proofs.InTurn

/-!
# Workers and the wait

What holds of sink tasks on their workers, whatever the order in which the tasks start and end, and
whenever an interruption is asked for:

* `Step.tasks`: a step lets one task go on, or none;
* `Step.inv`, `Run.inv`: the invariant of a run, which every step keeps;
* `reachable_sound`: the number of tasks that run, and what each verdict of the wait tells.
-/

namespace Stageflow

namespace Pool

variable {p q r : Pool}

/-! ## What a step does to the tasks -/

/-- One task of a pool may go on from one progress to the next. -/
inductive Advance (p : Pool) (t : SinkTask) : Progress → Progress → Prop
  | take : Advance p t .waiting (.running t.events true)
  | act {e es holds} : Advance p t (.running (e :: es) holds) (.running es holds)
  | finish {holds} : Advance p t (.running [] holds) .ended
  | observe (well : t.error? = none) (pending : p.verdict = none) : Advance p t .ended .observed
  | release {es} (late : p.verdict ≠ none) :
      Advance p t (.running es true) (.running es false)

/-- A step lets one task go on, or none. -/
theorem Step.tasks (h : Step p q) :
    q.tasks = p.tasks ∨ ∃ before t s s' after, Advance p t s s' ∧
      p.tasks = before ++ (t, s) :: after ∧ q.tasks = before ++ (t, s') :: after := by
  cases h with
  | take shape free => exact .inr ⟨_, _, _, _, _, .take, shape, rfl⟩
  | act shape => exact .inr ⟨_, _, _, _, _, .act, shape, rfl⟩
  | finish shape => exact .inr ⟨_, _, _, _, _, .finish, shape, rfl⟩
  | observe shape looked well pending =>
    exact .inr ⟨_, _, _, _, _, .observe well pending, shape, rfl⟩
  | release shape late => exact .inr ⟨_, _, _, _, _, .release late, shape, rfl⟩
  | interrupt | abandon asked nonempty pending again | look calm pending | rest looked pending =>
    exact .inl rfl
  | report shape looked ill pending | complete none_left looked pending => exact .inl rfl

theorem Step.tasks_map (h : Step p q) : q.tasks.map (·.1) = p.tasks.map (·.1) := by
  rcases h.tasks with same | ⟨before, t, s, s', after, -, shape, shape'⟩
  · rw [same]
  · simp [shape, shape']

theorem Step.forall_tasks {P : SinkTask → Progress → Prop} (h : Step p q)
    (all : ∀ x ∈ p.tasks, P x.1 x.2) (next : ∀ t s s', Advance p t s s' → P t s → P t s') :
    ∀ x ∈ q.tasks, P x.1 x.2 := by
  rcases h.tasks with same | ⟨before, t, s, s', after, advance, shape, shape'⟩
  · rwa [same]
  · rw [shape] at all
    rw [shape']
    have here : P t s' := next t s s' advance (all (t, s) (by simp))
    intro x hx
    rcases List.mem_append.mp hx with hb | hx
    · exact all x (by simp [hb])
    · rcases List.mem_cons.mp hx with rfl | ha
      · exact here
      · exact all x (by simp [ha])

theorem Step.keeps (h : Step p q) {x : SinkTask × Progress} (hx : x ∈ p.tasks)
    (stuck : ∀ s', ¬ Advance p x.1 x.2 s') : x ∈ q.tasks := by
  rcases h.tasks with same | ⟨before, t, s, s', after, advance, shape, shape'⟩
  · rwa [same]
  · have other : x ≠ (t, s) := by
      rintro rfl
      exact stuck s' advance
    rw [shape] at hx
    rw [shape']
    simp only [List.mem_append, List.mem_cons, other, false_or] at hx ⊢
    exact hx.imp_right .inr

/-! ## Permits -/

/-- A permit is free, or one task holds it. -/
theorem Step.permits (h : Step p q) :
    q.permits + q.count Progress.holdsPermit = p.permits + p.count Progress.holdsPermit := by
  cases h with
  | take shape free =>
    simp [count, withTask, shape, Progress.holdsPermit]
    omega
  | @finish _ _ _ holds shape =>
    cases holds <;> simp [count, withTask, shape, Progress.holdsPermit]
    omega
  | release shape late =>
    simp [count, withTask, shape, Progress.holdsPermit]
    omega
  | act shape => simp [count, withTask, shape, Progress.holdsPermit, List.countP_cons]
  | observe shape looked well pending => simp [count, withTask, shape, Progress.holdsPermit]
  | interrupt | abandon asked nonempty pending again | look calm pending | rest looked pending =>
    rfl
  | report shape looked ill pending | complete none_left looked pending => rfl

theorem Step.verdict {v : Except FlowError Outcome} (h : Step p q) (found : p.verdict = some v) :
    q.verdict = some v := by
  cases h <;> simp_all [withTask]

theorem Step.pending (h : Step p q) (pending : q.verdict = none) : p.verdict = none := by
  cases found : p.verdict with
  | none => rfl
  | some v =>
    have := h.verdict found
    simp [pending] at this

/-- As long as the wait goes on, a task that runs holds a permit. -/
def Held (p : Pool) : Prop :=
  p.verdict = none → ∀ x ∈ p.tasks, x.2.isRunning → x.2.holdsPermit

theorem Step.held (h : Step p q) (held : Held p) : Held q := by
  intro pending
  have before := h.pending pending
  refine h.forall_tasks (P := fun _ s => s.isRunning → s.holdsPermit) (held before) ?_
  intro t s s' advance
  -- Only a release takes the permit of a task that runs, and that needs a verdict.
  cases advance with
  | take => exact fun _ _ => rfl
  | act => exact id
  | finish => exact fun _ impossible => nomatch impossible
  | observe => exact fun _ impossible => nomatch impossible
  | release late => exact absurd before late

/-! ## Starts -/

/-- Which tasks do not wait any more. -/
def startedFlags (p : Pool) : List Bool := p.tasks.map fun x => !x.2.isWaiting

/-- The starts are those of the tasks that do not wait any more, each once. -/
structure StartedOnce (p : Pool) : Prop where
  nodup : p.started.Nodup
  mem_iff : ∀ i, i ∈ p.started ↔ p.startedFlags[i]? = some true

theorem StartedOnce.take {before after : List (SinkTask × Progress)} {t : SinkTask}
    {s : Progress} (once : StartedOnce p) (shape : p.tasks = before ++ (t, .waiting) :: after)
    (shape' : q.tasks = before ++ (t, s) :: after) (starts : s.isWaiting = false)
    (noted : q.started = p.started ++ [before.length]) : StartedOnce q := by
  -- The place of a task that waits is not among the starts.
  have fresh : before.length ∉ p.started := by
    rw [once.mem_iff, startedFlags, shape]
    simp [Progress.isWaiting]
  constructor
  · rw [noted, List.nodup_append]
    refine ⟨once.nodup, List.nodup_singleton _, fun i hi j hj => ?_⟩
    rintro rfl
    exact fresh (List.mem_singleton.mp hj ▸ hi)
  · intro i
    rw [noted, List.mem_append, List.mem_singleton, once.mem_iff, startedFlags, startedFlags,
      shape, shape']
    simp only [List.map_append, List.map_cons, List.getElem?_append, List.length_map]
    grind

theorem Step.startedOnce (h : Step p q) (once : StartedOnce p) : StartedOnce q := by
  have unchanged (started : q.started = p.started) (flags : q.startedFlags = p.startedFlags) :
      StartedOnce q := by
    constructor
    · exact started ▸ once.nodup
    · exact fun i => by rw [started, flags, once.mem_iff]
  cases h with
  | take shape free => exact once.take shape rfl rfl rfl
  | act shape | finish shape | release shape late | observe shape looked well pending =>
    refine unchanged rfl ?_
    simp [startedFlags, withTask, shape, Progress.isWaiting]
  | interrupt | abandon asked nonempty pending again | look calm pending | rest looked pending =>
    exact unchanged rfl rfl
  | report shape looked ill pending | complete none_left looked pending =>
    exact unchanged rfl rfl

/-! ## What the wait has counted -/

theorem Step.counted (h : Step p q) (counted : p.completed = p.count Progress.isObserved) :
    q.completed = q.count Progress.isObserved := by
  cases h with
  | observe shape looked well pending =>
    simp [count, shape, Progress.isObserved] at counted
    simp [count, withTask, Progress.isObserved, counted]
    omega
  | take shape free | act shape | finish shape | release shape late =>
    simp [count, shape, Progress.isObserved] at counted
    simp [count, withTask, Progress.isObserved, counted]
  | interrupt | abandon asked nonempty pending again | look calm pending | rest looked pending =>
    exact counted
  | report shape looked ill pending | complete none_left looked pending => exact counted

/-- The wait has counted tasks that ended well. -/
def WellObserved (p : Pool) : Prop := ∀ x ∈ p.tasks, x.2.isObserved → x.1.error? = none

theorem Step.wellObserved (h : Step p q) (well : WellObserved p) : WellObserved q := by
  refine h.forall_tasks (P := fun t s => s.isObserved → t.error? = none) well ?_
  intro t s s' advance
  cases advance with
  | take | act | finish | release => exact fun _ impossible => nomatch impossible
  | observe well => exact fun _ _ => well

/-! ## Verdicts -/

/-- What a verdict tells about the tasks. -/
def Justified (p : Pool) : Except FlowError Outcome → Prop
  | .ok (.completed n) => n = p.tasks.length ∧ ∀ x ∈ p.tasks, x.2.isObserved
  | .ok (.interrupted n) =>
    p.tasks ≠ [] ∧ p.interrupted = true ∧ n = p.tasks.length - p.completed
  | .error e => ∃ t, (t, .ended) ∈ p.tasks ∧ t.error? = some e

theorem Step.length_tasks (h : Step p q) : q.tasks.length = p.tasks.length := by
  simpa using congrArg List.length h.tasks_map

theorem Step.interrupted (h : Step p q) (asked : p.interrupted = true) : q.interrupted = true := by
  cases h <;> simp [withTask, conclude, asked]

theorem Step.completed_eq (h : Step p q) (late : p.verdict ≠ none) : q.completed = p.completed := by
  cases h with
  | observe shape looked well pending => exact absurd pending late
  | _ => rfl

/-- A verdict stays justified, whatever the tasks go on to do. -/
theorem Step.justified {v : Except FlowError Outcome} (h : Step p q) (found : p.verdict = some v)
    (justified : Justified p v) : Justified q v := by
  have late : p.verdict ≠ none := by simp [found]
  match v, justified with
  | .ok (.completed n), ⟨all, observed⟩ =>
    refine ⟨all.trans h.length_tasks.symm, ?_⟩
    refine h.forall_tasks (P := fun _ s => s.isObserved) observed ?_
    intro t s s' advance
    cases advance with
    | take | act | finish | release => exact fun impossible => nomatch impossible
    | observe => exact fun _ => rfl
  | .ok (.interrupted n), ⟨nonempty, asked, pending⟩ =>
    refine ⟨?_, h.interrupted asked, ?_⟩
    · rw [← List.length_pos_iff, h.length_tasks]
      exact List.length_pos_iff.mpr nonempty
    · rw [h.length_tasks, h.completed_eq late]
      exact pending
  | .error e, ⟨t, ended, ill⟩ =>
    refine ⟨t, h.keeps ended fun s' advance => ?_, ill⟩
    cases advance with
    | observe well pending => exact late pending

theorem Step.concluded {v : Except FlowError Outcome} (h : Step p q) (pending : p.verdict = none)
    (found : q.verdict = some v) (counted : p.completed = p.count Progress.isObserved) :
    Justified q v := by
  -- Three kinds of steps give a verdict; each of them has checked what the verdict tells.
  cases h with
  | abandon asked nonempty _ again =>
    obtain rfl := Option.some.inj found
    exact ⟨nonempty, asked, rfl⟩
  | report shape looked ill _ =>
    obtain rfl := Option.some.inj found
    exact ⟨_, by simp [conclude, shape], ill⟩
  | complete none_left looked _ =>
    obtain rfl := Option.some.inj found
    have all : p.count Progress.isObserved = p.tasks.length := List.countP_eq_length.mpr none_left
    exact ⟨counted.trans all, none_left⟩
  | _ => simp [withTask, pending] at found

/-! ## The invariant of a run -/

/-- What holds of some tasks on some workers after any number of steps. -/
structure Inv (workers : Nat) (tasks : List SinkTask) (p : Pool) : Prop where
  tasks : p.tasks.map (·.1) = tasks
  permits : p.permits + p.count Progress.holdsPermit = workers
  held : Held p
  startedOnce : StartedOnce p
  counted : p.completed = p.count Progress.isObserved
  wellObserved : WellObserved p
  justified : ∀ v, p.verdict = some v → Justified p v

theorem inv_initial (workers : Nat) (tasks : List SinkTask) (interrupted : Bool) :
    Inv workers tasks (initial workers tasks interrupted) where
  tasks := by simp [initial, Function.comp_def]
  permits := by simp [initial, count, Progress.holdsPermit]
  held := by simp [Held, initial, Progress.isRunning]
  startedOnce := ⟨.nil, by simp [initial, startedFlags, Progress.isWaiting, List.getElem?_map]⟩
  counted := by simp [initial, count, Function.comp_def, Progress.isObserved]
  wellObserved := by simp [WellObserved, initial, Progress.isObserved]
  justified := fun _ impossible => nomatch impossible

theorem Step.inv {workers : Nat} {tasks : List SinkTask} (h : Step p q)
    (inv : Inv workers tasks p) : Inv workers tasks q where
  tasks := h.tasks_map.trans inv.tasks
  permits := h.permits.trans inv.permits
  held := h.held inv.held
  startedOnce := h.startedOnce inv.startedOnce
  counted := h.counted inv.counted
  wellObserved := h.wellObserved inv.wellObserved
  justified := by
    intro v found
    cases before : p.verdict with
    | none => exact h.concluded before found inv.counted
    | some u =>
      have same : q.verdict = some u := h.verdict before
      obtain rfl := Option.some.inj (same.symm.trans found)
      exact h.justified before (inv.justified u before)

theorem Run.inv {workers : Nat} {tasks : List SinkTask} (h : Run p q) (inv : Inv workers tasks p) :
    Inv workers tasks q := by
  induction h with
  | done => exact inv
  | next _ step ih => exact step.inv ih

namespace Inv

variable {workers : Nat} {tasks : List SinkTask}

theorem length_tasks (h : Inv workers tasks p) : p.tasks.length = tasks.length := by
  simpa using congrArg List.length h.tasks

theorem running_le (h : Inv workers tasks p) (pending : p.verdict = none) :
    p.running ≤ workers := by
  have held : p.running ≤ p.count Progress.holdsPermit := List.countP_mono_left (h.held pending)
  have := h.permits
  omega

theorem completed_le (h : Inv workers tasks p) : p.completed ≤ tasks.length := by
  rw [h.counted, ← h.length_tasks]
  exact List.countP_le_length

theorem lt_of_started (h : Inv workers tasks p) {i : Nat} (hi : i ∈ p.started) :
    i < tasks.length := by
  obtain ⟨inside, -⟩ := List.getElem?_eq_some_iff.mp ((h.startedOnce.mem_iff i).mp hi)
  simpa [startedFlags, h.length_tasks] using inside

theorem mem_of_mem_tasks (h : Inv workers tasks p) {t : SinkTask} {s : Progress}
    (ht : (t, s) ∈ p.tasks) : t ∈ tasks := by
  rw [← h.tasks]
  exact List.mem_map.mpr ⟨(t, s), ht, rfl⟩

theorem started_perm_range (h : Inv workers tasks p) (observed : ∀ x ∈ p.tasks, x.2.isObserved) :
    p.started.Perm (List.range tasks.length) := by
  refine (List.perm_ext_iff_of_nodup h.startedOnce.nodup List.nodup_range).mpr fun i => ?_
  rw [List.mem_range]
  refine ⟨h.lt_of_started, fun inside => (h.startedOnce.mem_iff i).mpr ?_⟩
  rw [← h.length_tasks] at inside
  have here := observed p.tasks[i] (List.getElem_mem inside)
  rw [startedFlags, List.getElem?_map, List.getElem?_eq_getElem inside]
  cases found : p.tasks[i].2 <;> simp_all [Progress.isObserved, Progress.isWaiting]

end Inv

theorem Reachable.inv {maxWorkers : Option Nat} {tasks : List SinkTask} {interrupted : Bool}
    (h : Reachable maxWorkers tasks interrupted p) :
    Inv (workerCount maxWorkers tasks.length) tasks p :=
  Run.inv h (inv_initial _ tasks interrupted)

/-! ## Errors of tasks -/

theorem error?_eq_none {t : SinkTask} : t.error? = none ↔ t.ending = .done := by
  cases ending : t.ending <;> simp [SinkTask.error?, ending]

theorem error?_sinkFailed {t : SinkTask} {stage : Name} {f : Failure}
    (h : t.error? = some (.sinkFailed stage f)) : t.stage = stage ∧ t.ending = .failed f := by
  cases ending : t.ending <;> simp_all [SinkTask.error?]

theorem error?_sinkPanicked {t : SinkTask} {stage : Name} {m : String}
    (h : t.error? = some (.sinkPanicked stage m)) : t.stage = stage ∧ t.ending = .panicked m := by
  cases ending : t.ending <;> simp_all [SinkTask.error?]

theorem error?_kind {t : SinkTask} {e : FlowError} (h : t.error? = some e) :
    (∃ stage f, e = .sinkFailed stage f) ∨ ∃ stage m, e = .sinkPanicked stage m := by
  unfold SinkTask.error? at h
  split at h
  · cases h
  · exact .inl ⟨_, _, (Option.some.inj h).symm⟩
  · exact .inr ⟨_, _, (Option.some.inj h).symm⟩

/-! ## Interruptions before the wait -/

/-- The wait has counted nothing, and it is not between a look and what it finds then. -/
def BeforeWait (p : Pool) : Prop := p.looked = false ∧ p.completed = 0 ∧ p.verdict = none

/-- The wait can only find that it is interrupted. -/
structure Abandoned (total : Nat) (p : Pool) : Prop where
  length : p.tasks.length = total
  asked : p.interrupted = true
  again : p.looked = false
  completed : p.completed = 0
  verdict : ∀ v, p.verdict = some v → v = .ok (.interrupted total)

theorem Step.abandoned {total : Nat} (h : Step p q) (nonempty : 0 < total)
    (abandoned : Abandoned total p) : Abandoned total q := by
  obtain ⟨length, asked, again, completed, verdict⟩ := abandoned
  have length' : q.tasks.length = total := h.length_tasks.trans length
  have asked' : q.interrupted = true := h.interrupted asked
  -- To observe a task the wait would have to look first, and find no interruption.
  cases h with
  | abandon =>
    refine ⟨length', asked', again, completed, fun v found => ?_⟩
    obtain rfl := Option.some.inj found
    simp [length, completed]
  | look calm => simp [asked] at calm
  | rest looked | observe _ looked | report _ looked => simp [again] at looked
  | complete _ looked =>
    rcases looked with looked | empty
    · simp [again] at looked
    · simp [← length, empty] at nonempty
  | take | act | finish | interrupt | release =>
    exact ⟨length', asked', again, completed, verdict⟩

theorem Run.abandoned {total : Nat} (h : Run p q) (nonempty : 0 < total)
    (abandoned : Abandoned total p) : Abandoned total q := by
  induction h with
  | done => exact abandoned
  | next _ step ih => exact step.abandoned nonempty ih

/-! ## What holds whenever -/

/-- What may be relied on at any moment, for some tasks and a bound on the workers. -/
structure Sound (maxWorkers : Option Nat) (tasks : List SinkTask) (p : Pool) : Prop where
  /-- Until the wait ends, no more tasks run at once than there are workers. -/
  bounded : p.verdict = none → p.running ≤ workerCount maxWorkers tasks.length
  /-- No place of the list is started twice. -/
  started : p.started.Nodup ∧ ∀ i ∈ p.started, i < tasks.length
  /-- The count of the wait is that of the observed tasks; it may be subtracted from the total. -/
  counted : p.completed = p.count Progress.isObserved ∧ p.completed ≤ tasks.length
  /-- If the wait ends well, every task was started and has succeeded. -/
  completed : ∀ n, p.verdict = some (.ok (.completed n)) →
    n = tasks.length ∧ p.started.Perm (List.range tasks.length) ∧
      p.tasks.map (·.1) = tasks ∧ ∀ x ∈ p.tasks, x.2.isObserved ∧ x.1.ending = .done
  /-- The wait is interrupted only if that was asked for; pending is what it has not counted. -/
  interrupted : ∀ n, p.verdict = some (.ok (.interrupted n)) →
    p.interrupted = true ∧ n = tasks.length - p.completed
  /-- A failure that is reported is that of a task which has ended with it. -/
  failed : ∀ stage f, p.verdict = some (.error (.sinkFailed stage f)) →
    ∃ t ∈ tasks, (t, .ended) ∈ p.tasks ∧ t.stage = stage ∧ t.ending = .failed f
  panicked : ∀ stage m, p.verdict = some (.error (.sinkPanicked stage m)) →
    ∃ t ∈ tasks, (t, .ended) ∈ p.tasks ∧ t.stage = stage ∧ t.ending = .panicked m
  /-- No other error is reported. -/
  errors : ∀ e, p.verdict = some (.error e) →
    (∃ stage f, e = .sinkFailed stage f) ∨ ∃ stage m, e = .sinkPanicked stage m
  /-- Without tasks the wait can end at once, and only in one way, interrupted or not. -/
  empty : tasks = [] →
    (p.verdict = none → Step p (p.conclude (.ok (.completed 0)))) ∧
      ∀ v, p.verdict = some v → v = .ok (.completed 0)
  /-- An interruption before the wait begins leaves it one way to end, with all tasks pending. -/
  abandoned : tasks ≠ [] → p.interrupted = true → BeforeWait p →
    Step p (p.conclude (.ok (.interrupted tasks.length))) ∧
      ∀ q v, Run p q → q.verdict = some v → v = .ok (.interrupted tasks.length)

section Sound

variable {workers : Nat} {tasks : List SinkTask}

theorem Inv.completed (inv : Inv workers tasks p) {n : Nat}
    (found : p.verdict = some (.ok (.completed n))) :
    n = tasks.length ∧ p.started.Perm (List.range tasks.length) ∧
      p.tasks.map (·.1) = tasks ∧ ∀ x ∈ p.tasks, x.2.isObserved ∧ x.1.ending = .done := by
  obtain ⟨all, observed⟩ := inv.justified _ found
  refine ⟨all.trans inv.length_tasks, inv.started_perm_range observed, inv.tasks, ?_⟩
  exact fun x hx => ⟨observed x hx, error?_eq_none.mp (inv.wellObserved x hx (observed x hx))⟩

/-- After a wait that has completed, another wait for the same tasks completes or is interrupted. -/
theorem Inv.verdict_of_completed {workers' n : Nat} {v : Except FlowError Outcome}
    (inv : Inv workers tasks p) (inv' : Inv workers' tasks q)
    (found : p.verdict = some (.ok (.completed n))) (found' : q.verdict = some v) :
    v = .ok (.completed n) ∨ ∃ pending, v = .ok (.interrupted pending) := by
  obtain ⟨all, -, same, well⟩ := inv.completed found
  match v, inv'.justified v found' with
  | .ok (.completed n'), ⟨all', _⟩ =>
    left
    rw [all', all, inv'.length_tasks]
  | .ok (.interrupted pending), _ => exact .inr ⟨pending, rfl⟩
  | .error e, ⟨t, ended, ill⟩ =>
    have listed : t ∈ tasks := inv'.mem_of_mem_tasks ended
    rw [← same, List.mem_map] at listed
    obtain ⟨x, hx, rfl⟩ := listed
    have done : x.1.error? = none := error?_eq_none.mpr (well x hx).2
    simp [done] at ill

theorem Inv.empty (inv : Inv workers [] p) :
    (p.verdict = none → Step p (p.conclude (.ok (.completed 0)))) ∧
      ∀ v, p.verdict = some v → v = .ok (.completed 0) := by
  have none_left : p.tasks = [] := List.map_eq_nil_iff.mp inv.tasks
  constructor
  · intro pending
    have nothing : p.completed = 0 := Nat.le_zero.mp inv.completed_le
    have step := Step.complete (p := p) (by simp [none_left]) (.inr none_left) pending
    rwa [nothing] at step
  · intro v found
    match v, inv.justified v found with
    | .ok (.completed n), ⟨all, _⟩ => rw [all, none_left, List.length_nil]
    | .ok (.interrupted n), ⟨nonempty, _⟩ => exact absurd none_left nonempty
    | .error e, ⟨t, ended, _⟩ => simp [none_left] at ended

theorem Inv.abandoned (inv : Inv workers tasks p) (nonempty : tasks ≠ [])
    (asked : p.interrupted = true) (before : BeforeWait p) :
    Step p (p.conclude (.ok (.interrupted tasks.length))) ∧
      ∀ q v, Run p q → q.verdict = some v → v = .ok (.interrupted tasks.length) := by
  obtain ⟨again, nothing, pending⟩ := before
  have positive : 0 < tasks.length := List.length_pos_iff.mpr nonempty
  have length := inv.length_tasks
  constructor
  · have some_task : p.tasks ≠ [] := List.length_pos_iff.mp (length.symm ▸ positive)
    have step := Step.abandon asked some_task pending again
    rwa [length, nothing, Nat.sub_zero] at step
  · intro q v run found
    have bound : Abandoned tasks.length p := by
      refine ⟨length, asked, again, nothing, fun v impossible => ?_⟩
      simp [pending] at impossible
    exact (run.abandoned positive bound).verdict v found

end Sound

/--
**The wait for sink tasks is sound.** The number of workers is between one and the number of tasks
and within its bound. On these workers, in whatever order tasks start and end and whenever an
interruption is asked for, every verdict of the wait tells what has become of the tasks.
-/
theorem reachable_sound (maxWorkers : Option Nat) (tasks : List SinkTask) (interrupted : Bool)
    (p : Pool) (reached : Reachable maxWorkers tasks interrupted p) :
    (1 ≤ workerCount maxWorkers tasks.length ∧
      workerCount maxWorkers tasks.length ≤ max 1 tasks.length ∧
      ∀ m, maxWorkers = some m → workerCount maxWorkers tasks.length ≤ max 1 m ∧
        clamp? 1 (max tasks.length 1) m = some (workerCount maxWorkers tasks.length)) ∧
    Sound maxWorkers tasks p := by
  have inv := reached.inv
  refine ⟨⟨one_le_workerCount, workerCount_le_tasks, ?_⟩, ?_⟩
  · rintro m rfl
    exact ⟨workerCount_le_bound m, clamp?_bound m tasks.length⟩
  · constructor
    case bounded => exact inv.running_le
    case started => exact ⟨inv.startedOnce.nodup, fun _ => inv.lt_of_started⟩
    case counted => exact ⟨inv.counted, inv.completed_le⟩
    case completed => exact fun _ => inv.completed
    case interrupted =>
      intro n found
      obtain ⟨-, asked, pending⟩ := inv.justified _ found
      exact ⟨asked, inv.length_tasks ▸ pending⟩
    case failed =>
      intro stage f found
      obtain ⟨t, ended, ill⟩ := inv.justified _ found
      exact ⟨t, inv.mem_of_mem_tasks ended, ended, error?_sinkFailed ill⟩
    case panicked =>
      intro stage m found
      obtain ⟨t, ended, ill⟩ := inv.justified _ found
      exact ⟨t, inv.mem_of_mem_tasks ended, ended, error?_sinkPanicked ill⟩
    case errors =>
      intro e found
      obtain ⟨t, -, ill⟩ := inv.justified _ found
      exact error?_kind ill
    case empty =>
      rintro rfl
      exact inv.empty
    case abandoned => exact inv.abandoned

/-- A sink that writes a record, and one whose write fails. -/
def writeAndFail : List SinkTask := [.write "a" [.null] none, .write "b" [.null] (some "full")]

/-- On one worker the wait may end with the failure of the second sink. -/
theorem reachable_sound_failure :
    ∃ p, Reachable (some 1) writeAndFail false p ∧
      p.verdict = some (.error (.sinkFailed "b" (.of "full"))) ∧
      Sound (some 1) writeAndFail p := by
  obtain ⟨p, reached, verdict, -⟩ := execute_reachable (some 1) writeAndFail false
  exact ⟨p, reached, verdict, (reachable_sound (some 1) writeAndFail false p reached).2⟩

end Pool

end Stageflow
