import Stageflow.Proofs.Accounts
import Stageflow.Proofs.Coverage
import Stageflow.Proofs.Footprints

/-!
# Writes that are put off

Which tasks a walk leaves. A visit of a sink puts one off, and so does that of a connector with an
input; it carries what the stage reads, by ascending producers:

* `visit_deferred`: what the visits of each kind put off;
* `visitAll_tasks`: the tasks of a walk are those of its visits, in their order;
* `schedule_tasks`: they are for different stages, and do nothing to another's.
-/

namespace Stageflow

@[simp] theorem SinkTask.write_stage {stage : Name} {records : List Json}
    {failure : Option String} : (write stage records failure).stage = stage := by
  cases failure <;> rfl

@[simp] theorem SinkTask.write_records {stage : Name} {records : List Json}
    {failure : Option String} : (write stage records failure).records = records := by
  cases failure <;> rfl

theorem SinkTask.write_own {stage : Name} {records : List Json} {failure : Option String} :
    ∀ e ∈ (write stage records failure).events, e.stage = stage := by
  cases failure <;> simp [write, Event.stage]

theorem Plugins.sinkTask_events {stage : Name} {records : List Json} {plugin : SinkPlugin} :
    ∀ e ∈ (sinkTask stage records plugin).events, ∃ taken, e = .collected stage taken := by
  cases taken : (plugin records).1 <;> simp [sinkTask, taken]

open Journaled

namespace Walk

variable {w : Walk} {s : Stage} {r : Registry} {v : Visited} {o : Option SinkTask} {t : SinkTask}

/-- Whether a visit puts off a write to the store. -/
def stores (w : Walk) (s : Stage) (r : Registry) : Bool :=
  match s.kind with
  | .sink => true
  | .connector => !(gather w.phase s r).isEmpty
  | _ => false

/-- Whether a visit puts off a write, to the store or by a plugin. -/
def defers (w : Walk) (s : Stage) (r : Registry) : Bool := w.stores s r || s.kind == .pluginSink

/-- The records that a stage reads, by ascending producers. -/
def gathered (w : Walk) (s : Stage) (r : Registry) : List Json :=
  (gather w.phase s r).flatMap (·.2.items)

theorem gathered_items {input : Dataset Json}
    (union : Dataset.unionAll ((gather w.phase s r).map (·.2)) = some input) :
    input.items = w.gathered s r := by
  rw [Dataset.unionAll_items union, gathered, List.flatMap_map]

theorem gather_ascending : ((gather w.phase s r).map (·.1)).Pairwise (· < ·) := by
  rw [producers_gather]
  exact (w.phase.inputs_ascending s.name).filter _

/-- What a visit may put off. -/
inductive Deferred (w : Walk) (s : Stage) (r : Registry) : Option SinkTask → Prop
  | nothing (keeps : w.defers s r = false) : Deferred w s r none
  | write (stores : w.stores s r) :
      Deferred w s r
        (some (.write s.name (w.gathered s r) (w.operators.sinkFailures.get? s.name)))
  | plugin (kind : s.kind = .pluginSink) (plugin : SinkPlugin) :
      Deferred w s r (some (Plugins.sinkTask s.name (w.gathered s r) plugin))

namespace Deferred

theorem of_none (kept : o = none) (keeps : w.defers s r = false) : Deferred w s r o := by
  rw [kept]
  exact .nothing keeps

theorem isSome (h : Deferred w s r o) : o.isSome = w.defers s r := by
  cases h with
  | nothing keeps => exact keeps.symm
  | write stores => simp [defers, stores]
  | plugin kind => simp [defers, kind]

theorem stage (h : Deferred w s r (some t)) : t.stage = s.name := by
  cases h with
  | write => exact SinkTask.write_stage
  | plugin => rfl

theorem own (h : Deferred w s r (some t)) : ∀ e ∈ t.events, e.stage = t.stage := by
  rw [h.stage]
  intro e he
  cases h with
  | write => exact SinkTask.write_own e he
  | plugin kind plugin =>
    obtain ⟨taken, rfl⟩ := Plugins.sinkTask_events e he
    rfl

end Deferred

/-! ## What a visit puts off -/

theorem routed_deferred {combined : Dataset Tagged} (ran : (w.routed s combined).result = .ok v) :
    v.deferred = none := by
  obtain ⟨e, -, rfl⟩ := map_ok_iff.mp ran
  rfl

theorem readSource_deferred (ran : (w.readSource s).result = .ok v) :
    v.deferred = none ∧ s.kind ≠ .sink ∧ s.kind ≠ .pluginSink := by
  obtain ⟨u, source, rest⟩ := bind_ok_iff.mp ran
  obtain ⟨combined, -, last⟩ := bind_ok_iff.mp rest
  refine ⟨routed_deferred last, ?_⟩
  rcases checkSource_kind source with boundary | reads
  · simp [boundary]
  · constructor
    · intro kind
      simp [kind, StageKind.sourceKind] at reads
    · intro kind
      simp [kind, StageKind.sourceKind] at reads

theorem transformErrors_deferred (ran : (w.transformErrors s r).result = .ok v) :
    v.deferred = none := by
  obtain ⟨producers, -, rest⟩ := bind_ok_iff.mp ran
  split at rest
  · obtain rfl := Except.ok.inj rest
    rfl
  · obtain ⟨combined, -, last⟩ := bind_ok_iff.mp rest
    exact routed_deferred last

theorem publishAlerts_deferred (ran : (w.publishAlerts s r).result = .ok v) :
    v.deferred = none := by
  obtain ⟨producers, -, rest⟩ := bind_ok_iff.mp ran
  split at rest
  · obtain rfl := Except.ok.inj rest
    rfl
  · obtain ⟨-, -, last⟩ := bind_ok_iff.mp rest
    obtain rfl := Except.ok.inj last
    rfl

theorem joinInputs_deferred {inputs : List (Name × Dataset Json)}
    (ran : (w.joinInputs s inputs).result = .ok v) : v.deferred = none := by
  obtain ⟨joiner, -, rest⟩ := bind_ok_iff.mp ran
  obtain ⟨-, -, rest⟩ := bind_ok_iff.mp rest
  obtain ⟨-, -, rest⟩ := bind_ok_iff.mp rest
  obtain ⟨keyed, -, rest⟩ := bind_ok_iff.mp rest
  obtain ⟨joined, -, last⟩ := bind_ok_iff.mp rest
  obtain rfl := Except.ok.inj last
  rfl

theorem computed_deferred {operator : Operator} {input : Dataset Json}
    {f : List Json → Except Failure (List Json)}
    (ran : (w.computed s operator input f).result = .ok v) : v.deferred = none := by
  obtain ⟨out, -, last⟩ := bind_ok_iff.mp ran
  obtain rfl := Except.ok.inj last
  rfl

theorem store_deferred {input : Dataset Json} (items : input.items = w.gathered s r)
    (stores : w.stores s r) (ran : (w.store s input).result = .ok v) :
    Deferred w s r v.deferred := by
  obtain ⟨-, -, last⟩ := bind_ok_iff.mp ran
  obtain rfl := Except.ok.inj last
  rw [defer, items]
  exact .write stores

theorem storeByPlugin_deferred {input : Dataset Json} (items : input.items = w.gathered s r)
    (kind : s.kind = .pluginSink) (ran : (w.storeByPlugin s input).result = .ok v) :
    Deferred w s r v.deferred := by
  obtain ⟨plugin, -, rest⟩ := bind_ok_iff.mp ran
  obtain ⟨-, -, last⟩ := bind_ok_iff.mp rest
  obtain rfl := Except.ok.inj last
  rw [defer, items]
  exact .plugin kind plugin

theorem visitWith_deferred {input : Dataset Json}
    (some_input : Dataset.unionAll ((gather w.phase s r).map (·.2)) = some input)
    (ran : (w.visitWith s (gather w.phase s r) input).result = .ok v) :
    Deferred w s r v.deferred := by
  have items := gathered_items some_input
  unfold visitWith at ran
  cases kind : s.kind with
  | joiner =>
    rw [kind] at ran
    exact .of_none (joinInputs_deferred ran) (by simp [defers, stores, kind])
  | sink =>
    rw [kind] at ran
    exact store_deferred items (by simp [stores, kind]) ran
  | connector =>
    rw [kind] at ran
    dsimp only at ran
    split at ran
    · have nonempty : gather w.phase s r ≠ [] := by
        intro empty
        simp [empty, Dataset.unionAll] at some_input
      exact store_deferred items (by simp [stores, kind, nonempty]) ran
    · cases ran
  | pluginSink =>
    rw [kind] at ran
    exact storeByPlugin_deferred items kind ran
  | transform | splitterTransform | aggregator =>
    rw [kind] at ran
    obtain ⟨combined, -, last⟩ := bind_ok_iff.mp ran
    exact .of_none (routed_deferred last) (by simp [defers, stores, kind])
  | compute | windower =>
    rw [kind] at ran
    obtain ⟨plugin, -, last⟩ := bind_ok_iff.mp ran
    exact .of_none (computed_deferred last) (by simp [defers, stores, kind])
  | batchSource | streamingSource | errorTransform | alertPublisher | action =>
    rw [kind] at ran
    cases ran

/-- A visit puts off a write if it is that of a sink, or that of a connector with an input. -/
theorem visit_deferred (ran : (w.visit s r).result = .ok v) : Deferred w s r v.deferred := by
  unfold visit at ran
  split at ran
  · next kind => exact .of_none (transformErrors_deferred ran) (by simp [defers, stores, kind])
  · next kind => exact .of_none (publishAlerts_deferred ran) (by simp [defers, stores, kind])
  · next kind =>
    split at ran
    · obtain rfl := Except.ok.inj ran
      exact .of_none rfl (by simp [defers, stores, kind])
    · cases ran
  · dsimp only at ran
    split at ran
    · next none =>
      have empty : gather w.phase s r = [] :=
        List.map_eq_nil_iff.mp (Dataset.unionAll_eq_none.mp none)
      -- A sink without an input is no source, so its visit would have failed.
      obtain ⟨kept, no_sink, no_plugin⟩ := readSource_deferred ran
      refine .of_none kept ?_
      cases kind : s.kind <;> simp_all [defers, stores]
    · next input some_input => exact visitWith_deferred some_input ran

/-! ## The tasks of a walk -/

/-- The task that a visit puts off, if it puts one off. -/
def deferredBy (w : Walk) (x : Stage × Registry) : Option SinkTask :=
  match (w.visit x.1 x.2).result with
  | .ok v => v.deferred
  | .error _ => none

theorem deferredBy_ok (ran : (w.visit s r).result = .ok v) : w.deferredBy (s, r) = v.deferred := by
  simp [deferredBy, ran]

/-- The tasks of a walk are those of its visits, none of which has failed. -/
theorem visitAll_tasks {ns : List Name} {done out : Scheduled}
    (ran : (w.visitAll ns done).result = .ok out) :
    out.tasks = done.tasks ++ (w.visits ns done.registry).filterMap w.deferredBy ∧
      ∀ x ∈ w.visits ns done.registry, Deferred w x.1 x.2 (w.deferredBy x) := by
  induction ns generalizing done with
  | nil =>
    obtain rfl := Except.ok.inj ran
    simp [visits]
  | cons n ns ih =>
    cases found : w.phase.stage? n with
    | none =>
      rw [visitAll_external found] at ran
      rw [visits_external found]
      exact ih ran
    | some s =>
      rw [visitAll_stage found] at ran
      obtain ⟨v, visited, rest⟩ := bind_ok_iff.mp ran
      obtain ⟨tasks, deferred⟩ := ih rest
      rw [visits_ok found visited]
      constructor
      · rw [tasks, List.filterMap_cons, deferredBy_ok visited]
        cases v.deferred <;> simp
      · intro x hx
        rcases List.mem_cons.mp hx with rfl | later
        · rw [deferredBy_ok visited]
          exact visit_deferred visited
        · exact deferred x later

/-- What is known of the tasks of a walk that has succeeded. -/
structure Tasked (w : Walk) (visits : List (Stage × Registry)) (tasks : List SinkTask) : Prop where
  names : (visits.map (·.1.name)).Nodup
  tasks : tasks = visits.filterMap w.deferredBy
  deferred : ∀ x ∈ visits, Deferred w x.1 x.2 (w.deferredBy x)

theorem schedule_tasks (accepted : w.phase.Accepted) {g : Graph} (shape : w.phase.graph = some g)
    {out : Scheduled} (ran : w.schedule.result = .ok out) :
    Tasked w (w.visits g.order []) out.tasks := by
  obtain ⟨tasks, deferred⟩ := visitAll_tasks (schedule_walked shape ran)
  exact ⟨visits_nodup accepted shape, tasks, deferred⟩

namespace Tasked

variable {visits : List (Stage × Registry)} {tasks : List SinkTask}

theorem length (h : Tasked w visits tasks) :
    tasks.length = visits.countP fun x => w.defers x.1 x.2 := by
  rw [h.tasks, List.length_filterMap_eq_countP]
  exact List.countP_congr fun x hx => by rw [(h.deferred x hx).isSome]

theorem mem_iff (h : Tasked w visits tasks) :
    t ∈ tasks ↔ ∃ x ∈ visits, w.deferredBy x = some t := by
  rw [h.tasks, List.mem_filterMap]

theorem exists_task (h : Tasked w visits tasks) (visited : (s, r) ∈ visits)
    (defers : w.defers s r) : ∃ t ∈ tasks, Deferred w s r (some t) := by
  have deferred := h.deferred (s, r) visited
  obtain ⟨t, task⟩ := Option.isSome_iff_exists.mp (deferred.isSome.trans defers)
  exact ⟨t, h.mem_iff.mpr ⟨(s, r), visited, task⟩, task ▸ deferred⟩

/-- The task for the stage of a visit is the one that the visit has put off. -/
theorem deferred_of_stage (h : Tasked w visits tasks) (visited : (s, r) ∈ visits) (ht : t ∈ tasks)
    (same : t.stage = s.name) : Deferred w s r (some t) := by
  obtain ⟨x, hx, task⟩ := h.mem_iff.mp ht
  have deferred := h.deferred x hx
  rw [task] at deferred
  have here := List.inj_on_of_nodup_map h.names hx visited (deferred.stage.symm.trans same)
  rwa [here] at deferred

theorem apart (h : Tasked w visits tasks) : Apart tasks := by
  obtain ⟨names, rfl, deferred⟩ := h
  have along : ((visits.filterMap w.deferredBy).map (·.stage)).Sublist
      (visits.map (·.1.name)) := by
    clear names
    induction visits with
    | nil => exact .slnil
    | cons x visits ih =>
      obtain ⟨first, rest⟩ := List.forall_mem_cons.mp deferred
      rw [List.filterMap_cons, List.map_cons]
      cases task : w.deferredBy x with
      | none => exact (ih rest).cons x.1.name
      | some t =>
        rw [task] at first
        rw [List.map_cons, first.stage]
        exact (ih rest).cons_cons x.1.name
  constructor
  · exact along.nodup names
  · intro t ht
    obtain ⟨x, hx, task⟩ := List.mem_filterMap.mp ht
    have deferred := deferred x hx
    rw [task] at deferred
    exact deferred.own

end Tasked

end Walk

end Stageflow
