import Stageflow.Proofs.Phases
import Stageflow.Proofs.Steps
import Stageflow.Walk

/-!
# Visits

What a visit depends on, and what a walk leaves behind:

* `visit_congr`: of a registry, a visit reads the channels of its producers in the phase only;
* `visitAll_explained`: a walk leaves a registry that would give every visit its result again;
* `visitAll_of_solves`: a registry that does so is reached by walks over all orders.

The invariant of a walk is `Explained`. It speaks of the registry at the end and not of those that
the visits saw, so it can be carried from one order to another.
-/

namespace Stageflow

namespace Registry

variable {r : Registry} {n m : Name} {e : Emitted}

theorem get?_eq_none : r.get? n = none ↔ n ∉ r.stages := by
  rw [get?, Option.map_eq_none_iff, List.find?_eq_none, stages, List.mem_map]
  simp only [decide_eq_true_eq]
  grind

theorem get?_record (fresh : n ∉ r.stages) :
    (r.record n e).get? m = if n = m then some e else r.get? m := by
  by_cases same : n = m
  · subst same
    have none : r.find? (·.1 = n) = none := Option.map_eq_none_iff.mp (get?_eq_none.mpr fresh)
    simp [get?, record, List.find?_append, none]
  · simp [get?, record, List.find?_append, same]

end Registry

namespace Journaled

variable {ε α β : Type}

theorem ofExcept_ok_bind (a : α) (f : α → Journaled ε β) : (ofExcept (.ok a) >>= f) = f a :=
  pure_bind a f

end Journaled

namespace Walk

open Journaled

variable {w : Walk} {s : Stage} {r r' : Registry} {n m : Name}

/-! ## What a visit depends on -/

/-- Two registries hold the same channels of all producers in the phase that a stage reads. -/
def SameFor (w : Walk) (s : Stage) (r r' : Registry) : Prop :=
  ∀ n ∈ w.phase.inputs s.name, (w.phase.stage? n).isSome → r.get? n = r'.get? n

theorem gather_congr (same : w.SameFor s r r') : gather w.phase s r = gather w.phase s r' := by
  refine List.filterMap_congr fun n hn => ?_
  cases found : w.phase.stage? n with
  | none => rfl
  | some t => simp [Registry.outputOf, same n hn (by simp [found])]

theorem mem_producersInPhase {p : Phase} {producers : List Name}
    (h : producersInPhase p n = .ok producers) (hm : m ∈ producers) :
    m ∈ p.inputs n ∧ (p.stage? m).isSome := by
  unfold producersInPhase at h
  split at h
  · cases h
  · obtain rfl := Except.ok.inj h
    simpa using hm

theorem producers_congr {α : Type} {producers : List Name} (same : w.SameFor s r r')
    (found : producersInPhase w.phase s.name = .ok producers) (channel : Emitted → Option α) :
    producers.filterMap (fun n => (r.get? n).bind channel) =
      producers.filterMap fun n => (r'.get? n).bind channel := by
  refine List.filterMap_congr fun n hn => ?_
  obtain ⟨reads, known⟩ := mem_producersInPhase found hn
  rw [same n reads known]

theorem transformErrors_congr (same : w.SameFor s r r') :
    w.transformErrors s r = w.transformErrors s r' := by
  unfold transformErrors
  cases found : producersInPhase w.phase s.name with
  | error e => rfl
  | ok producers =>
    have channels : producers.filterMap r.errorsOf = producers.filterMap r'.errorsOf :=
      producers_congr same found (·.errors)
    rw [ofExcept_ok_bind, ofExcept_ok_bind, channels]

theorem publishAlerts_congr (same : w.SameFor s r r') :
    w.publishAlerts s r = w.publishAlerts s r' := by
  unfold publishAlerts
  cases found : producersInPhase w.phase s.name with
  | error e => rfl
  | ok producers =>
    have channels : producers.filterMap r.alertsOf = producers.filterMap r'.alertsOf :=
      producers_congr same found (·.alerts)
    rw [ofExcept_ok_bind, ofExcept_ok_bind, channels]

/-- Of a registry, a visit reads the channels of its producers in the phase only. -/
theorem visit_congr (same : w.SameFor s r r') : w.visit s r = w.visit s r' := by
  unfold visit
  rw [gather_congr same, transformErrors_congr same, publishAlerts_congr same]

theorem visit_record {e : Emitted} (fresh : n ∉ r.stages) (unread : n ∉ w.phase.inputs s.name) :
    w.visit s (r.record n e) = w.visit s r := by
  refine visit_congr fun m hm _ => ?_
  have other : n ≠ m := fun same => unread (same ▸ hm)
  rw [Registry.get?_record fresh, if_neg other]

/-! ## What a walk leaves -/

/-- An order in which the stages of a phase can be visited. -/
structure Walkable (p : Phase) (order : List Name) : Prop where
  named : ∀ n s, p.stage? n = some s → s.name = n
  nodup : order.Nodup
  producers_first : ∀ before n after, order = before ++ n :: after →
    ∀ m ∈ p.inputs n, m ∈ before

theorem walkable_order {p : Phase} (h : p.Accepted) {g : Graph} (shape : p.graph = some g) :
    Walkable p g.order where
  named _ _ := h.name_eq
  nodup := (h.ordered shape).nodup
  producers_first _ _ _ split _ := h.producers_first shape split

theorem Walkable.upTo {p : Phase} {before after : List Name}
    (h : Walkable p (before ++ after)) : Walkable p before where
  named := h.named
  nodup := (List.nodup_append.mp h.nodup).1
  producers_first first n rest split := by
    refine h.producers_first first n (rest ++ after) ?_
    rw [split, List.append_assoc, List.cons_append]

theorem Walkable.fresh {p : Phase} {order before after : List Name} (h : Walkable p order)
    (split : order = before ++ n :: after) : n ∉ before := by
  have := h.nodup
  grind

/-- A stage is read neither by the stages before it nor by itself. -/
theorem Walkable.unread {p : Phase} {order before after : List Name} (h : Walkable p order)
    (split : order = before ++ n :: after) (hm : m ∈ before ++ [n]) : n ∉ p.inputs m := by
  intro reads
  have fresh := h.fresh split
  rcases List.mem_append.mp hm with hb | hn
  · obtain ⟨first, rest, rfl⟩ := List.append_of_mem hb
    have behind := h.producers_first first m (rest ++ n :: after) (by simp [split]) n reads
    exact fresh (List.mem_append_left _ behind)
  · obtain rfl := List.mem_singleton.mp hn
    exact fresh (h.producers_first before m after split m reads)

/-- Visits after a registry succeed for some names and leave the entries that it has. -/
def Solves (w : Walk) (names : List Name) (r : Registry) : Prop :=
  ∀ n ∈ names, ∀ s, w.phase.stage? n = some s →
    ∃ v, (w.visit s r).result = .ok v ∧ r.get? n = some v.emitted

/-- The task that a visit after a registry puts off, if there is one. -/
def tasksOf (w : Walk) (r : Registry) (n : Name) : List SinkTask :=
  match w.phase.stage? n with
  | none => []
  | some s =>
    match (w.visit s r).result with
    | .ok v => v.deferred.toList
    | .error _ => []

theorem tasksOf_congr (same : ∀ s, w.phase.stage? n = some s → w.visit s r = w.visit s r') :
    w.tasksOf r n = w.tasksOf r' n := by
  unfold tasksOf
  cases found : w.phase.stage? n with
  | none => rfl
  | some s => simp only [same s found]

/-- What a walk over some names has left is what its registry leads to. -/
structure Explained (w : Walk) (visited : List Name) (done : Scheduled) : Prop where
  stages : done.registry.stages = visited.filter fun n => (w.phase.stage? n).isSome
  solves : w.Solves visited done.registry
  tasks : done.tasks = visited.flatMap (w.tasksOf done.registry)

theorem explained_nil (w : Walk) : w.Explained [] ⟨[], []⟩ :=
  ⟨rfl, fun _ hn => absurd hn List.not_mem_nil, rfl⟩

namespace Explained

variable {order before after visited : List Name} {done : Scheduled} {v : Visited}

theorem skip (h : w.Explained visited done) (external : w.phase.stage? n = none) :
    w.Explained (visited ++ [n]) done := by
  refine ⟨?_, fun m hm s found => ?_, ?_⟩
  · simp [h.stages, external]
  · rcases List.mem_append.mp hm with hv | hn
    · exact h.solves m hv s found
    · obtain rfl := List.mem_singleton.mp hn
      cases external.symm.trans found
  · simp [h.tasks, tasksOf, external]

theorem fresh (h : w.Explained visited done) (unvisited : n ∉ visited) :
    n ∉ done.registry.stages := by
  rw [h.stages, List.mem_filter]
  exact fun listed => unvisited listed.1

theorem visit (h : w.Explained before done) (walkable : Walkable w.phase order)
    (split : order = before ++ n :: after) (found : w.phase.stage? n = some s)
    (ran : (w.visit s done.registry).result = .ok v) :
    w.Explained (before ++ [n])
      ⟨done.registry.record n v.emitted, done.tasks ++ v.deferred.toList⟩ := by
  have unvisited := walkable.fresh split
  have fresh := h.fresh unvisited
  -- No stage visited so far reads the new entry, so every visit goes as before.
  have unchanged (m : Name) (hm : m ∈ before ++ [n]) (t : Stage)
      (stage : w.phase.stage? m = some t) :
      w.visit t (done.registry.record n v.emitted) = w.visit t done.registry := by
    refine visit_record fresh ?_
    rw [walkable.named m t stage]
    exact walkable.unread split hm
  have tasks (m : Name) (hm : m ∈ before ++ [n]) :
      w.tasksOf (done.registry.record n v.emitted) m = w.tasksOf done.registry m :=
    tasksOf_congr (unchanged m hm)
  refine ⟨?_, fun m hm t stage => ?_, ?_⟩
  · have here : (w.phase.stage? n).isSome := by simp [found]
    simp [Registry.record, Registry.stages, ← h.stages, here]
  · rw [unchanged m hm t stage, Registry.get?_record fresh]
    rcases List.mem_append.mp hm with hb | hn
    · have other : n ≠ m := fun same => unvisited (same ▸ hb)
      rw [if_neg other]
      exact h.solves m hb t stage
    · obtain rfl := List.mem_singleton.mp hn
      obtain rfl := Option.some.inj (stage.symm.trans found)
      exact ⟨v, ran, if_pos rfl⟩
  · have last : w.tasksOf done.registry n = v.deferred.toList := by simp [tasksOf, found, ran]
    rw [List.flatMap_congr tasks, List.flatMap_append, ← h.tasks, List.flatMap_singleton, last]

end Explained

theorem visitAll_external {ns : List Name} {done : Scheduled} (external : w.phase.stage? n = none) :
    w.visitAll (n :: ns) done = w.visitAll ns done := by
  simp [visitAll, external]

theorem visitAll_stage {ns : List Name} {done : Scheduled} (found : w.phase.stage? n = some s) :
    w.visitAll (n :: ns) done = w.visit s done.registry >>= fun v =>
      w.visitAll ns ⟨done.registry.record n v.emitted, done.tasks ++ v.deferred.toList⟩ := by
  simp [visitAll, found]

variable {order before ns : List Name} {done out : Scheduled}

/-- A walk leaves a registry that gives every visit the result that it had. -/
theorem visitAll_explained (walkable : Walkable w.phase order) (split : order = before ++ ns)
    (h : w.Explained before done) (ran : (w.visitAll ns done).result = .ok out) :
    w.Explained order out := by
  induction ns generalizing before done with
  | nil =>
    obtain rfl := Except.ok.inj ran
    simpa [split] using h
  | cons n ns ih =>
    have next : order = (before ++ [n]) ++ ns := by simp [split]
    cases found : w.phase.stage? n with
    | none =>
      rw [visitAll_external found] at ran
      exact ih next (h.skip found) ran
    | some s =>
      rw [visitAll_stage found] at ran
      obtain ⟨v, visited, rest⟩ := bind_ok_iff.mp ran
      exact ih next (h.visit walkable split found visited) rest

/-- The registry of a walk is the only one that gives every visit its result. -/
theorem visitAll_of_solves {known : Registry} (walkable : Walkable w.phase order)
    (split : order = before ++ ns) (h : w.Explained before done) (solves : w.Solves order known)
    (agree : ∀ n ∈ before, (w.phase.stage? n).isSome → done.registry.get? n = known.get? n) :
    ∃ out, (w.visitAll ns done).result = .ok out ∧
      ∀ n ∈ order, (w.phase.stage? n).isSome → out.registry.get? n = known.get? n := by
  induction ns generalizing before done with
  | nil => exact ⟨done, rfl, by simpa [split] using agree⟩
  | cons n ns ih =>
    have next : order = (before ++ [n]) ++ ns := by simp [split]
    cases found : w.phase.stage? n with
    | none =>
      rw [visitAll_external found]
      refine ih next (h.skip found) fun m hm stage => ?_
      rcases List.mem_append.mp hm with hb | hn
      · exact agree m hb stage
      · simp [List.mem_singleton.mp hn, found] at stage
    | some s =>
      have same : w.SameFor s done.registry known := by
        intro m reads stage
        rw [walkable.named n s found] at reads
        exact agree m (walkable.producers_first before n ns split m reads) stage
      obtain ⟨v, ran, entry⟩ := solves n (by simp [split]) s found
      rw [← visit_congr same] at ran
      have unvisited := walkable.fresh split
      obtain ⟨out, rest, agrees⟩ := ih next (h.visit walkable split found ran) fun m hm stage => by
        rw [Registry.get?_record (h.fresh unvisited)]
        split
        · next here => rw [← here, entry]
        · next other =>
          rcases List.mem_append.mp hm with hb | hn
          · exact agree m hb stage
          · exact absurd (List.mem_singleton.mp hn).symm other
      refine ⟨out, ?_, agrees⟩
      rw [visitAll_stage found]
      exact bind_ok_iff.mpr ⟨v, ran, rest⟩

theorem schedule_ok {out : Scheduled} :
    w.schedule.result = .ok out ↔
      ∃ g, w.phase.graph = some g ∧ (w.visitAll g.order ⟨[], []⟩).result = .ok out := by
  unfold schedule Phase.requireGraph
  cases w.phase.graph with
  | none => simp [bind_ok_iff]
  | some g => simp [ofExcept_ok_bind]

theorem schedule_walked {g : Graph} (shape : w.phase.graph = some g) {out : Scheduled}
    (ran : w.schedule.result = .ok out) : (w.visitAll g.order ⟨[], []⟩).result = .ok out := by
  obtain ⟨g', same, walked⟩ := schedule_ok.mp ran
  obtain rfl := Option.some.inj (same.symm.trans shape)
  exact walked

theorem schedule_explained (accepted : w.phase.Accepted) {g : Graph}
    (shape : w.phase.graph = some g) {out : Scheduled} (ran : w.schedule.result = .ok out) :
    w.Explained g.order out := by
  have walked := schedule_walked shape ran
  exact visitAll_explained (walkable_order accepted shape) rfl (explained_nil w) walked

end Walk

end Stageflow
