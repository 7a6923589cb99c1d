import Stageflow.Engine
import Stageflow.Proofs.Channels

/-!
# Which stages a walk visits

The visits of a walk one by one, each with the registry that it reads:

* `visitAll_events`: what a walk does to the outside is what its visits do, in their order;
* `visits_after_producers`: a visit comes after those of its producers, and there is one a stage;
* `visited_count`: a stage is visited once if the graph has a node for it, and never if not.

A graph that is built of the stages has a node for each of them. A graph that is given to a phase
need not: the walk goes by its nodes, and leaves out the stages that it does not know.
-/

namespace Stageflow.Walk

open Journaled

variable {w : Walk} {s : Stage} {r : Registry} {n : Name}

/-- The visits of a walk, each with the registry that it reads; the last is the one that fails. -/
def visits (w : Walk) : List Name → Registry → List (Stage × Registry)
  | [], _ => []
  | n :: ns, r =>
    match w.phase.stage? n with
    | none => w.visits ns r
    | some s =>
      (s, r) ::
        match (w.visit s r).result with
        | .ok v => w.visits ns (r.record n v.emitted)
        | .error _ => []

theorem visits_external {ns : List Name} (external : w.phase.stage? n = none) :
    w.visits (n :: ns) r = w.visits ns r := by
  simp [visits, external]

theorem visits_ok {ns : List Name} {v : Visited} (found : w.phase.stage? n = some s)
    (ran : (w.visit s r).result = .ok v) :
    w.visits (n :: ns) r = (s, r) :: w.visits ns (r.record n v.emitted) := by
  simp [visits, found, ran]

theorem visits_error {ns : List Name} {e : FlowError} (found : w.phase.stage? n = some s)
    (failed : (w.visit s r).result = .error e) : w.visits (n :: ns) r = [(s, r)] := by
  simp [visits, found, failed]

/-- What a walk does to the outside is what its visits do, in their order. -/
theorem visitAll_events (w : Walk) (ns : List Name) (done : Scheduled) :
    (w.visitAll ns done).events =
      (w.visits ns done.registry).flatMap fun x => (w.visit x.1 x.2).events := by
  induction ns generalizing done with
  | nil => rfl
  | cons n ns ih =>
    cases found : w.phase.stage? n with
    | none => rw [visitAll_external found, visits_external found, ih]
    | some s =>
      rw [visitAll_stage found]
      cases ran : (w.visit s done.registry).result with
      | error e => rw [visits_error found ran, List.flatMap_singleton, bind_of_error _ ran]
      | ok v => rw [visits_ok found ran, List.flatMap_cons, bind_of_ok _ ran, ih]

/-- Each visit comes after a walk over the names before it, which has left the registry it reads. -/
theorem split_of_mem_visits {ns : List Name} (start : Scheduled)
    (h : (s, r) ∈ w.visits ns start.registry) :
    ∃ before n after tasks, ns = before ++ n :: after ∧ w.phase.stage? n = some s ∧
      (w.visitAll before start).result = .ok ⟨r, tasks⟩ := by
  -- A visit that succeeds moves the start on, so the induction is over walks from any start.
  induction ns generalizing start with
  | nil => simp [visits] at h
  | cons n ns ih =>
    cases found : w.phase.stage? n with
    | none =>
      rw [visits_external found] at h
      obtain ⟨before, m, after, tasks, rfl, stage, walked⟩ := ih start h
      exact ⟨n :: before, m, after, tasks, rfl, stage, by rw [visitAll_external found, walked]⟩
    | some t =>
      cases visited : (w.visit t start.registry).result with
      | error e =>
        rw [visits_error found visited, List.mem_singleton] at h
        obtain ⟨rfl, rfl⟩ := Prod.mk.inj h
        exact ⟨[], n, ns, start.tasks, rfl, found, rfl⟩
      | ok v =>
        rw [visits_ok found visited] at h
        rcases List.mem_cons.mp h with same | later
        · obtain ⟨rfl, rfl⟩ := Prod.mk.inj same
          exact ⟨[], n, ns, start.tasks, rfl, found, rfl⟩
        · obtain ⟨before, m, after, tasks, rfl, stage, walked⟩ :=
            ih ⟨start.registry.record n v.emitted, start.tasks ++ v.deferred.toList⟩ later
          refine ⟨n :: before, m, after, tasks, rfl, stage, ?_⟩
          rw [visitAll_stage found, bind_of_ok _ visited, walked]

theorem reaches_of_mem_visits {g : Graph} (shape : w.phase.graph = some g)
    (h : (s, r) ∈ w.visits g.order []) : w.Reaches s r := by
  obtain ⟨before, n, after, tasks, split, found, walked⟩ :=
    split_of_mem_visits ⟨[], []⟩ h
  exact ⟨g, before, n, after, tasks, shape, split, found, walked⟩

/-- The registry that a visit reads holds the stages before it in the order. -/
theorem Reaches.stages (accepted : w.phase.Accepted) (h : w.Reaches s r) :
    ∃ g before after, w.phase.graph = some g ∧ g.order = before ++ s.name :: after ∧
      r.stages = before.filter fun n => (w.phase.stage? n).isSome := by
  obtain ⟨g, before, n, after, tasks, shape, split, found, ran⟩ := h
  obtain rfl := accepted.name_eq found
  have walkable := walkable_order accepted shape
  rw [split] at walkable
  exact ⟨g, before, after, shape, split,
    (visitAll_explained walkable.upTo rfl (explained_nil w) ran).stages⟩

theorem Reaches.count_producer (accepted : w.phase.Accepted) (h : w.Reaches s r)
    (reads : n ∈ w.phase.inputs s.name) (known : (w.phase.stage? n).isSome) :
    r.stages.count n = 1 := by
  obtain ⟨g, before, after, shape, split, stages⟩ := h.stages accepted
  have walkable := walkable_order accepted shape
  have ahead : n ∈ before := walkable.producers_first before s.name after split n reads
  rw [split] at walkable
  rw [stages, List.count_eq_one_of_mem (walkable.upTo.nodup.filter _)]
  exact List.mem_filter.mpr ⟨ahead, known⟩

theorem Reaches.fresh (accepted : w.phase.Accepted) (h : w.Reaches s r) : s.name ∉ r.stages := by
  obtain ⟨g, before, after, shape, split, stages⟩ := h.stages accepted
  rw [stages, List.mem_filter]
  exact fun listed => (walkable_order accepted shape).fresh split listed.1

theorem recordNew?_of_fresh {e : Emitted} (fresh : n ∉ r.stages) :
    r.recordNew? n e = some (r.record n e) := by
  simp [Registry.recordNew?, Registry.get?_eq_none.mpr fresh]

theorem visitAll_stages {ns : List Name} {done out : Scheduled}
    (named : ∀ n s, w.phase.stage? n = some s → s.name = n)
    (ran : (w.visitAll ns done).result = .ok out) :
    out.registry.stages =
      done.registry.stages ++ (w.visits ns done.registry).map (·.1.name) := by
  induction ns generalizing done with
  | nil =>
    obtain rfl := Except.ok.inj ran
    simp [visits]
  | cons n ns ih =>
    cases found : w.phase.stage? n with
    | none =>
      rw [visitAll_external found] at ran
      rw [visits_external found, ih ran]
    | some s =>
      rw [visitAll_stage found] at ran
      obtain ⟨v, visited, rest⟩ := bind_ok_iff.mp ran
      rw [visits_ok found visited, ih rest, List.map_cons, named n s found]
      simp [Registry.record, Registry.stages]

theorem schedule_eq {g : Graph} (shape : w.phase.graph = some g) :
    w.schedule = w.visitAll g.order ⟨[], []⟩ := by
  rw [schedule, Phase.requireGraph, shape, ofExcept_ok_bind]

theorem schedule_events {g : Graph} (shape : w.phase.graph = some g) :
    w.schedule.events = (w.visits g.order []).flatMap fun x => (w.visit x.1 x.2).events := by
  rw [schedule_eq shape, visitAll_events]

theorem filterMap_schedule {β : Type} {g : Graph} (shape : w.phase.graph = some g)
    (f : Event → Option β) :
    w.schedule.events.filterMap f =
      (w.visits g.order []).flatMap fun x => (w.visit x.1 x.2).events.filterMap f := by
  rw [schedule_events shape, List.filterMap_flatMap]

theorem visits_prefix (named : ∀ n s, w.phase.stage? n = some s → s.name = n) (ns : List Name)
    (r : Registry) :
    (w.visits ns r).map (·.1.name) <+: ns.filter fun n => (w.phase.stage? n).isSome := by
  induction ns generalizing r with
  | nil => simp [visits]
  | cons n ns ih =>
    cases found : w.phase.stage? n with
    | none =>
      rw [visits_external found, List.filter_cons_of_neg (by simp [found])]
      exact ih r
    | some s =>
      rw [List.filter_cons_of_pos (by simp [found])]
      cases ran : (w.visit s r).result with
      | error e =>
        rw [visits_error found ran, List.map_singleton, named n s found]
        exact List.cons_prefix_cons.mpr ⟨rfl, List.nil_prefix⟩
      | ok v =>
        rw [visits_ok found ran, List.map_cons, named n s found]
        exact List.cons_prefix_cons.mpr ⟨rfl, ih _⟩

/-- No stage is visited twice, however the walk ends. -/
theorem visits_nodup (accepted : w.phase.Accepted) {g : Graph} (shape : w.phase.graph = some g) :
    ((w.visits g.order []).map (·.1.name)).Nodup := by
  have along := visits_prefix (w := w) (fun _ _ => accepted.name_eq) g.order []
  have once := (accepted.ordered shape).nodup.filter fun n => (w.phase.stage? n).isSome
  exact along.sublist.nodup once

theorem schedule_stages (accepted : w.phase.Accepted) {g : Graph} (shape : w.phase.graph = some g)
    {out : Scheduled} (ran : w.schedule.result = .ok out) :
    out.registry.stages = (w.visits g.order []).map (·.1.name) := by
  exact visitAll_stages (fun _ _ => accepted.name_eq) (schedule_walked shape ran)

/--
**Every visit comes after those of its producers.** A walk is its visits, along the order of the
graph and up to the first that fails. Each finds one entry of each producer in the phase, and none
of its own stage, so that no entry is ever made twice. If the walk succeeds, its visits, its
registry and the order of the graph without the stages of other phases are one list.
-/
theorem visits_after_producers (w : Walk) (accepted : w.phase.Accepted) (g : Graph)
    (shape : w.phase.graph = some g) :
    (w.schedule.events = (w.visits g.order []).flatMap fun x => (w.visit x.1 x.2).events) ∧
    (w.visits g.order []).map (·.1.name) <+:
      (g.order.filter fun n => (w.phase.stage? n).isSome) ∧
    (∀ s r, (s, r) ∈ w.visits g.order [] →
      (∀ n ∈ w.phase.inputs s.name, (w.phase.stage? n).isSome → r.stages.count n = 1) ∧
      s.name ∉ r.stages ∧ ∀ e, r.recordNew? s.name e = some (r.record s.name e)) ∧
    ∀ out, w.schedule.result = .ok out →
      (w.visits g.order []).map (·.1.name) = out.registry.stages ∧
      out.registry.stages = g.order.filter fun n => (w.phase.stage? n).isSome := by
  have named (n : Name) (s : Stage) : w.phase.stage? n = some s → s.name = n := accepted.name_eq
  refine ⟨schedule_events shape, visits_prefix named g.order [], fun s r visited => ?_,
    fun out ran => ?_⟩
  · have reached := reaches_of_mem_visits shape visited
    have fresh := reached.fresh accepted
    exact ⟨fun n => reached.count_producer accepted, fresh, fun e => recordNew?_of_fresh fresh⟩
  · exact ⟨(schedule_stages accepted shape ran).symm,
      (schedule_explained accepted shape ran).stages⟩

/-- The sink comes after the source and the compute stage that it reads. -/
theorem visits_after_producers_sink :
    let s := Stage.plain "k" .sink
    (s, portedComputeEntries) ∈ portedComputeWalk.visits ["b", "a", "c", "k"] [] ∧
      portedComputeEntries.stages.count "b" = 1 ∧ portedComputeEntries.stages.count "c" = 1 := by
  have visited : (Stage.plain "k" .sink, portedComputeEntries) ∈
      portedComputeWalk.visits ["b", "a", "c", "k"] [] :=
    .tail _ (.tail _ (.tail _ (.head _)))
  obtain ⟨-, -, each, -⟩ :=
    visits_after_producers portedComputeWalk portedCompute_accepted _ rfl
  obtain ⟨once, -⟩ := each _ _ visited
  exact ⟨visited, once "b" (by decide +kernel) rfl, once "c" (by decide +kernel) rfl⟩

/--
**A stage is visited if the graph has a node for it.** It is visited once then, and never if the
graph has none. A phase of a declaration has a node for each of its stages.
-/
theorem visited_count (w : Walk) (accepted : w.phase.Accepted) (out : Scheduled)
    (ran : w.schedule.result = .ok out) :
    (∀ g n, w.phase.graph = some g → (w.phase.stage? n).isSome →
      out.registry.stages.count n = if g.contains n then 1 else 0) ∧
    ∀ spec, Phase.ofSpec spec = .ok w.phase → ∀ s ∈ spec.stages,
      out.registry.stages.count s.name = 1 := by
  have count (g : Graph) (n : Name) (shape : w.phase.graph = some g)
      (known : (w.phase.stage? n).isSome) :
      out.registry.stages.count n = if g.contains n then 1 else 0 := by
    have ordered := accepted.ordered shape
    have once := ordered.nodup.filter fun n => (w.phase.stage? n).isSome
    rw [(schedule_explained accepted shape ran).stages, once.count]
    simp [known, ordered.covers, Graph.contains]
  refine ⟨count, fun spec read s hs => ?_⟩
  obtain ⟨g, sorted, built⟩ := Phase.ofSpec_ok_iff.mp read
  have phase := Phase.build_ok built
  have found := (phase.stage?_eq_some s.name s).mpr ⟨hs, rfl⟩
  have node : s.name ∈ g.nodes := by
    rw [(Graph.build_ok sorted).1]
    exact Graph.mem_nodesOf.mpr (.inl (List.mem_map.mpr ⟨s, hs, rfl⟩))
  rw [count g s.name phase.graph_eq (by simp [found])]
  simp [Graph.contains, node]

/-- A batch walk over a phase, with nothing registered for its stages. -/
def bare (p : Phase) : Walk := ⟨.empty, .empty, p, .batch, ⟨"n", ⟨0, 0⟩, []⟩, [], fun _ => 0⟩

/-- An action and a sink over a graph with a node for the action only. -/
def omittedSinkWalk : Walk :=
  bare ⟨[("k", .plain "k" .sink), ("n", .plain "n" .action)], some ⟨["n"], [], ["n"]⟩⟩

theorem omittedSink_accepted : omittedSinkWalk.phase.Accepted := by
  have sorted : Graph.build ["n"] [] = .ok ⟨["n"], [], ["n"]⟩ := by cbv
  refine ⟨[.plain "n" .action, .plain "k" .sink], some ⟨["n"], [], ["n"]⟩, rfl, fun g same => ?_⟩
  obtain rfl := Option.some.inj same
  exact ⟨["n"], [], sorted⟩

theorem omittedSink_schedule :
    omittedSinkWalk.schedule.result = .ok ⟨[("n", .empty)], []⟩ := rfl

/-- The action is visited once and the sink never; the sink of a declaration is visited once. -/
theorem visited_count_sinks :
    let entries : Registry := [("n", .empty)]
    entries.stages.count "n" = 1 ∧ entries.stages.count "k" = 0 ∧
      ∃ out, portedComputeWalk.schedule.result = .ok out ∧ out.registry.stages.count "k" = 1 := by
  obtain ⟨count, -⟩ := visited_count omittedSinkWalk omittedSink_accepted _ omittedSink_schedule
  refine ⟨count _ "n" rfl rfl, count _ "k" rfl rfl, _, rfl, ?_⟩
  exact (visited_count portedComputeWalk portedCompute_accepted _ rfl).2 portedCompute
    portedCompute_read (.plain "k" .sink) (by decide +kernel)

/-- A phase is accepted, and its run succeeds, although one of its sinks is never visited. -/
theorem succeeds_without_sink :
    omittedSinkWalk.phase.Accepted ∧ (omittedSinkWalk.phase.stage? "k").isSome ∧
      (∃ out, omittedSinkWalk.schedule.result = .ok out ∧ "k" ∉ out.registry.stages) ∧
      (omittedSinkWalk.run false).result = .ok ⟨["n"], 0, false⟩ := by
  refine ⟨omittedSink_accepted, rfl, ⟨_, omittedSink_schedule, ?_⟩, rfl⟩
  decide +kernel

end Stageflow.Walk
