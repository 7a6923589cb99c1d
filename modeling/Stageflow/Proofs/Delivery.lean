import Stageflow.Engine
import Stageflow.Proofs.Races

/-!
# Delivery

What a run that was not interrupted has written, whatever the order in which its sinks were done:

* `run_runsTo`: a run that does the writes in turn is one of the runs on any number of workers;
* `delivered_once`: every sink has got what was gathered for it, once, and nobody else anything.
-/

namespace Stageflow.Walk

variable {w : Walk} {s : Stage} {r : Registry} {t : SinkTask} {n : Name}
  {maxWorkers : Option Nat} {interrupted : Bool} {report : Report} {es : List Event}

open Journaled

theorem run_runsTo (ran : (w.run interrupted).result = .ok report) :
    w.RunsTo maxWorkers interrupted report (w.run interrupted).events := by
  obtain ⟨out, walked, rest⟩ := bind_ok_iff.mp ran
  obtain ⟨outcome, waited, last⟩ := bind_ok_iff.mp rest
  obtain rfl := Except.ok.inj last
  obtain ⟨p, reached, verdict, events⟩ := Pool.execute_reachable maxWorkers out.tasks interrupted
  have ended : p.verdict = some (.ok outcome) := by rw [verdict, waited]
  have journal : (w.run interrupted).events = w.schedule.events ++ p.events := by
    rw [run, bind_of_ok _ walked, bind_of_ok _ waited, events]
    simp [pure]
  rw [journal]
  exact .intro walked reached ended

/-- The walk itself writes nothing. -/
theorem schedule_unwritten (w : Walk) (n : Name) (records : List Json) :
    .wrote n records ∉ w.schedule.events := by
  intro written
  cases shape : w.phase.graph with
  | none =>
    rw [schedule, Phase.requireGraph, shape] at written
    cases written
  | some g =>
    rw [schedule_events shape, List.mem_flatMap] at written
    obtain ⟨x, -, written⟩ := written
    exact visit_leaves _ written

theorem schedule_writesTo (w : Walk) (n : Name) : writesTo n w.schedule.events = [] :=
  writesTo_eq_nil (w.schedule_unwritten n)

namespace Deferred

/-- A task that ends well has written what was gathered for its stage. -/
theorem writesTo_of_done (h : Deferred w s r (some t)) (stores : w.stores s r)
    (well : t.ending = .done) : writesTo s.name t.events = [w.gathered s r] := by
  cases h with
  | write =>
    cases failure : w.operators.sinkFailures.get? s.name with
    | none => simp [SinkTask.write, writesTo]
    | some m => simp [SinkTask.write, failure] at well
  | plugin kind => simp [Walk.stores, kind] at stores

theorem stores_of_wrote {records : List Json} (h : Deferred w s r (some t))
    (written : .wrote n records ∈ t.events) : w.stores s r := by
  cases h with
  | write stores => exact stores
  | plugin kind plugin =>
    obtain ⟨taken, impossible⟩ := Plugins.sinkTask_events _ written
    cases impossible

end Deferred

namespace Tasked

variable {visits : List (Stage × Registry)} {tasks : List SinkTask} {p : Pool}

/-- A sink is written to once, whatever the other tasks did in between. -/
theorem writesTo_stored {k : Nat} (h : Tasked w visits tasks)
    (reached : Pool.Reachable maxWorkers tasks interrupted p)
    (ended : p.verdict = some (.ok (.completed k))) (visited : (s, r) ∈ visits)
    (stores : w.stores s r) : writesTo s.name p.events = [w.gathered s r] := by
  obtain ⟨t, listed, deferred⟩ := h.exists_task visited (by simp [defers, stores])
  obtain ⟨-, -, tasks_eq, observed⟩ := reached.inv.completed ended
  have well : t.ending = .done := by
    rw [← tasks_eq, List.mem_map] at listed
    obtain ⟨x, hx, rfl⟩ := listed
    exact (observed x hx).2
  have done := reached.completed_events h.apart ended listed
  rw [← writesTo_filter, ← deferred.stage, done, deferred.stage]
  exact deferred.writesTo_of_done stores well

/-- No stage is written to but those whose visits have put off a write to the store. -/
theorem writesTo_other (h : Tasked w visits tasks)
    (reached : Pool.Reachable maxWorkers tasks interrupted p)
    (unstored : ∀ s r, (s, r) ∈ visits → w.stores s r → s.name ≠ n) :
    writesTo n p.events = [] := by
  refine writesTo_eq_nil fun records written => ?_
  obtain ⟨t, ht, about, done⟩ := (reached.accounted h.apart).mem_task written
  rw [reached.inv.tasks] at ht
  obtain ⟨x, hx, task⟩ := h.mem_iff.mp ht
  have deferred := h.deferred x hx
  rw [task] at deferred
  have same : x.1.name = n := deferred.stage.symm.trans about.symm
  exact unstored x.1 x.2 hx (deferred.stores_of_wrote done) same

end Tasked

/-- A run that was not interrupted has waited for all of its tasks. -/
theorem RunsTo.completed (ran : w.RunsTo maxWorkers interrupted report es)
    (calm : report.interrupted = false) :
    ∃ out p, w.schedule.result = .ok out ∧
      Pool.Reachable maxWorkers out.tasks interrupted p ∧
      p.verdict = some (.ok (.completed out.tasks.length)) ∧
      report = ⟨out.registry.stages, out.tasks.length, false⟩ ∧
      es = w.schedule.events ++ p.events := by
  cases ran with
  | @intro out p outcome walked reached ended =>
    cases outcome with
    | interrupted pending => cases calm
    | completed k =>
      obtain ⟨rfl, -⟩ := reached.inv.completed ended
      exact ⟨out, p, walked, reached, ended, rfl, rfl⟩

/-- What a run has delivered, by the visits of its walk. -/
structure Delivered (w : Walk) (visits : List (Stage × Registry)) (report : Report)
    (es : List Event) : Prop where
  visited : report.visited = visits.map (·.1.name)
  counted : report.sinksCompleted = visits.countP fun x => w.defers x.1 x.2
  /-- A sink has written once, and its records are those that it had and those gathered for it. -/
  stored : ∀ s r, (s, r) ∈ visits → w.stores s r →
    ((gather w.phase s r).map (·.1)).Pairwise (· < ·) ∧ writesTo s.name es = [w.gathered s r] ∧
      ∀ l : Ledger, (l.postAll es).store.written.get? s.name =
        some (l.store.recordsOf s.name ++ w.gathered s r)
  /-- Nothing else has written anything. -/
  untouched : ∀ n, (∀ s r, (s, r) ∈ visits → w.stores s r → s.name ≠ n) →
    writesTo n es = [] ∧
      ∀ l : Ledger, (l.postAll es).store.written.get? n = l.store.written.get? n

/--
**Every sink is delivered to once.** A run that was not interrupted has written the records that
were gathered for each sink, by ascending producers, and has counted the visits that put off a
write. Any other such run, with other races and workers, ends with the same report and leaves the
same ledger.
-/
theorem delivered_once (w : Walk) (accepted : w.phase.Accepted) (g : Graph)
    (shape : w.phase.graph = some g) (maxWorkers : Option Nat) (interrupted : Bool)
    (report : Report) (es : List Event) (ran : w.RunsTo maxWorkers interrupted report es)
    (calm : report.interrupted = false) :
    Delivered w (w.visits g.order []) report es ∧
      ∀ race maxWorkers' interrupted' report' es',
        (w.racing race).RunsTo maxWorkers' interrupted' report' es' →
        report'.interrupted = false →
        report' = report ∧ ∀ l : Ledger, l.postAll es' = l.postAll es := by
  obtain ⟨out, p, walked, reached, ended, rfl, rfl⟩ := ran.completed calm
  have tasked := schedule_tasks accepted shape walked
  have walk_writes (n : Name) := w.schedule_writesTo n
  constructor
  · constructor
    case visited => exact schedule_stages accepted shape walked
    case counted => exact tasked.length
    case stored =>
      intro s r visited stores
      have once : writesTo s.name (w.schedule.events ++ p.events) = [w.gathered s r] := by
        rw [writesTo_append, walk_writes, List.nil_append]
        exact tasked.writesTo_stored reached ended visited stores
      refine ⟨gather_ascending, once, fun l => ?_⟩
      rw [Ledger.get?_written_postAll, once, if_neg (List.cons_ne_nil _ _), List.flatten_singleton]
    case untouched =>
      intro n unstored
      have never : writesTo n (w.schedule.events ++ p.events) = [] := by
        rw [writesTo_append, walk_writes, List.nil_append]
        exact tasked.writesTo_other reached unstored
      exact ⟨never, fun l => by rw [Ledger.get?_written_postAll, if_pos never]⟩
  · intro race maxWorkers' interrupted' report' es' ran' calm'
    obtain ⟨out', p', walked', reached', ended', rfl, rfl⟩ := ran'.completed calm'
    rw [schedule_ok_racing] at walked'
    obtain rfl := Except.ok.inj (walked.symm.trans walked')
    refine ⟨rfl, fun l => ?_⟩
    rw [← (schedule_racing w race).events, Ledger.postAll_append, Ledger.postAll_append]
    exact Ledger.postAll_congr (reached'.completed_agree reached tasked.apart ended' ended)

/-- A source that a sink and a sink with a plugin read. -/
def twoSinks : PhaseSpec where
  stages := [.plain "a" .batchSource, .plain "k" .sink, .plain "p" .pluginSink]
  connections := [("a", "k"), ("a", "p")]

/-- The phase of these stages. -/
def twoSinksPhase : Phase where
  stages :=
    [("a", .plain "a" .batchSource), ("k", .plain "k" .sink), ("p", .plain "p" .pluginSink)]
  graph := some ⟨["a", "k", "p"], twoSinks.connections, ["a", "p", "k"]⟩

/-- A walk over it, with a record in the source and a plugin that takes it. -/
def twoSinksWalk : Walk :=
  { bare twoSinksPhase with
    operators := { Operators.empty with sources := [("a", [.plain .null])] }
    plugins := { Plugins.empty with sinks := [("p", .collect)] } }

theorem twoSinks_read : Phase.ofSpec twoSinks = .ok twoSinksWalk.phase := by cbv

theorem twoSinks_accepted : twoSinksWalk.phase.Accepted := Phase.accepted_ofSpec twoSinks_read

theorem twoSinks_visits :
    twoSinksWalk.visits ["a", "p", "k"] [] =
      [(.plain "a" .batchSource, []), (.plain "p" .pluginSink, [("a", .main ⟨[.null], true⟩)]),
        (.plain "k" .sink, [("a", .main ⟨[.null], true⟩), ("p", .empty)])] := rfl

/-- Both sinks are counted, and the one without a plugin is written to. -/
theorem delivered_once_two :
    ∃ es, twoSinksWalk.RunsTo (some 1) false ⟨["a", "p", "k"], 2, false⟩ es ∧
      writesTo "k" es = [[.null]] ∧ writesTo "p" es = [] ∧
      ∀ race es', (twoSinksWalk.racing race).RunsTo (some 2) false ⟨["a", "p", "k"], 2, false⟩ es' →
        Ledger.empty.postAll es' = Ledger.empty.postAll es := by
  have ran : twoSinksWalk.RunsTo (some 1) false ⟨["a", "p", "k"], 2, false⟩
      (twoSinksWalk.run false).events := run_runsTo rfl
  obtain ⟨delivered, alike⟩ := delivered_once twoSinksWalk twoSinks_accepted
    ⟨["a", "k", "p"], twoSinks.connections, ["a", "p", "k"]⟩ rfl (some 1) false _ _ ran rfl
  rw [twoSinks_visits] at delivered
  refine ⟨_, ran, ?_, ?_, fun race es' ran' => ?_⟩
  · exact (delivered.stored (.plain "k" .sink) _ (.tail _ (.tail _ (.head _))) rfl).2.1
  · refine (delivered.untouched "p" fun s r visited stores => ?_).1
    simp only [List.mem_cons, Prod.mk.injEq, List.not_mem_nil, or_false] at visited
    rcases visited with ⟨rfl, rfl⟩ | ⟨rfl, rfl⟩ | ⟨rfl, rfl⟩
    · simp [Stage.plain]
    · cases stores
    · simp [Stage.plain]
  · exact (alike race (some 2) false _ es' ran' rfl).2 .empty

end Stageflow.Walk
