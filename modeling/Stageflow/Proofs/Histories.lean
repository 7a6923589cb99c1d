import Stageflow.Proofs.Publications

/-!
# Histories of runs

A runner serves one run after the other, and all of them add to one ledger. A run may fail in its
walk, and by then it may have published alerts.

* `Runner.Serves` are the answers that a runner may give to a request, with what they leave;
* `Runner.Alike` are answers that differ at most in the record that an error reports;
* `Serves.twice`: two runs for one request fail alike, or wait for the writes of one walk;
* `Serves.answer`: a runner has one answer to a request, whatever its ledger, up to such a record;
* `Serves.events`: what a run leaves is what it leaves alone, added to the ledger;
* `runs_only_append`: so a history leaves what its runs leave alone, one after the other.
-/

namespace Stageflow

/-- What is registered with a backend, and a bound on the workers for its sinks. -/
structure Runner where
  operators : Operators
  maxWorkers : Option Nat

/-- What a run is asked to do. -/
structure Request where
  plugins : Plugins
  phase : Phase
  sourceKind : SourceKind
  macros : MacroContext
  /-- Partition hints for aggregations. -/
  hints : Table Nat
  /-- The stages that are to be counted. -/
  counted : List Name
  /-- Whether it is interrupted before it begins. -/
  interrupted : Bool

/-- How a run ends. -/
inductive Answer
  /-- The walk has failed. -/
  | refused (e : FlowError)
  /-- The walk has left channels, and the wait for the sinks has ended. -/
  | waited (registry : Registry) (verdict : Except FlowError Outcome)

namespace Answer

/-- No sink has failed, and the wait was not interrupted. -/
def Calm : Answer → Prop
  | refused _ | waited _ (.ok (.completed _)) => True
  | waited _ _ => False

/-- The wait was interrupted. -/
def Interrupted : Answer → Prop
  | waited _ (.ok (.interrupted _)) => True
  | _ => False

/-- Whether the run has succeeded. -/
def succeeded : Answer → Bool
  | waited _ (.ok _) => true
  | _ => false

end Answer

namespace Runner

/-- The walk that a runner does for a request, with a race. -/
def walk (m : Runner) (q : Request) (race : Race) : Walk :=
  ⟨m.operators, q.plugins, q.phase, q.sourceKind, q.macros, q.hints, race⟩

/-- The answers that a runner may give to a request on a ledger, each with the ledger it leaves. -/
inductive Serves (m : Runner) (q : Request) (l : Ledger) : Answer → Ledger → Prop
  | refused {e} (race : Race) (failed : (m.walk q race).schedule.result = .error e) :
      Serves m q l (.refused e) ((l.countAnew q.counted).postAll (m.walk q race).schedule.events)
  | waited {out p verdict} (race : Race) (walked : (m.walk q race).schedule.result = .ok out)
      (reached : Pool.Reachable m.maxWorkers out.tasks q.interrupted p)
      (ended : p.verdict = some verdict) :
      Serves m q l (.waited out.registry verdict)
        ((l.countAnew q.counted).postAll ((m.walk q race).schedule.events ++ p.events))

/-- Answers that are the same, but for the record that an error reports: if several records fail in
one call of a key function, each of them may be reported. -/
inductive Alike (m : Runner) (q : Request) : Answer → Answer → Prop
  | same (a : Answer) : Alike m q a a
  | refused {race e e'} (fault : (m.walk q race).SameFault (m.walk q race).trail e e') :
      Alike m q (.refused e) (.refused e')

/-- Requests that a runner has served one after the other, with its answers. -/
inductive History (m : Runner) : Ledger → List (Request × Answer) → Ledger → Prop
  | nil {l} : History m l [] l
  | cons {q a steps l l' l''} (first : m.Serves q l a l') (rest : History m l' steps l'') :
      History m l ((q, a) :: steps) l''

variable {m m' : Runner} {q : Request} {l l' : Ledger} {a a' : Answer} {n : Name} {race : Race}

theorem walk_congr (same : m'.operators = m.operators) (race : Race) :
    m'.walk q race = m.walk q race := by
  rw [walk, walk, same]

theorem walk_races (m : Runner) (q : Request) (race race' : Race) :
    Journaled.EndsAlike ((m.walk q race).SameFault (m.walk q race).trail)
      (m.walk q race).schedule (m.walk q race').schedule :=
  (m.walk q race).schedule_racing race'

/-- Where every key function has one failure for all records, alike answers are the same. -/
theorem Alike.eq (alike : m.Alike q a a') (uniform : m.operators.Uniform) : a' = a := by
  cases alike with
  | same => rfl
  | refused fault => rw [fault.eq uniform]

namespace Serves

/-- A runner may do the writes of a run one after the other. -/
theorem in_turn {out : Scheduled} (walked : (m.walk q race).schedule.result = .ok out)
    (l : Ledger) :
    m.Serves q l (.waited out.registry (execute out.tasks q.interrupted).result)
      ((l.countAnew q.counted).postAll
        ((m.walk q race).schedule.events ++ (execute out.tasks q.interrupted).events)) := by
  obtain ⟨p, reached, ended, did⟩ :=
    Pool.execute_reachable m.maxWorkers out.tasks q.interrupted
  rw [← did]
  exact .waited race walked reached ended

/-- Two runs for one request: both fail in their walks, or both wait for the writes of one walk. -/
inductive Twice (m m' : Runner) (q : Request) (l k : Ledger) :
    Answer → Ledger → Answer → Ledger → Prop
  | refused {e e' es} (alike : m.Alike q (.refused e) (.refused e')) :
      Twice m m' q l k (.refused e) ((l.countAnew q.counted).postAll es)
        (.refused e') ((k.countAnew q.counted).postAll es)
  | waited {out p p' verdict verdict' es} (race : Race)
      (walked : (m.walk q race).schedule.result = .ok out)
      (reached : Pool.Reachable m.maxWorkers out.tasks q.interrupted p)
      (reached' : Pool.Reachable m'.maxWorkers out.tasks q.interrupted p')
      (ended : p.verdict = some verdict) (ended' : p'.verdict = some verdict') :
      Twice m m' q l k (.waited out.registry verdict)
        ((l.countAnew q.counted).postAll (es ++ p.events))
        (.waited out.registry verdict') ((k.countAnew q.counted).postAll (es ++ p'.events))

/-- The walks of two runs with the same registrations differ in their races only. -/
theorem twice (served : m.Serves q l a l') {k k' : Ledger} (again : m'.Serves q k a' k')
    (same : m'.operators = m.operators) : Twice m m' q l k a l' a' k' := by
  cases served with
  | refused race failed =>
    cases again with
    | refused race' failed' =>
      rw [walk_congr same] at failed' ⊢
      rw [← (m.walk_races q race race').events]
      exact .refused (.refused ((m.walk_races q race race').error failed failed'))
    | waited race' walked' =>
      rw [walk_congr same, ← (m.walk_races q race race').ok_iff, failed] at walked'
      cases walked'
  | waited race walked reached ended =>
    have again_walked (race' : Race) := (m.walk_races q race race').ok_iff.mp walked
    cases again with
    | refused race' failed' =>
      rw [walk_congr same, again_walked] at failed'
      cases failed'
    | waited race' walked' reached' ended' =>
      rw [walk_congr same] at walked' ⊢
      obtain rfl := Except.ok.inj ((again_walked race').symm.trans walked')
      rw [← (m.walk_races q race race').events]
      exact .waited race walked reached reached' ended ended'

/-- A runner with the same registrations gives an answer alike, unless it is interrupted. -/
theorem answer (served : m.Serves q l a l') (calm : a.Calm) (same : m'.operators = m.operators)
    {k k' : Ledger} (again : m'.Serves q k a' k') : a'.Interrupted ∨ m.Alike q a a' := by
  cases served.twice again same with
  | refused alike => exact .inr alike
  | @waited out p p' verdict verdict' es race walked reached reached' ended ended' =>
    match verdict, calm with
    | .ok (.completed n), _ =>
      rcases reached.inv.verdict_of_completed reached'.inv ended ended' with rfl | ⟨pending, rfl⟩
      · exact .inr (.same _)
      · exact .inl trivial

/-- A run posts its events to the ledger, whatever is in it; they write nothing if it fails. -/
theorem events (served : m.Serves q l a l') :
    ∃ es, l' = (l.countAnew q.counted).postAll es ∧
      (∀ k : Ledger, m.Serves q k a ((k.countAnew q.counted).postAll es)) ∧
      (a.Calm → a.succeeded = false → ∀ n, writesTo n es = []) := by
  cases served with
  | refused race failed =>
    exact ⟨_, rfl, fun k => .refused race failed, fun _ _ => (m.walk q race).schedule_writesTo⟩
  | @waited out p verdict race walked reached ended =>
    refine ⟨_, rfl, fun k => .waited race walked reached ended, fun calm failed => ?_⟩
    match verdict, calm with
    | .ok (.completed n), _ => cases failed

/-- What a runner may answer to a request does not depend on its ledger. -/
theorem anywhere (served : m.Serves q l a l') (k : Ledger) : ∃ k', m.Serves q k a k' := by
  obtain ⟨es, -, posts, -⟩ := served.events
  exact ⟨_, posts k⟩

/-- Two runs leave the same ledger, whatever the order of their sinks and the record that an error
reports. -/
theorem ledger (accepted : q.phase.Accepted) (served : m.Serves q l a l') (calm : a.Calm)
    (same : m'.operators = m.operators) {k : Ledger} (again : m'.Serves q l a' k)
    (uninterrupted : ¬ a'.Interrupted) : k = l' := by
  cases served.twice again same with
  | refused alike => rfl
  | @waited out p p' verdict verdict' es race walked reached reached' ended ended' =>
    obtain ⟨g, shape, -⟩ := Walk.schedule_ok.mp walked
    have apart := (Walk.schedule_tasks accepted shape walked).apart
    match verdict, calm with
    | .ok (.completed n), _ =>
      rcases reached.inv.verdict_of_completed reached'.inv ended ended' with rfl | ⟨pending, rfl⟩
      · rw [Ledger.postAll_append, Ledger.postAll_append]
        exact Ledger.postAll_congr (reached'.completed_agree reached apart ended' ended)
      · exact absurd trivial uninterrupted

/-- A run adds to a ledger what it leaves alone. -/
theorem appends (accepted : q.phase.Accepted) (served : m.Serves q l a l') (calm : a.Calm)
    (same : m'.operators = m.operators) {k : Ledger} (alone : m'.Serves q .empty a' k)
    (uninterrupted : ¬ a'.Interrupted) (n : Name) :
    l'.store.recordsOf n =
        l.store.recordsOf n ++ (if a.succeeded then k.store.recordsOf n else []) ∧
      l'.store.alertsOf n = l.store.alertsOf n ++ k.store.alertsOf n := by
  obtain ⟨es, rfl, posts, unwritten⟩ := served.events
  have first : k = (Ledger.empty.countAnew q.counted).postAll es :=
    (posts .empty).ledger accepted calm same alone uninterrupted
  have none_written : (Ledger.empty.countAnew q.counted).store.recordsOf n = [] := rfl
  have none_published : (Ledger.empty.countAnew q.counted).store.alertsOf n = [] := rfl
  constructor
  · rw [first, Ledger.recordsOf_postAll, Ledger.recordsOf_postAll, none_written, List.nil_append]
    cases ended : a.succeeded with
    | true => rfl
    | false =>
      rw [unwritten calm ended n]
      rfl
  · rw [first, Ledger.alertsOf_postAll, Ledger.alertsOf_postAll, none_published, List.nil_append]
    rfl

end Serves

/-- A history adds to a ledger what its runs leave alone, one after the other. -/
theorem History.appends {steps : List (Request × Answer)} (ran : m.History l steps l')
    (accepted : ∀ x ∈ steps, x.1.phase.Accepted) (calm : ∀ x ∈ steps, x.2.Calm)
    (same : m'.operators = m.operators) {alone : List Ledger}
    (fresh : List.Forall₂ (fun x k => ∃ a, ¬ a.Interrupted ∧ m'.Serves x.1 .empty a k) steps alone)
    (n : Name) :
    l'.store.recordsOf n = l.store.recordsOf n ++
        ((steps.zip alone).filter (·.1.2.succeeded)).flatMap (fun x => x.2.store.recordsOf n) ∧
      l'.store.alertsOf n = l.store.alertsOf n ++ alone.flatMap (fun k => k.store.alertsOf n) := by
  induction ran generalizing alone with
  | nil =>
    cases fresh
    simp
  | @cons q a steps l l' l'' first rest ih =>
    cases fresh with
    | @cons _ k _ alone head tail =>
      obtain ⟨accepted_first, accepted_rest⟩ := List.forall_mem_cons.mp accepted
      obtain ⟨calm_first, calm_rest⟩ := List.forall_mem_cons.mp calm
      obtain ⟨a', uninterrupted, served⟩ := head
      obtain ⟨records, alerts⟩ :=
        first.appends accepted_first calm_first same served uninterrupted n
      obtain ⟨later_records, later_alerts⟩ := ih accepted_rest calm_rest tail
      constructor
      · rw [later_records, records, List.append_assoc, List.zip_cons_cons, List.filter_cons]
        cases a.succeeded <;> simp
      · rw [later_alerts, alerts, List.append_assoc, List.flatMap_cons]

theorem History.served {steps : List (Request × Answer)} (ran : m.History l steps l')
    {x : Request × Answer} (hx : x ∈ steps) : ∃ k k', m.Serves x.1 k x.2 k' := by
  induction ran with
  | nil => cases hx
  | cons first _ ih =>
    rcases List.mem_cons.mp hx with rfl | later
    · exact ⟨_, _, first⟩
    · exact ih later

/--
**Runs only add to each other.** Let a runner serve some requests, with no failure in a sink and no
interruption. Each answer is one that the request may have alone: what may be answered does not
depend on the ledger. Any other answer of a runner with the same registrations, if it is not
interrupted, has the same registry with the same stages visited, or the same error up to the record
that is reported; it is the same answer where every key function has one failure for all records. Of
each stage the records at the end are those before, and then those that each run writes alone if it
succeeds; and the alerts are those before, and then those that each run publishes alone, even if it
fails.
-/
theorem runs_only_append (m : Runner) (l l' : Ledger) (steps : List (Request × Answer))
    (accepted : ∀ x ∈ steps, x.1.phase.Accepted) (calm : ∀ x ∈ steps, x.2.Calm)
    (ran : m.History l steps l') :
    (∀ x ∈ steps, (∃ k, m.Serves x.1 .empty x.2 k) ∧
      (∀ k a, (∃ k', m.Serves x.1 k a k') ↔ ∃ k', m.Serves x.1 .empty a k') ∧
      ∀ (m' : Runner) (k k' : Ledger) (a : Answer), m'.operators = m.operators →
        m'.Serves x.1 k a k' → a.Interrupted ∨
          m.Alike x.1 x.2 a ∧ (m.operators.Uniform → a = x.2)) ∧
    ∀ (m' : Runner) (alone : List Ledger), m'.operators = m.operators →
      List.Forall₂ (fun x k => ∃ a, ¬ a.Interrupted ∧ m'.Serves x.1 .empty a k) steps alone →
      ∀ n,
        l'.store.recordsOf n = l.store.recordsOf n ++
          ((steps.zip alone).filter (·.1.2.succeeded)).flatMap (fun x => x.2.store.recordsOf n) ∧
        l'.store.alertsOf n =
          l.store.alertsOf n ++ alone.flatMap (fun k => k.store.alertsOf n) := by
  constructor
  · intro x hx
    obtain ⟨k, k', served⟩ := ran.served hx
    refine ⟨served.anywhere .empty, fun k a => ?_, fun m' _ _ a same again => ?_⟩
    · exact ⟨fun ⟨_, here⟩ => here.anywhere .empty, fun ⟨_, alone⟩ => alone.anywhere k⟩
    · exact (served.answer (calm x hx) same again).imp_right fun alike => ⟨alike, alike.eq⟩
  · intro m' alone same fresh n
    exact ran.appends accepted calm same fresh n

/-- A runner with an aggregation for which every record fails, and reports itself. -/
def stoppingRunner : Runner where
  operators :=
    { Walk.stoppedWalk.operators with
      aggregations := [("g", ⟨fun r => .error (.of r.text), fun _ _ => .null⟩)] }
  maxWorkers := some 2

/-- What this runner fails to do. -/
def stoppedRequest : Request :=
  ⟨.empty, Walk.stoppedPhase, .batch, ⟨"n", ⟨0, 0⟩, []⟩, [], [], false⟩

/-- A request for two sinks. -/
def sinksRequest : Request :=
  { stoppedRequest with
    phase := Walk.twoSinksPhase
    plugins := { Plugins.empty with sinks := [("p", .collect)] } }

/-- The first run fails after an alert was published, and the second run writes the records. Alone,
the first run may report another record; this makes no difference to the store. -/
theorem runs_only_append_stopped :
    let failed (record : String) : Answer := .refused (.collaborator "g" (.of record))
    let done : Answer :=
      .waited [("a", .main ⟨[.int 1, .int 2], true⟩), ("p", .empty), ("k", .empty)]
        (.ok (.completed 2))
    (∃ k, stoppingRunner.Serves stoppedRequest .empty (failed "2") k) ∧
    stoppingRunner.Alike stoppedRequest (failed "1") (failed "2") ∧
    ∃ after,
      stoppingRunner.History Walk.usedLedger
        [(stoppedRequest, failed "1"), (sinksRequest, done)] after ∧
      after.store.recordsOf "k" = [.null, .int 1, .int 2] ∧
      after.store.alertsOf "p" = [⟨"b", []⟩, ⟨"a", []⟩] := by
  intro failed done
  have walked : (stoppingRunner.walk sinksRequest fun _ => 0).schedule.result =
      .ok ⟨[("a", .main ⟨[.int 1, .int 2], true⟩), ("p", .empty), ("k", .empty)],
        [Plugins.sinkTask "p" [.int 1, .int 2] .collect, .write "k" [.int 1, .int 2] none]⟩ := rfl
  have first (l : Ledger) : stoppingRunner.Serves stoppedRequest l (failed "1") _ :=
    .refused (fun _ => 0) rfl
  have other (l : Ledger) : stoppingRunner.Serves stoppedRequest l (failed "2") _ :=
    .refused (fun _ => 1) rfl
  have second (l : Ledger) : stoppingRunner.Serves sinksRequest l done _ := Serves.in_turn walked l
  have ran := History.cons (first Walk.usedLedger) (.cons (second _) .nil)
  have accepted : ∀ x ∈ [(stoppedRequest, failed "1"), (sinksRequest, done)],
      x.1.phase.Accepted := by
    intro x hx
    simp only [List.mem_cons, List.not_mem_nil, or_false] at hx
    rcases hx with rfl | rfl
    · exact Phase.accepted_ofSpec Walk.stopped_read
    · exact Walk.twoSinks_accepted
  have calm : ∀ x ∈ [(stoppedRequest, failed "1"), (sinksRequest, done)], x.2.Calm := by
    simp [failed, done, Answer.Calm]
  obtain ⟨answers, appended⟩ := runs_only_append _ _ _ _ accepted calm ran
  obtain ⟨-, -, alike⟩ := answers _ (.head _)
  have alone := appended stoppingRunner [_, _] rfl
    (.cons ⟨_, id, other .empty⟩ (.cons ⟨_, id, second .empty⟩ .nil))
  refine ⟨⟨_, other .empty⟩, ?_, _, ran, (alone "k").1, (alone "p").2⟩
  rcases alike stoppingRunner .empty _ _ rfl (other .empty) with interrupted | ⟨alike, -⟩
  · exact absurd interrupted id
  · exact alike

end Runner

end Stageflow
