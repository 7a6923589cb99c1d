import Stageflow.Proofs.Delivery
import Stageflow.Proofs.SideChannels

/-!
# What a walk does to the store

A walk may fail at any of its visits, and it publishes alerts on its way. What the store shows then:

* `visit_publications`: a visit of a publisher that is completed publishes what the stage reads;
* `visit_error_unpublished`: a visit that fails publishes nothing;
* `visitAll_ends`: a walk completes its visits, or ends with the first that fails;
* `schedule_store`: so the store holds what the completed visits have published, and no more.
-/

namespace Stageflow

/-- The lists of alerts that are published, each with its stage, in the order of publication. -/
def publications (es : List Event) : List (Name × List Alert) :=
  es.filterMap fun
    | .published s alerts => some (s, alerts)
    | _ => none

section Publications

variable {n : Name} {es : List Event}

theorem publications_eq_nil (unpublished : ∀ s alerts, .published s alerts ∉ es) :
    publications es = [] := by
  refine List.filterMap_eq_nil_iff.mpr fun e he => ?_
  cases e with
  | published s alerts => exact absurd he (unpublished s alerts)
  | _ => rfl

/-- What is published for one stage only. -/
theorem publications_of_own (own : ∀ s alerts, .published s alerts ∈ es → s = n) :
    publications es = (publishedBy n es).map fun alerts => (n, alerts) := by
  unfold publications publishedBy
  rw [List.map_filterMap]
  refine List.filterMap_congr fun e he => ?_
  cases e with
  | published s alerts =>
    obtain rfl := own s alerts he
    simp
  | _ => rfl

theorem Ledger.alerts_postAll (l : Ledger) :
    (l.postAll es).store.alerts =
      (publications es).foldl (fun t p => Store.append t p.1 p.2) l.store.alerts := by
  induction es generalizing l with
  | nil => rfl
  | cons e es ih =>
    rw [postAll_cons, ih]
    cases e <;> rfl

theorem Ledger.written_postAll (l : Ledger) (unwritten : ∀ s records, .wrote s records ∉ es) :
    (l.postAll es).store.written = l.store.written := by
  induction es generalizing l with
  | nil => rfl
  | cons e es ih =>
    have rest : ∀ s records, .wrote s records ∉ es := fun s records later =>
      unwritten s records (List.mem_cons_of_mem e later)
    rw [postAll_cons, ih _ rest]
    cases e with
    | wrote s records => exact absurd List.mem_cons_self (unwritten s records)
    | _ => rfl

end Publications

open Journaled

namespace Walk

variable {w : Walk} {s : Stage} {r : Registry} {n : Name} {g : Graph} {e : FlowError}
  {visits completed : List (Stage × Registry)}

/-! ## One visit -/

/-- What a visit publishes if it is completed: a publisher that reads channels of alerts publishes
what they hold, by ascending producers. -/
def publication? (w : Walk) (x : Stage × Registry) : Option (Name × List Alert) :=
  let alerts := sideRead w.phase x.1 x.2.alertsOf
  if x.1.kind = .alertPublisher ∧ alerts ≠ [] then
    some (x.1.name, alerts.flatMap (·.items))
  else none

theorem visit_publications_own (s' : Name) (alerts : List Alert)
    (published : .published s' alerts ∈ (w.visit s r).events) : s' = s.name :=
  (visit_leaves _ published).1

theorem visit_publications {v : Visited} (ran : (w.visit s r).result = .ok v) :
    publications (w.visit s r).events = (w.publication? (s, r)).toList := by
  rw [publications_of_own visit_publications_own]
  unfold publication?
  by_cases kind : s.kind = .alertPublisher
  · rw [visit_publishes kind ran]
    by_cases silent : sideRead w.phase s r.alertsOf = [] <;> simp [kind, silent]
  · have none : publishedBy s.name (w.visit s r).events = [] :=
      visit_publishes_nothing fun publisher => absurd publisher kind
    simp [none, kind]

/-- An operator that fails to publish alerts has published none. -/
theorem publishAlerts_error {ops : Operators} {stage : Name} {alerts : Dataset Alert} {f : Failure}
    (failed : (ops.publishAlerts stage alerts).result = .error f) (n : Name) (as : List Alert) :
    .published n as ∉ (ops.publishAlerts stage alerts).events := by
  unfold Operators.publishAlerts Operators.invoke at failed ⊢
  rw [bind_of_ok _ rfl] at failed ⊢
  split at failed
  · simp [note, fail]
  · cases failed

/-- A visit that fails publishes nothing. -/
theorem visit_error_unpublished (failed : (w.visit s r).result = .error e) (n : Name)
    (as : List Alert) : .published n as ∉ (w.visit s r).events := by
  intro published
  have kind : s.kind = .alertPublisher := (visit_leaves _ published).2
  simp only [visit, kind, publishAlerts] at failed published
  cases found : producersInPhase w.phase s.name with
  | error e' =>
    rw [found] at published
    cases published
  | ok producers =>
    rw [found, ofExcept_ok_bind] at failed published
    cases union : Dataset.unionAll (producers.filterMap r.alertsOf) with
    | none =>
      rw [union] at failed
      cases failed
    | some alerts =>
      rw [union] at failed published
      dsimp only at failed published
      rw [events_bind_pure, events_blame] at published
      cases ended : (w.operators.publishAlerts s.name alerts).result with
      | ok u => simp [bind, pure, blame, mapError, ended] at failed
      | error f => exact publishAlerts_error ended n as published

/-! ## The visits of a walk -/

/-- All of some visits are completed. -/
def AllCompleted (w : Walk) (visits : List (Stage × Registry)) : Prop :=
  ∀ x ∈ visits, ∃ v, (w.visit x.1 x.2).result = .ok v

/-- How a walk ends with its visits: all of them are completed, or all but the last, which fails. -/
inductive EndsWith (w : Walk) (visits completed : List (Stage × Registry)) :
    Except FlowError Scheduled → Prop
  | served {out : Scheduled} (each : w.AllCompleted completed) (all : visits = completed) :
      EndsWith w visits completed (.ok out)
  | failed {s : Stage} {r : Registry} {e : FlowError} (each : w.AllCompleted completed)
      (last : visits = completed ++ [(s, r)]) (failure : (w.visit s r).result = .error e) :
      EndsWith w visits completed (.error e)

namespace EndsWith

variable {result : Except FlowError Scheduled}

theorem each (ends : EndsWith w visits completed result) : w.AllCompleted completed := by
  cases ends <;> assumption

theorem sublist (ends : EndsWith w visits completed result) : completed.Sublist visits := by
  cases ends with
  | served each all => rw [all]
  | failed each last failure =>
    rw [last]
    exact List.sublist_append_left completed _

theorem cons {x : Stage × Registry} {v : Visited} (ran : (w.visit x.1 x.2).result = .ok v)
    (ends : EndsWith w visits completed result) :
    EndsWith w (x :: visits) (x :: completed) result := by
  have each : w.AllCompleted (x :: completed) := List.forall_mem_cons.mpr ⟨⟨v, ran⟩, ends.each⟩
  cases ends with
  | served _ all => exact .served each (by rw [all])
  | failed _ last failure => exact .failed each (by rw [last, List.cons_append]) failure

/-- Where the visit that fails has nothing, the completed visits have all. -/
theorem flatMap_eq {β : Type} {f : Stage × Registry → List β}
    (ends : EndsWith w visits completed result)
    (silent : ∀ s r e, (w.visit s r).result = .error e → f (s, r) = []) :
    visits.flatMap f = completed.flatMap f := by
  cases ends with
  | served each all => rw [all]
  | failed each last failure =>
    rw [last, List.flatMap_append, List.flatMap_singleton, silent _ _ _ failure, List.append_nil]

/-- Only completed visits have published anything. -/
theorem publications_eq (ends : EndsWith w visits completed result) :
    publications (visits.flatMap fun x => (w.visit x.1 x.2).events) =
      completed.filterMap w.publication? := by
  have by_visit : publications (visits.flatMap fun x => (w.visit x.1 x.2).events) =
      visits.flatMap fun x => publications (w.visit x.1 x.2).events := List.filterMap_flatMap
  rw [by_visit, List.filterMap_eq_flatMap_toList, ends.flatMap_eq]
  · refine List.flatMap_congr fun x hx => ?_
    obtain ⟨v, ran⟩ := ends.each x hx
    exact visit_publications ran
  · intro s r e failed
    exact publications_eq_nil (visit_error_unpublished failed)

end EndsWith

/-- A walk completes its visits up to the first that fails. -/
theorem visitAll_ends (w : Walk) (ns : List Name) (done : Scheduled) :
    ∃ completed,
      EndsWith w (w.visits ns done.registry) completed (w.visitAll ns done).result := by
  induction ns generalizing done with
  | nil => exact ⟨[], .served (fun _ none => nomatch none) rfl⟩
  | cons n ns ih =>
    cases found : w.phase.stage? n with
    | none =>
      rw [visits_external found, visitAll_external found]
      exact ih done
    | some s =>
      rw [visitAll_stage found]
      cases ran : (w.visit s done.registry).result with
      | error e =>
        rw [visits_error found ran, bind_of_error _ ran]
        exact ⟨[], .failed (fun _ none => nomatch none) rfl ran⟩
      | ok v =>
        rw [visits_ok found ran, bind_of_ok _ ran]
        obtain ⟨completed, ends⟩ :=
          ih ⟨done.registry.record n v.emitted, done.tasks ++ v.deferred.toList⟩
        exact ⟨(s, done.registry) :: completed, ends.cons ran⟩

/-! ## The store after a walk -/

/-- What a walk has done to a store when some of its visits are completed. -/
structure StoreAfter (w : Walk) (completed : List (Stage × Registry)) (before after : Store) :
    Prop where
  written : after.written = before.written
  alerts : after.alerts = (completed.filterMap w.publication?).foldl
    (fun t p => Store.append t p.1 p.2) before.alerts
  /-- A publisher whose visit is completed has added the alerts that it read, once. -/
  published : ∀ s r, (s, r) ∈ completed → s.kind = .alertPublisher →
    (w.phase.inputs s.name).Pairwise (· < ·) ∧
      after.alertsOf s.name =
        before.alertsOf s.name ++ (sideRead w.phase s r.alertsOf).flatMap (·.items)
  /-- Under other names there are the alerts that there were. -/
  unpublished : ∀ n, (∀ s r, (s, r) ∈ completed → s.kind = .alertPublisher → s.name ≠ n) →
    after.alertsOf n = before.alertsOf n

/--
**A walk publishes as it goes, and writes nothing.** However a walk over a graph ends, the records
in the store are those that were there, and to the alerts are added, visit after visit, those that
each publisher has read whose visit was completed. The visit at which a walk fails publishes
nothing, and there is none after it. Without a graph the walk does nothing at all.
-/
theorem schedule_store (w : Walk) (accepted : w.phase.Accepted) (l : Ledger) :
    (w.phase.graph = none →
      w.schedule.result = .error .missingGraph ∧ l.postAll w.schedule.events = l) ∧
    ∀ g, w.phase.graph = some g →
      ∃ completed, EndsWith w (w.visits g.order []) completed w.schedule.result ∧
        (completed.map (·.1.name)).Nodup ∧
        StoreAfter w completed l.store (l.postAll w.schedule.events).store := by
  constructor
  · intro none
    rw [schedule, Phase.requireGraph, none]
    exact ⟨rfl, rfl⟩
  intro g shape
  obtain ⟨completed, ends⟩ := w.visitAll_ends g.order ⟨[], []⟩
  rw [← schedule_eq shape] at ends
  have names : (completed.map (·.1.name)).Nodup :=
    (ends.sublist.map _).nodup (visits_nodup accepted shape)
  have all_published := ends.publications_eq
  rw [← schedule_events shape] at all_published
  have published_by (n : Name) : publishedBy n w.schedule.events =
      completed.flatMap fun x => publishedBy n (w.visit x.1 x.2).events := by
    rw [publishedBy, filterMap_schedule shape]
    exact ends.flatMap_eq fun s r e failed => publishedBy_eq_nil (visit_error_unpublished failed n)
  refine ⟨completed, ends, names, ?_⟩
  constructor
  case written => exact l.written_postAll w.schedule_unwritten
  case alerts => rw [l.alerts_postAll, all_published]
  case published =>
    intro s r visited kind
    obtain ⟨v, ran⟩ := ends.each (s, r) visited
    have once : publishedBy s.name w.schedule.events =
        if sideRead w.phase s r.alertsOf = [] then []
        else [(sideRead w.phase s r.alertsOf).flatMap (·.items)] := by
      rw [published_by, flatMap_visits names visited
        fun x _ other => visit_publishes_nothing fun _ => other]
      exact visit_publishes kind ran
    refine ⟨w.phase.inputs_ascending s.name, ?_⟩
    rw [l.alertsOf_postAll, once]
    split
    · next silent => simp [silent]
    · rw [List.flatten_singleton]
  case unpublished =>
    intro n others
    have none : publishedBy n w.schedule.events = [] := by
      rw [published_by]
      exact List.flatMap_eq_nil_iff.mpr fun x visited =>
        visit_publishes_nothing (others x.1 x.2 visited)
    rw [l.alertsOf_postAll, none, List.flatten_nil, List.append_nil]

/-- A source that an aggregation and a publisher of alerts read. -/
def stopping : PhaseSpec where
  stages := [.plain "a" .batchSource, .plain "g" .aggregator, .plain "p" .alertPublisher]
  connections := [("a", "g"), ("a", "p")]

/-- The phase of these stages. -/
def stoppedPhase : Phase where
  stages :=
    [("a", .plain "a" .batchSource), ("g", .plain "g" .aggregator),
      ("p", .plain "p" .alertPublisher)]
  graph := some ⟨["a", "g", "p"], stopping.connections, ["a", "p", "g"]⟩

/-- A walk over it, with records and an alert in the source and no function for the aggregation. -/
def stoppedWalk : Walk :=
  { bare stoppedPhase with
    operators :=
      { Operators.empty with
        sources := [("a", [.plain (.int 1), .plain (.int 2), .alert ⟨"a", []⟩])] } }

theorem stopped_read : Phase.ofSpec stopping = .ok stoppedWalk.phase := by cbv

/-- A ledger with a record and an alert. -/
def usedLedger : Ledger := { Ledger.empty with store := ⟨[("k", [.null])], [("p", [⟨"b", []⟩])]⟩ }

theorem stopped_visits :
    let entry : Emitted := ⟨.main ⟨[.int 1, .int 2], true⟩, none, some ⟨[⟨"a", []⟩], true⟩⟩
    stoppedWalk.visits ["a", "p", "g"] [] =
      [(.plain "a" .batchSource, []), (.plain "p" .alertPublisher, [("a", entry)]),
        (.plain "g" .aggregator, [("a", entry), ("p", .empty)])] := rfl

/-- The alert is published although the walk fails later, and the record is still there. -/
theorem schedule_store_stopped :
    let after := (usedLedger.postAll stoppedWalk.schedule.events).store
    stoppedWalk.schedule.result =
        .error (.collaborator "g" (.of "no aggregation registered for stage 'g'")) ∧
      after.written = [("k", [.null])] ∧ after.alertsOf "p" = [⟨"b", []⟩, ⟨"a", []⟩] := by
  intro after
  have failed : stoppedWalk.schedule.result =
      .error (.collaborator "g" (.of "no aggregation registered for stage 'g'")) := rfl
  obtain ⟨-, walked⟩ := schedule_store stoppedWalk (Phase.accepted_ofSpec stopped_read) usedLedger
  obtain ⟨completed, ends, -, stored⟩ :=
    walked ⟨["a", "g", "p"], stopping.connections, ["a", "p", "g"]⟩ rfl
  rw [failed] at ends
  cases ends with
  | @failed t r _ each last failure =>
    have first_two : (completed ++ [(t, r)]).dropLast = completed := List.dropLast_concat
    rw [← last, stopped_visits] at first_two
    subst first_two
    obtain ⟨-, published⟩ := stored.published (.plain "p" .alertPublisher) _ (.tail _ (.head _)) rfl
    exact ⟨failed, stored.written, published⟩

end Walk

end Stageflow
