import Stageflow.Proofs.Outlines

/-!
# Side channels

Errors and alerts leave the stream of a stage by channels of their own, and only if a stage in the
phase reads them. The producer decides by its readers, a reader looks at its producers later:

* `splits_iff`: which visits split a stream, so that it can have side channels;
* `sideRead_items`: a reader gets the elements of each stream that it reads, by ascending producers;
* `side_channels_complete`: so each error and each alert comes to each of its readers once.
-/

namespace Stageflow

/-- A side channel: its elements, its place among the channels of a stage, and who reads it. -/
structure SideChannel (α : Type) where
  element? : Tagged → Option α
  of : Emitted → Option (Dataset α)
  reader : StageKind

namespace SideChannel

variable {α : Type}

def errors : SideChannel ErrorRecord := ⟨Tagged.error?, (·.errors), .errorTransform⟩

def alerts : SideChannel Alert := ⟨Tagged.alert?, (·.alerts), .alertPublisher⟩

/-- The channel of a stage in a registry. -/
def inRegistry (k : SideChannel α) (r : Registry) (n : Name) : Option (Dataset α) :=
  (r.get? n).bind k.of

/-- Streams have the channel if it is read, and other contents do not have it. -/
def Routed (k : SideChannel α) : Prop :=
  ∀ p s c, k.of (Content.visited p s c).emitted =
    match c with
    | .stream elements =>
      Routing.tapped (Taps.hasReader p s.name k.reader) (p.caches s.name)
        (elements.filterMap k.element?)
    | _ => none

theorem errors_routed : errors.Routed := by
  intro p s c
  cases c <;> rfl

theorem alerts_routed : alerts.Routed := by
  intro p s c
  cases c <;> rfl

end SideChannel

/-- Some stage of the phase that is of a given kind reads a stage. -/
def Phase.ReadBy (p : Phase) (n : Name) (kind : StageKind) : Prop :=
  ∃ t, p.stage? t.name = some t ∧ n ∈ p.inputs t.name ∧ t.kind = kind

theorem Phase.Accepted.hasReader_iff {p : Phase} {n : Name} {kind : StageKind}
    (accepted : p.Accepted) : Taps.hasReader p n kind ↔ p.ReadBy n kind := by
  unfold Taps.hasReader ReadBy
  rw [List.any_eq_true]
  constructor
  · rintro ⟨m, reads, some_kind⟩
    cases found : p.stage? m with
    | none => simp [found] at some_kind
    | some t =>
      obtain rfl := accepted.name_eq found
      exact ⟨t, found, Phase.mem_outputs_iff.mp reads, by simpa [found] using some_kind⟩
  · rintro ⟨t, found, reads, rfl⟩
    exact ⟨t.name, Phase.mem_outputs_iff.mpr reads, by simp [found]⟩

/-- The lists of alerts that are published for a stage, in the order of their publication. -/
def publishedBy (stage : Name) (es : List Event) : List (List Alert) :=
  es.filterMap fun
    | .published s alerts => if s = stage then some alerts else none
    | _ => none

section PublishedBy

variable {n : Name} {es : List Event}

theorem publishedBy_eq_nil (unpublished : ∀ alerts, .published n alerts ∉ es) :
    publishedBy n es = [] := by
  refine List.filterMap_eq_nil_iff.mpr fun e he => ?_
  cases e with
  | published s alerts =>
    have other : s ≠ n := by
      rintro rfl
      exact unpublished alerts he
    exact if_neg other
  | _ => rfl

theorem Ledger.alertsOf_postAll (l : Ledger) :
    (l.postAll es).store.alertsOf n = l.store.alertsOf n ++ (publishedBy n es).flatten := by
  induction es generalizing l with
  | nil => simp [postAll, publishedBy]
  | cons e es ih =>
    rw [postAll_cons, ih]
    cases e with
    | published s alerts =>
      by_cases here : s = n <;>
        simp [post, Store.alertsOf, Store.publish, Store.get?_append, publishedBy, here]
    | _ => rfl

end PublishedBy

open Journaled

namespace Walk

variable {α : Type} {w : Walk} {s t : Stage} {r r' : Registry} {n : Name} {g : Graph}
  {out : Scheduled} {k : SideChannel α} {c : Content} {visits : List (Stage × Registry)}

/-! ## Streams -/

/-- Whether a visit splits a stream into channels: that of a source, of a transformation, of an
aggregation, or of errors if the stage reads a channel of them. -/
def splits (w : Walk) (s : Stage) (r : Registry) : Bool :=
  match s.kind with
  | .batchSource | .streamingSource | .transform | .splitterTransform | .aggregator => true
  | .connector => (gather w.phase s r).isEmpty
  | .errorTransform => !(sideRead w.phase s r.errorsOf).isEmpty
  | _ => false

/-- The elements of the stream that a visit splits, if it splits one. -/
def streamed (w : Walk) (s : Stage) (r : Registry) : List Tagged :=
  match w.content? s r with
  | some (.stream elements) => elements
  | _ => []

/-- The elements that some visits of a stage have split. -/
def streamOf (w : Walk) (visits : List (Stage × Registry)) (n : Name) : List Tagged :=
  visits.flatMap fun x => if x.1.name = n then w.streamed x.1 x.2 else []

theorem splits_iff (made : w.content? s r = some c) :
    w.splits s r ↔ ∃ elements, c = .stream elements := by
  have streams : c.outline = .stream [] ↔ ∃ elements, c = .stream elements := by
    cases c <;> simp [Content.outline]
  rw [← streams, content_outline made]
  unfold splits outline
  cases s.kind <;> simp

/-- A visit that splits a stream splits it as a stream that was just made. -/
theorem visit_streamed (made : w.content? s r = some c)
    (ran : (w.visit s r).result = .ok (c.visited w.phase s)) (splits : w.splits s r) :
    (w.visit s r).result = (w.routed s (.of (w.streamed s r))).result := by
  obtain ⟨elements, rfl⟩ := (splits_iff made).mp splits
  rw [ran, routed_result, streamed, made]
  rfl

/-- What a stage shows of a side channel. -/
structure Shows (w : Walk) (k : SideChannel α) (s : Stage) (r : Registry) (e : Emitted) : Prop where
  present : (k.of e).isSome ↔ w.splits s r ∧ w.phase.ReadBy s.name k.reader
  complete : ∀ d, k.of e = some d → d.items = (w.streamed s r).filterMap k.element?

theorem shows_of_content (accepted : w.phase.Accepted) (routed : k.Routed)
    (made : w.content? s r = some c) : w.Shows k s r (c.visited w.phase s).emitted := by
  have splits := splits_iff made
  have channel := routed w.phase s c
  cases c with
  | stream elements =>
    have streamed : w.streamed s r = elements := by simp [streamed, made]
    unfold Routing.tapped at channel
    constructor
    · rw [channel, ← accepted.hasReader_iff, splits]
      simp [apply_ite]
    · intro d shown
      rw [channel] at shown
      dsimp only at shown
      split at shown
      · obtain rfl := Option.some.inj shown
        rw [streamed]
      · cases shown
  | nothing | records rs | write t =>
    constructor
    · simp [channel, splits]
    · intro d shown
      cases channel.symm.trans shown

/-! ## Readers -/

/-- Of visits of different stages, one alone is for a stage. -/
theorem flatMap_visits {β : Type} {f : Stage × Registry → List β}
    (names : (visits.map (·.1.name)).Nodup) (visited : (s, r) ∈ visits)
    (others : ∀ x ∈ visits, x.1.name ≠ s.name → f x = []) : visits.flatMap f = f (s, r) := by
  obtain ⟨before, after, rfl, other⟩ := exists_split_of_nodup names visited
  have none (x : Stage × Registry) (hx : x ∈ before ++ after) : f x = [] :=
    others x (by grind) (other x hx)
  have front : before.flatMap f = [] :=
    List.flatMap_eq_nil_iff.mpr fun x hx => none x (by simp [hx])
  have back : after.flatMap f = [] :=
    List.flatMap_eq_nil_iff.mpr fun x hx => none x (by simp [hx])
  rw [List.flatMap_append, List.flatMap_cons, front, back, List.nil_append, List.append_nil]

/-- What events of a kind are about a stage, the only visit of the stage has left. -/
theorem filterMap_schedule_visit {β : Type} {f : Event → Option β} (accepted : w.phase.Accepted)
    (shape : w.phase.graph = some g) (visited : (s, r) ∈ w.visits g.order [])
    (others : ∀ s' r', s'.name ≠ s.name → (w.visit s' r').events.filterMap f = []) :
    w.schedule.events.filterMap f = (w.visit s r).events.filterMap f := by
  rw [filterMap_schedule shape, flatMap_visits (visits_nodup accepted shape) visited
    fun x _ other => others x.1 x.2 other]

theorem streamOf_visited (names : (visits.map (·.1.name)).Nodup) (visited : (s, r) ∈ visits) :
    w.streamOf visits s.name = w.streamed s r := by
  unfold streamOf
  rw [flatMap_visits names visited fun x _ other => if_neg other, if_pos rfl]

theorem streamOf_unvisited (unvisited : ∀ x ∈ visits, x.1.name ≠ n) : w.streamOf visits n = [] :=
  List.flatMap_eq_nil_iff.mpr fun x hx => if_neg (unvisited x hx)

/-- What a reader of a side channel gets of a producer are the elements of its stream. -/
theorem producer_items (accepted : w.phase.Accepted) (shape : w.phase.graph = some g)
    (ran : w.schedule.result = .ok out) (routed : k.Routed)
    (visited : (s, r) ∈ w.visits g.order []) (kind : s.kind = k.reader)
    (reads : n ∈ w.phase.inputs s.name) (found : w.phase.stage? n = some t) :
    (k.inRegistry r n).elim [] (·.items) =
      (w.streamOf (w.visits g.order []) n).filterMap k.element? := by
  obtain rfl := accepted.name_eq found
  obtain ⟨reader, listed⟩ := visits_stage? accepted visited
  have ahead := accepted.mem_order_of_inputs shape listed reads
  obtain ⟨r', earlier⟩ := exists_visit accepted shape ran ahead found
  obtain ⟨-, c, made, -, entry⟩ := visits_content accepted shape ran earlier
  have channel : k.inRegistry r t.name = k.of (c.visited w.phase t).emitted := by
    have same := visits_sameFor accepted shape ran visited t.name reads (by simp [found])
    rw [SideChannel.inRegistry, same, entry]
    rfl
  have shown := shows_of_content accepted routed made
  have names := (schedule_tasks accepted shape ran).names
  rw [streamOf_visited names earlier, channel]
  cases side : k.of (c.visited w.phase t).emitted with
  | some d => exact shown.complete d side
  | none =>
    -- The producer has this reader, so it can only be that it has split no stream.
    have unsplit : ¬ w.splits t r' := by
      intro splits
      have read : w.phase.ReadBy t.name k.reader := ⟨s, reader, reads, kind⟩
      simpa [side] using shown.present.mpr ⟨splits, read⟩
    have empty : w.streamed t r' = [] := by
      unfold streamed
      rw [made]
      cases c with
      | stream elements => exact absurd ((splits_iff made).mpr ⟨elements, rfl⟩) unsplit
      | _ => rfl
    simp [empty]

/-- A reader of a side channel gets the elements of each stream, by ascending producers. -/
theorem sideRead_items (accepted : w.phase.Accepted) (shape : w.phase.graph = some g)
    (ran : w.schedule.result = .ok out) (routed : k.Routed)
    (visited : (s, r) ∈ w.visits g.order []) (kind : s.kind = k.reader) :
    (sideRead w.phase s (k.inRegistry r)).flatMap (·.items) =
      (w.phase.inputs s.name).flatMap fun n =>
        (w.streamOf (w.visits g.order []) n).filterMap k.element? := by
  unfold sideRead
  rw [List.filterMap_filter, flatMap_filterMap]
  refine List.flatMap_congr fun n reads => ?_
  cases found : w.phase.stage? n with
  | none =>
    have silent : w.streamOf (w.visits g.order []) n = [] := by
      refine streamOf_unvisited fun x hx same => ?_
      have known := (visits_stage? accepted (s := x.1) (r := x.2) hx).1
      rw [same, found] at known
      cases known
    simp [silent]
  | some t => simpa using producer_items accepted shape ran routed visited kind reads found

theorem producers_of_admits (kind : s.kind = .errorTransform ∨ s.kind = .alertPublisher)
    (admitted : w.admits s r = .ok ()) :
    ∃ producers, producersInPhase w.phase s.name = .ok producers := by
  cases found : producersInPhase w.phase s.name with
  | ok producers => exact ⟨producers, rfl⟩
  | error e =>
    rw [admits_side kind, found] at admitted
    cases admitted

/-- What a transformation of errors is given: nothing at all, or the errors that the stage reads. -/
structure GivenErrors (w : Walk) (visits : List (Stage × Registry)) (s : Stage) (r : Registry) :
    Prop where
  idle : sideRead w.phase s r.errorsOf = [] → w.visit s r = pure (publish .empty)
  given : sideRead w.phase s r.errorsOf ≠ [] →
    ∃ errors, errors.items = (sideRead w.phase s r.errorsOf).flatMap (·.items) ∧
      w.visit s r = (w.operators.errorTransform s.name errors).blame s.name >>= w.routed s
  once : (sideRead w.phase s r.errorsOf).flatMap (·.items) =
    (w.phase.inputs s.name).flatMap fun n => (w.streamOf visits n).filterMap Tagged.error?

theorem visit_errors (kind : s.kind = .errorTransform) (admitted : w.admits s r = .ok ()) :
    w.visit s r =
      match Dataset.unionAll (sideRead w.phase s r.errorsOf) with
      | none => pure (publish .empty)
      | some errors =>
        (w.operators.errorTransform s.name errors).blame s.name >>= w.routed s := by
  obtain ⟨producers, found⟩ := producers_of_admits (.inl kind) admitted
  have visited : w.visit s r = w.transformErrors s r := by
    unfold visit
    rw [kind]
  rw [visited, ← sideRead_of_producers found]
  unfold transformErrors
  rw [found]
  exact ofExcept_ok_bind _ _

/-- What a publisher of alerts does: nothing, or it adds the alerts that it reads to the store. -/
structure PublishedAlerts (w : Walk) (visits : List (Stage × Registry)) (s : Stage) (r : Registry) :
    Prop where
  published : publishedBy s.name w.schedule.events =
    if sideRead w.phase s r.alertsOf = [] then []
    else [(sideRead w.phase s r.alertsOf).flatMap (·.items)]
  stored : ∀ l : Ledger, (l.postAll w.schedule.events).store.alertsOf s.name =
    l.store.alertsOf s.name ++ (sideRead w.phase s r.alertsOf).flatMap (·.items)
  once : (sideRead w.phase s r.alertsOf).flatMap (·.items) =
    (w.phase.inputs s.name).flatMap fun n => (w.streamOf visits n).filterMap Tagged.alert?

theorem publishAlerts_events {ops : Operators} {stage : Name} {alerts : Dataset Alert} {u : Unit}
    (ran : (ops.publishAlerts stage alerts).result = .ok u) :
    (ops.publishAlerts stage alerts).events =
      [.called (.apply .publishAlerts stage alerts.extent), .counted stage .input alerts.size,
        .published stage alerts.items] := by
  unfold Operators.publishAlerts at ran ⊢
  rw [Operators.invoke_events ran]
  rfl

theorem visit_alerts (kind : s.kind = .alertPublisher) (admitted : w.admits s r = .ok ()) :
    w.visit s r =
      match Dataset.unionAll (sideRead w.phase s r.alertsOf) with
      | none => pure (publish .empty)
      | some alerts =>
        (w.operators.publishAlerts s.name alerts).blame s.name >>= fun _ =>
          pure (publish .empty) := by
  obtain ⟨producers, found⟩ := producers_of_admits (.inr kind) admitted
  have visited : w.visit s r = w.publishAlerts s r := by
    unfold visit
    rw [kind]
  rw [visited, ← sideRead_of_producers found]
  unfold publishAlerts
  rw [found]
  exact ofExcept_ok_bind _ _

/-- The events of a publisher's visit, if the stage reads any channel of alerts. -/
theorem visit_alerts_events {v : Visited} (kind : s.kind = .alertPublisher)
    (ran : (w.visit s r).result = .ok v) :
    (sideRead w.phase s r.alertsOf = [] ∧ (w.visit s r).events = []) ∨
      ∃ alerts, Dataset.unionAll (sideRead w.phase s r.alertsOf) = some alerts ∧
        (w.visit s r).events =
          [.called (.apply .publishAlerts s.name alerts.extent),
            .counted s.name .input alerts.size, .published s.name alerts.items] := by
  have shape := visit_alerts kind (visit_ok ran).1
  rw [shape] at ran ⊢
  cases union : Dataset.unionAll (sideRead w.phase s r.alertsOf) with
  | none => exact .inl ⟨Dataset.unionAll_eq_none.mp union, rfl⟩
  | some alerts =>
    rw [union] at ran
    obtain ⟨u, published, -⟩ := bind_ok_iff.mp ran
    refine .inr ⟨alerts, rfl, ?_⟩
    dsimp only
    rw [events_bind_pure, events_blame, publishAlerts_events (blame_ok published)]

/-- The visit of a publisher publishes what the stage reads, if it reads anything. -/
theorem visit_publishes {v : Visited} (kind : s.kind = .alertPublisher)
    (ran : (w.visit s r).result = .ok v) :
    publishedBy s.name (w.visit s r).events =
      if sideRead w.phase s r.alertsOf = [] then []
      else [(sideRead w.phase s r.alertsOf).flatMap (·.items)] := by
  rcases visit_alerts_events kind ran with ⟨silent, none⟩ | ⟨alerts, union, left⟩
  · rw [none, if_pos silent]
    rfl
  · have read : sideRead w.phase s r.alertsOf ≠ [] := by
      intro silent
      simp [silent, Dataset.unionAll] at union
    rw [left, if_neg read, ← Dataset.unionAll_items union]
    simp [publishedBy]

/-- A visit publishes for nobody but its stage, and only if that is a publisher. -/
theorem visit_publishes_nothing (other : s.kind = .alertPublisher → s.name ≠ n) :
    publishedBy n (w.visit s r).events = [] := by
  refine publishedBy_eq_nil fun alerts published => ?_
  obtain ⟨same, kind⟩ := visit_leaves _ published
  exact other kind same.symm

/--
**Each error and each alert reaches each of its readers once.** The entry of a stage has a side
channel if the visit of the stage has split a stream and a stage in the phase reads the channel,
which then holds all elements of its kind in that stream. A stage that reads such channels is given
those of its producers in one list, by ascending producers; a publisher adds that list to the store.
-/
theorem side_channels_complete (w : Walk) (accepted : w.phase.Accepted) (g : Graph)
    (shape : w.phase.graph = some g) (out : Scheduled) (ran : w.schedule.result = .ok out) :
    let visits := w.visits g.order []
    out.registry.stages = visits.map (·.1.name) ∧
    (∀ s r, (s, r) ∈ visits →
      (∃ e, out.registry.get? s.name = some e ∧ w.Shows .errors s r e ∧ w.Shows .alerts s r e) ∧
      (w.splits s r → (w.visit s r).result = (w.routed s (.of (w.streamed s r))).result) ∧
      (w.phase.inputs s.name).Pairwise (· < ·) ∧
      (s.kind = .errorTransform → w.GivenErrors visits s r) ∧
      (s.kind = .alertPublisher → w.PublishedAlerts visits s r)) ∧
    ∀ n, (∀ s r, (s, r) ∈ visits → s.kind = .alertPublisher → s.name ≠ n) →
      publishedBy n w.schedule.events = [] := by
  intro visits
  refine ⟨schedule_stages accepted shape ran, fun s r visited => ?_, fun n others => ?_⟩
  · obtain ⟨admitted, c, made, ran', entry⟩ := visits_content accepted shape ran visited
    refine ⟨⟨_, entry, shows_of_content accepted SideChannel.errors_routed made,
      shows_of_content accepted SideChannel.alerts_routed made⟩, visit_streamed made ran',
      w.phase.inputs_ascending s.name, fun kind => ?_, fun kind => ?_⟩
    · have visit_eq := visit_errors kind admitted
      constructor
      case idle =>
        intro empty
        rw [visit_eq, empty]
        rfl
      case given =>
        intro nonempty
        obtain ⟨errors, union⟩ :=
          Option.ne_none_iff_exists'.mp (Dataset.unionAll_eq_none.not.mpr nonempty)
        refine ⟨errors, Dataset.unionAll_items union, ?_⟩
        rw [visit_eq, union]
      case once =>
        exact sideRead_items accepted shape ran SideChannel.errors_routed visited kind
    · have published : publishedBy s.name w.schedule.events =
          if sideRead w.phase s r.alertsOf = [] then []
          else [(sideRead w.phase s r.alertsOf).flatMap (·.items)] := by
        rw [publishedBy, filterMap_schedule_visit accepted shape visited
          fun s' r' other => visit_publishes_nothing fun _ => other]
        exact visit_publishes kind ran'
      constructor
      case published => exact published
      case stored =>
        intro l
        rw [Ledger.alertsOf_postAll, published]
        split
        · next empty => simp [empty]
        · rw [List.flatten_singleton]
      case once =>
        exact sideRead_items accepted shape ran SideChannel.alerts_routed visited kind
  · rw [publishedBy, filterMap_schedule shape]
    exact List.flatMap_eq_nil_iff.mpr fun x visited =>
      visit_publishes_nothing (others x.1 x.2 visited)

/-- A source that a transformation of errors and a publisher of alerts read. -/
def rejecting : PhaseSpec where
  stages := [.plain "a" .batchSource, .plain "e" .errorTransform, .plain "p" .alertPublisher]
  connections := [("a", "e"), ("a", "p")]

/-- The phase of these stages. -/
def rejectingPhase : Phase where
  stages :=
    [("a", .plain "a" .batchSource), ("e", .plain "e" .errorTransform),
      ("p", .plain "p" .alertPublisher)]
  graph := some ⟨["a", "e", "p"], rejecting.connections, ["a", "p", "e"]⟩

/-- A walk over it, with a record, an error and an alert in the source. -/
def rejectingWalk : Walk :=
  { bare rejectingPhase with
    operators :=
      { Operators.empty with
        sources := [("a", [.plain .null, .error ⟨.null, 7, "late", "a"⟩, .alert ⟨"a", []⟩])] } }

theorem rejecting_read : Phase.ofSpec rejecting = .ok rejectingWalk.phase := by cbv

theorem rejecting_accepted : rejectingWalk.phase.Accepted := Phase.accepted_ofSpec rejecting_read

/-- The entry of the source when the other stages are visited. -/
def rejectingEntry : Emitted where
  output := .main ⟨[.null], true⟩
  errors := some ⟨[⟨.null, 7, "late", "a"⟩], true⟩
  alerts := some ⟨[⟨"a", []⟩], true⟩

theorem rejecting_visits :
    rejectingWalk.visits ["a", "p", "e"] [] =
      [(.plain "a" .batchSource, []), (.plain "p" .alertPublisher, [("a", rejectingEntry)]),
        (.plain "e" .errorTransform, [("a", rejectingEntry), ("p", .empty)])] := rfl

/-- The source has both channels, the alert is published, and the error is given to its reader. -/
theorem side_channels_complete_rejecting :
    let entries : Registry := [("a", rejectingEntry), ("p", .empty)]
    let errors := sideRead rejectingPhase (.plain "e" .errorTransform) entries.errorsOf
    rejectingWalk.splits (.plain "a" .batchSource) [] ∧
      rejectingWalk.phase.ReadBy "a" .errorTransform ∧
      publishedBy "p" rejectingWalk.schedule.events = [[⟨"a", []⟩]] ∧
      errors.flatMap (·.items) = [⟨.null, 7, "late", "a"⟩] := by
  have ran : rejectingWalk.schedule.result = .ok ⟨_, _⟩ := rfl
  obtain ⟨-, each, -⟩ := side_channels_complete rejectingWalk rejecting_accepted
    ⟨["a", "e", "p"], rejecting.connections, ["a", "p", "e"]⟩ rfl _ ran
  rw [rejecting_visits] at each
  obtain ⟨⟨e, entry, errors, -⟩, -⟩ := each (.plain "a" .batchSource) _ (.head _)
  obtain ⟨-, -, -, -, alerts⟩ := each (.plain "p" .alertPublisher) _ (.tail _ (.head _))
  obtain ⟨-, -, -, given, -⟩ :=
    each (.plain "e" .errorTransform) _ (.tail _ (.tail _ (.head _)))
  obtain rfl : rejectingEntry = e := Option.some.inj entry
  obtain ⟨splits, read⟩ := errors.present.mp rfl
  exact ⟨splits, read, (alerts rfl).published, (given rfl).once⟩

end Walk

end Stageflow
