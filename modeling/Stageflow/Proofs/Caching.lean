import Mathlib.Data.Finset.Card
import Stageflow.Proofs.SideChannels

/-!
# What is kept

A dataset that several stages read is marked as kept. The graph decides on the channels of a stage;
on the stream that is split into them decide the ports of the stage and the readers in its phase:

* `caches_iff`: a name is kept if it has two readers, or one of its readers has two producers;
* `splitsOf_route`: a stream is kept exactly if it is split more than once;
* `schedule_kept`: so all that a walk keeps is told by the connections and the stages.
-/

namespace Stageflow

theorem Names.one_lt_length_sorted {ns : List Name} :
    1 < (sorted ns).length ↔ ∃ a b, a ∈ ns ∧ b ∈ ns ∧ a ≠ b := by
  rw [← List.toFinset_card_of_nodup (sorted_nodup ns), Finset.one_lt_card_iff]
  simp only [List.mem_toFinset, mem_sorted]

namespace Graph

variable {names : List Name} {connections : List Edge} {g : Graph} {n : Name}

/-- By some connections a name has two readers, or one of its readers has two producers. -/
def Shared (connections : List Edge) (n : Name) : Prop :=
  (∃ a b, (n, a) ∈ connections ∧ (n, b) ∈ connections ∧ a ≠ b) ∨
    ∃ c a b, (n, c) ∈ connections ∧ (a, c) ∈ connections ∧ (b, c) ∈ connections ∧ a ≠ b

theorem linked_iff (built : build names connections = .ok g) {a b : Name} :
    Linked g.edges a b ↔ (a, b) ∈ connections := by
  rw [Linked, (build_ok built).2.1, mem_distinct]

theorem one_lt_outDegree (built : build names connections = .ok g) :
    1 < g.outDegree n ↔ ∃ a b, (n, a) ∈ connections ∧ (n, b) ∈ connections ∧ a ≠ b := by
  rw [outDegree, outputs, Names.one_lt_length_sorted]
  simp only [mem_readers, linked_iff built]

theorem one_lt_inDegree (built : build names connections = .ok g) :
    1 < g.inDegree n ↔ ∃ a b, (a, n) ∈ connections ∧ (b, n) ∈ connections ∧ a ≠ b := by
  rw [inDegree, inputs, Names.one_lt_length_sorted]
  simp only [mem_producers, linked_iff built]

/-- The policy of a graph, told by the connections that it is built of. -/
theorem caches_iff (built : build names connections = .ok g) :
    g.caches n ↔ Shared connections n := by
  have several := one_lt_outDegree built (n := n)
  unfold caches cacheReason
  dsimp only
  split
  · next many =>
    have shared : Shared connections n := .inl (several.mp many)
    simp [shared]
  · next few =>
    have read_once := few ∘ several.mpr
    rw [Option.isSome_map, List.find?_isSome]
    unfold Shared
    constructor
    · rintro ⟨c, reads, several_inputs⟩
      have linked := (linked_iff built).mp (mem_readers.mp (Names.mem_sorted.mp reads))
      obtain ⟨a, b, ha, hb, other⟩ := (one_lt_inDegree built).mp (by simpa using several_inputs)
      exact .inr ⟨c, a, b, linked, ha, hb, other⟩
    · rintro (twice | ⟨c, a, b, linked, ha, hb, other⟩)
      · exact absurd twice read_once
      · have reads : c ∈ g.outputs n :=
          Names.mem_sorted.mpr (mem_readers.mpr ((linked_iff built).mpr linked))
        have several_inputs := (one_lt_inDegree built).mpr ⟨a, b, ha, hb, other⟩
        exact ⟨c, reads, by simpa using several_inputs⟩

end Graph

/-! ## Channels -/

/-- All channels of a stage are kept, or none is, as a condition says. -/
structure Emitted.KeptIf (e : Emitted) (kept : Prop) : Prop where
  main : ∀ d, e.output = .main d → (d.cached ↔ kept)
  ports : ∀ t, e.output = .ports t → ∀ x ∈ t, (x.2.cached ↔ kept)
  errors : ∀ d, e.errors = some d → (d.cached ↔ kept)
  alerts : ∀ d, e.alerts = some d → (d.cached ↔ kept)

theorem Emitted.empty_keptIf {kept : Prop} : Emitted.empty.KeptIf kept := by
  constructor <;> exact fun _ none => nomatch none

theorem Routing.tapped_cached {α : Type} {on keep : Bool} {items : List α} {d : Dataset α}
    (found : tapped on keep items = some d) : d.cached = keep := by
  unfold tapped at found
  split at found
  · obtain rfl := Option.some.inj found
    rfl
  · cases found

theorem Routing.channels_keptIf {p : Phase} {s : Stage} {taps : Taps} {elements : List Tagged} :
    (channels p s taps elements).KeptIf (p.caches s.name) := by
  constructor
  case main =>
    intro d shown
    unfold channels outputOf at shown
    dsimp only at shown
    split at shown
    · obtain rfl := StageOutput.main.inj shown
      rfl
    · cases shown
  case ports =>
    intro t shown x hx
    unfold channels outputOf at shown
    dsimp only at shown
    split at shown
    · cases shown
    · obtain rfl := StageOutput.ports.inj shown
      obtain ⟨port, -, rfl⟩ := List.mem_map.mp hx
      rfl
  case errors => exact fun d found => by rw [tapped_cached found]
  case alerts => exact fun d found => by rw [tapped_cached found]

theorem Content.visited_keptIf {p : Phase} {s : Stage} {c : Content} (kind : s.kind ≠ .joiner) :
    (c.visited p s).emitted.KeptIf (p.caches s.name) := by
  cases c with
  | nothing | write t => exact Emitted.empty_keptIf
  | stream elements => exact Routing.channels_keptIf
  | records rs =>
    have other : (s.kind == .joiner) = false := by simpa using kind
    constructor
    case main =>
      intro d shown
      obtain rfl := StageOutput.main.inj shown
      rw [other, Bool.false_or]
    all_goals exact fun _ none => nomatch none

/-! ## Streams -/

/-- Whether the stream of a stage was kept, each time that it was split. -/
def splitsOf (stage : Name) (es : List Event) : List Bool :=
  es.filterMap fun
    | .split s kept => if s = stage then some kept else none
    | _ => none

section SplitsOf

variable {n : Name} {es es' : List Event}

theorem splitsOf_append : splitsOf n (es ++ es') = splitsOf n es ++ splitsOf n es' :=
  List.filterMap_append

theorem splitsOf_eq_nil (unsplit : ∀ kept, .split n kept ∉ es) : splitsOf n es = [] := by
  refine List.filterMap_eq_nil_iff.mpr fun e he => ?_
  cases e with
  | split s kept =>
    have other : s ≠ n := by
      rintro rfl
      exact unsplit kept he
    exact if_neg other
  | _ => rfl

/-- Of a stage the ledger tells how its stream was split last. -/
theorem Ledger.splits_postAll (l : Ledger) :
    (l.postAll es).splits.get? n = (splitsOf n es).getLast?.or (l.splits.get? n) := by
  induction es generalizing l with
  | nil => rfl
  | cons e es ih =>
    rw [postAll_cons, ih]
    cases e with
    | split s kept =>
      by_cases here : s = n <;>
        simp [post, Table.get?_insert, splitsOf, here, List.getLast?_cons]
    | _ => rfl

end SplitsOf

open Journaled

namespace Routing

variable {ε α : Type} {n : Name} {s : Stage} {combined : Dataset Tagged} {keep : Bool}

theorem splitsOf_splitOff {call : Call} {stage : Name} {element? : Tagged → Option α} :
    splitsOf stage (Operators.splitOff call stage combined element? : Journaled ε _).events =
      [combined.cached] := by
  simp [Operators.splitOff, splitsOf, bind, pure, note]

theorem splitsOf_whenTapped {on kept : Bool} {channel : Journaled ε α}
    (once : splitsOf n channel.events = [kept]) :
    splitsOf n (whenTapped on channel).events = List.replicate on.toNat kept := by
  cases on with
  | false => rfl
  | true =>
    rw [whenTapped, if_pos rfl, events_map, once]
    rfl

theorem splitsOf_portChannels (ports : List Name) :
    splitsOf s.name (portChannels s combined keep ports : Journaled ε _).events =
      List.replicate ports.length combined.cached := by
  induction ports with
  | nil => rfl
  | cons port ports ih =>
    unfold portChannels
    rw [bind_of_ok _ rfl, splitsOf_append, events_bind_pure, ih]
    exact congrArg (· ++ _) splitsOf_splitOff

theorem splitsOf_outputChannels :
    splitsOf s.name (outputChannels s combined keep : Journaled ε _).events =
      List.replicate (max 1 s.portNames.length) combined.cached := by
  unfold outputChannels
  split
  · next none =>
    rw [events_bind_pure, none]
    exact splitsOf_splitOff
  · next some_port =>
    have ports : 1 ≤ s.portNames.length := List.length_pos_iff.mpr some_port
    rw [events_bind_pure, splitsOf_portChannels, Nat.max_eq_right ports]

/-- How often the stream of a stage is split: for each side channel that is read, and for each of
its ports, or for the main channel. -/
def cuts (s : Stage) (taps : Taps) : Nat :=
  taps.errors.toNat + taps.alerts.toNat + max 1 s.portNames.length

theorem splits_eq (s : Stage) (taps : Taps) : splits s taps = decide (1 < cuts s taps) := by
  rw [Bool.eq_iff_iff, decide_eq_true_iff]
  unfold splits cuts
  cases taps.errors <;> cases taps.alerts <;> simp
  omega

/-- A stream is kept exactly if it is split more than once. -/
theorem splitsOf_route (p : Phase) (taps : Taps) (unkept : combined.cached = false) :
    splitsOf s.name (route p s combined taps : Journaled ε _).events =
      List.replicate (cuts s taps) (decide (1 < cuts s taps)) := by
  let stream := combined.cacheIf (splits s taps)
  have kept : stream.cached = decide (1 < cuts s taps) := by
    rw [← splits_eq]
    cases several : splits s taps <;> simp [stream, several, Dataset.cacheIf, Dataset.cache, unkept]
  let errors_of : Journaled ε _ := Operators.errorRecords s.name stream
  let alerts_of : Journaled ε _ := Operators.alertRecords s.name stream
  let output_of : Journaled ε _ := outputChannels s stream (p.caches s.name)
  have errors_made : errors_of.result = .ok (.of (stream.items.filterMap Tagged.error?)) := rfl
  have alerts_made : alerts_of.result = .ok (.of (stream.items.filterMap Tagged.alert?)) := rfl
  obtain ⟨errors, first, -⟩ := whenTapped_result taps.errors false errors_made
  obtain ⟨alerts, second, -⟩ := whenTapped_result taps.alerts false alerts_made
  have parts : (route p s combined taps : Journaled ε _).events =
      (whenTapped taps.errors errors_of).events ++
        ((whenTapped taps.alerts alerts_of).events ++ output_of.events) := by
    unfold route
    dsimp only
    rw [bind_of_ok _ first, bind_of_ok _ second, events_bind_pure]
  have errors_cut : splitsOf s.name (whenTapped taps.errors errors_of).events =
      List.replicate taps.errors.toNat stream.cached := splitsOf_whenTapped splitsOf_splitOff
  have alerts_cut : splitsOf s.name (whenTapped taps.alerts alerts_of).events =
      List.replicate taps.alerts.toNat stream.cached := splitsOf_whenTapped splitsOf_splitOff
  rw [parts, splitsOf_append, splitsOf_append, errors_cut, alerts_cut, splitsOf_outputChannels,
    List.replicate_append_replicate, List.replicate_append_replicate, kept, cuts, Nat.add_assoc]

end Routing

/-- An event that does not split a stream. -/
def Event.Unsplit : Event → Prop
  | .split .. => False
  | _ => True

/-- A step that makes a stream: the stream is not kept yet, and none was split. -/
structure Journaled.MakesStream {ε : Type} (x : Journaled ε (Dataset Tagged)) : Prop where
  unkept : ∀ d, x.result = .ok d → d.cached = false
  unsplit : x.Leaves Event.Unsplit

namespace Journaled.MakesStream

variable {ε α : Type}

theorem fail (e : ε) : (Journaled.fail e : Journaled ε (Dataset Tagged)).MakesStream :=
  ⟨fun _ none => (nomatch none), leaves_fail e⟩

theorem bind {x : Journaled ε α} {f : α → Journaled ε (Dataset Tagged)}
    (first : x.Leaves Event.Unsplit) (next : ∀ a, (f a).MakesStream) : (x >>= f).MakesStream := by
  constructor
  · intro d ran
    obtain ⟨a, -, rest⟩ := bind_ok_iff.mp ran
    exact (next a).unkept d rest
  · exact first.bind fun a => (next a).unsplit

theorem blame {x : Journaled Failure (Dataset Tagged)} {stage : Name} (made : x.MakesStream) :
    (x.blame stage).MakesStream :=
  ⟨fun d ran => made.unkept d (blame_ok ran), made.unsplit.blame⟩

end Journaled.MakesStream

namespace Operators

variable {ε : Type} {ops : Operators} {stage : Name}

theorem invoke_makes {call : Call} {body : Journaled Failure (Dataset Tagged)}
    (made : body.MakesStream) : (ops.invoke call body).MakesStream := by
  refine .bind (leaves_note trivial) fun _ => ?_
  split
  · exact .fail _
  · exact made

theorem emit_makes {input : Nat} {out : List Tagged} :
    (emit stage input out : Journaled ε _).MakesStream := by
  have counts : (countTagged stage input out : Journaled ε Unit).Leaves Event.Unsplit := by
    refine .after trivial ?_
    refine .after trivial ?_
    exact leaves_note trivial
  refine .bind counts fun _ => ⟨fun d made => ?_, leaves_pure _⟩
  obtain rfl := Except.ok.inj made
  rfl

theorem source_makes : (ops.source stage).MakesStream := by
  refine invoke_makes ?_
  exact .bind (leaves_ofExcept _) fun _ => emit_makes

theorem aggregate_makes {race : Race} {input : Dataset Json} {hint : Option Nat} :
    (ops.aggregate race stage input hint).MakesStream := by
  refine invoke_makes ?_
  refine .bind (leaves_ofExcept _) fun aggregation => ?_
  refine .bind (leaves_note trivial) fun _ => ?_
  exact .bind (leaves_ofExcept _) fun _ => emit_makes

end Operators

namespace Walk

variable {w : Walk} {s : Stage} {r : Registry} {g : Graph} {out : Scheduled} {v : Visited}

theorem Makes.makesStream {x : Step (Dataset Tagged)} (makes : w.Makes s r x) : x.MakesStream := by
  cases makes with
  | source => exact .bind (leaves_ofExcept _) fun _ => Operators.source_makes.blame
  | errors | transformed | split => exact (Operators.invoke_makes Operators.emit_makes).blame
  | aggregated => exact Operators.aggregate_makes.blame

/-- A visit that splits a stream makes it first, and then splits it into channels. -/
theorem visit_makes (splits : w.splits s r) (ran : (w.visit s r).result = .ok v) :
    ∃ x : Step (Dataset Tagged), w.Makes s r x ∧ w.visit s r = x >>= w.routed s := by
  have admitted := (visit_ok ran).1
  have of_source (kind : s.kind.readsRecords)
      (none : Dataset.unionAll ((gather w.phase s r).map (·.2)) = none) :
      ∃ x : Step (Dataset Tagged), w.Makes s r x ∧ w.readSource s = x >>= w.routed s := by
    refine ⟨_, .source kind (List.map_eq_nil_iff.mp (Dataset.unionAll_eq_none.mp none)), ?_⟩
    rw [bind_assoc]
    rfl
  cases kind : s.kind with
  | errorTransform =>
    rw [visit_errors kind admitted]
    cases union : Dataset.unionAll (sideRead w.phase s r.errorsOf) with
    | none =>
      have silent := Dataset.unionAll_eq_none.mp union
      simp [Walk.splits, kind, silent] at splits
    | some errors =>
      have read : sideRead w.phase s r.errorsOf ≠ [] := by
        intro silent
        simp [silent, Dataset.unionAll] at union
      exact ⟨_, .errors kind read (Dataset.unionAll_items union), rfl⟩
  | batchSource | streamingSource =>
    simp only [visit, kind] at ran ⊢
    cases union : Dataset.unionAll ((gather w.phase s r).map (·.2)) with
    | none => exact of_source (by rw [kind]; rfl) union
    | some input => simp [union, visitWith, kind] at ran
  | connector =>
    have unread : gather w.phase s r = [] := by simpa [Walk.splits, kind] using splits
    simp only [visit, kind, unread]
    exact of_source (by rw [kind]; rfl) (by rw [unread]; rfl)
  | transform | splitterTransform | aggregator =>
    simp only [visit, kind]
    cases union : Dataset.unionAll ((gather w.phase s r).map (·.2)) with
    | none => exact of_source (by rw [kind]; rfl) union
    | some input =>
      simp only [visitWith, kind]
      first
      | exact ⟨_, .transformed kind (gathered_items union), rfl⟩
      | exact ⟨_, .split kind (gathered_items union), rfl⟩
      | exact ⟨_, .aggregated kind (gathered_items union) _, rfl⟩
  | sink | alertPublisher | compute | pluginSink | joiner | windower | action =>
    simp [Walk.splits, kind] at splits

/-- The stream of a visit is kept exactly if the visit splits it more than once. -/
theorem visit_splitsOf (splits : w.splits s r) (ran : (w.visit s r).result = .ok v) :
    splitsOf s.name (w.visit s r).events =
      List.replicate (Routing.cuts s (.ofStage w.phase s.name))
        (decide (1 < Routing.cuts s (.ofStage w.phase s.name))) := by
  obtain ⟨x, makes, shape⟩ := visit_makes splits ran
  rw [shape] at ran ⊢
  obtain ⟨d, made, -⟩ := bind_ok_iff.mp ran
  have before : splitsOf s.name x.events = [] :=
    splitsOf_eq_nil fun kept split => makes.makesStream.unsplit _ split
  rw [bind_of_ok _ made, splitsOf_append, before, List.nil_append, routed, events_map]
  exact Routing.splitsOf_route w.phase _ (makes.makesStream.unkept d made)

/-- The stream of a stage branches: it has a reader for a side channel, or two different ports. -/
def Branches (p : Phase) (s : Stage) : Prop :=
  p.ReadBy s.name .errorTransform ∨ p.ReadBy s.name .alertPublisher ∨
    ∃ a b, a ∈ s.ports.values ∧ b ∈ s.ports.values ∧ a ≠ b

theorem one_lt_cuts (accepted : w.phase.Accepted) :
    1 < Routing.cuts s (.ofStage w.phase s.name) ↔ Branches w.phase s := by
  have policy : 1 < Routing.cuts s (.ofStage w.phase s.name) ↔
      Routing.splits s (.ofStage w.phase s.name) := by
    rw [Routing.splits_eq, decide_eq_true_iff]
  rw [policy, Branches, ← accepted.hasReader_iff, ← accepted.hasReader_iff,
    ← Names.one_lt_length_sorted, ← Stage.portNames]
  simp [Routing.splits, Taps.ofStage, or_assoc]

/-- A visit splits no stream but that of its stage. -/
theorem visit_splitsOf_other {n : Name} (other : s.name ≠ n) :
    splitsOf n (w.visit s r).events = [] :=
  splitsOf_eq_nil fun _ split => other (visit_leaves _ split).symm

/-- The ledger tells of the stream of a stage what its only visit has left. -/
theorem schedule_splits (accepted : w.phase.Accepted) (shape : w.phase.graph = some g)
    (ran : w.schedule.result = .ok out) (visited : (s, r) ∈ w.visits g.order [])
    (splits : w.splits s r) (l : Ledger) :
    (l.postAll w.schedule.events).splits.get? s.name =
      some (decide (1 < Routing.cuts s (.ofStage w.phase s.name))) := by
  obtain ⟨-, c, -, ended, -⟩ := visits_content accepted shape ran visited
  have once : splitsOf s.name w.schedule.events = splitsOf s.name (w.visit s r).events :=
    filterMap_schedule_visit accepted shape visited fun _ _ other => visit_splitsOf_other other
  have some_cut : Routing.cuts s (.ofStage w.phase s.name) ≠ 0 := by
    unfold Routing.cuts
    omega
  rw [l.splits_postAll, once, visit_splitsOf splits ended, List.getLast?_replicate,
    if_neg some_cut, Option.some_or]

/-- What is kept of a stage, by the connections, at the end of a walk. -/
structure Kept (w : Walk) (connections : List Edge) (s : Stage) (r : Registry) (e : Emitted) :
    Prop where
  channels : s.kind ≠ .joiner → e.KeptIf (Graph.Shared connections s.name)
  joined : s.kind = .joiner → ∃ d, e = .main d ∧ d.cached
  /-- If the visit has split a stream, the ledger tells whether the stream was kept. -/
  stream : w.splits s r → ∀ l : Ledger, ∃ kept : Bool,
    (l.postAll w.schedule.events).splits.get? s.name = some kept ∧
      (kept ↔ Branches w.phase s)

/--
**What is kept is told by the connections.** After a walk the channels of a stage are kept if its
name has two readers by the connections, or one of its readers has two producers, and else none of
them is, be they of a stream or not. What a joiner emits is always kept. A stream that was split is
kept if it has a reader for a side channel in the phase, or two different ports.
-/
theorem schedule_kept (w : Walk) (accepted : w.phase.Accepted) (names : List Name)
    (connections : List Edge) (g : Graph) (built : Graph.build names connections = .ok g)
    (shape : w.phase.graph = some g) (out : Scheduled) (ran : w.schedule.result = .ok out) :
    out.registry.stages = (w.visits g.order []).map (·.1.name) ∧
      ∀ s r, (s, r) ∈ w.visits g.order [] →
        ∃ e, out.registry.get? s.name = some e ∧ w.Kept connections s r e := by
  refine ⟨schedule_stages accepted shape ran, fun s r visited => ?_⟩
  obtain ⟨-, c, made, ended, entry⟩ := visits_content accepted shape ran visited
  refine ⟨_, entry, ?_⟩
  constructor
  case channels =>
    intro kind
    have policy : w.phase.caches s.name ↔ Graph.Shared connections s.name := by
      rw [Phase.caches, shape]
      exact Graph.caches_iff built
    have kept := Content.visited_keptIf (p := w.phase) (c := c) kind
    rwa [policy] at kept
  case joined =>
    intro kind
    have records : c.outline = .records [] := by
      rw [content_outline made, outline, kind]
    cases c with
    | records rs => exact ⟨_, rfl, by simp [kind]⟩
    | nothing | stream elements | write t => cases records
  case stream =>
    intro splits l
    refine ⟨_, schedule_splits accepted shape ran visited splits l, ?_⟩
    rw [decide_eq_true_iff]
    exact one_lt_cuts accepted

/-- The source has two readers, and its stream is kept for their channels and the main one. -/
theorem schedule_kept_rejecting :
    Graph.Shared rejecting.connections "a" ∧
      Branches rejectingWalk.phase (.plain "a" .batchSource) ∧
      (Ledger.empty.postAll rejectingWalk.schedule.events).splits.get? "a" = some true := by
  have ran : rejectingWalk.schedule.result = .ok ⟨_, _⟩ := rfl
  have built : Graph.build ["a", "e", "p"] rejecting.connections =
      .ok ⟨["a", "e", "p"], rejecting.connections, ["a", "p", "e"]⟩ := by cbv
  obtain ⟨-, each⟩ := schedule_kept rejectingWalk rejecting_accepted _ _ _ built rfl _ ran
  rw [rejecting_visits] at each
  obtain ⟨e, entry, kept⟩ := each (.plain "a" .batchSource) _ (.head _)
  obtain rfl : rejectingEntry = e := Option.some.inj entry
  have channels := kept.channels (by simp [Stage.plain])
  have shared : Graph.Shared rejecting.connections "a" := (channels.main _ rfl).mp rfl
  obtain ⟨flag, found, policy⟩ := kept.stream rfl .empty
  obtain rfl : true = flag := Option.some.inj found
  exact ⟨shared, policy.mp rfl, found⟩

end Walk

end Stageflow
