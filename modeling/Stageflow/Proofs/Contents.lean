import Stageflow.Proofs.Deferred
import Stageflow.Proofs.Groups
import Stageflow.Proofs.JoinedRows

/-!
# Contents of visits

All that a visit can do, said once:

* `Walk.content?` is what a visit makes of what its stage reads, and `Content.visited` what it
  leaves of it: the readers of the stage only decide on side channels and on what is kept;
* `Walk.admits` are the conditions on which a stage is refused, whatever its operator does;
* `visit_outcome`: a visit leaves its content, refuses its stage, or blames its operator.
-/

namespace Stageflow

namespace Journaled

variable {α : Type} {x : Journaled Failure α} {stage : Name}

theorem blame_ok {a : α} (h : (x.blame stage).result = .ok a) : x.result = .ok a := by
  cases ran : x.result <;> simp_all [blame, mapError]

theorem blame_error {e : FlowError} (h : (x.blame stage).result = .error e) :
    ∃ failure, e = .collaborator stage failure := by
  cases ran : x.result with
  | error failure => exact ⟨failure, by simpa [blame, mapError, ran] using h.symm⟩
  | ok a => simp [blame, mapError, ran] at h

end Journaled

open Journaled

/-! ## Channels of a stream -/

namespace Routing

variable {ε : Type} {s : Stage} {combined : Dataset Tagged} {keep : Bool}

/-- The output channels of a stage for the elements of its stream. -/
def outputOf (s : Stage) (keep : Bool) (elements : List Tagged) : StageOutput :=
  if s.portNames = [] then .main ⟨elements.filterMap (Tagged.outputOn none), keep⟩
  else
    .ports (s.portNames.map fun port =>
      (port, ⟨elements.filterMap (Tagged.outputOn (some port)), keep⟩))

/-- A channel of some items, if it is tapped. -/
def tapped {α : Type} (on keep : Bool) (items : List α) : Option (Dataset α) :=
  if on then some ⟨items, keep⟩ else none

/-- The channels of a stage for the elements of its stream. -/
def channels (p : Phase) (s : Stage) (taps : Taps) (elements : List Tagged) : Emitted where
  output := outputOf s (p.caches s.name) elements
  errors := tapped taps.errors (p.caches s.name) (elements.filterMap Tagged.error?)
  alerts := tapped taps.alerts (p.caches s.name) (elements.filterMap Tagged.alert?)

theorem cacheIf_of {α : Type} (items : List α) :
    (Dataset.of items).cacheIf keep = ⟨items, keep⟩ := by
  cases keep <;> rfl

theorem cacheIf_items {α : Type} (keep : Bool) (d : Dataset α) :
    (d.cacheIf keep).items = d.items := by
  cases keep <;> rfl

theorem portChannels_result (ports : List Name) :
    (portChannels s combined keep ports : Journaled ε _).result =
      .ok (ports.map fun port =>
        (port, ⟨combined.items.filterMap (Tagged.outputOn (some port)), keep⟩)) := by
  induction ports with
  | nil => rfl
  | cons port ports ih =>
    refine bind_ok_iff.mpr ⟨_, rfl, bind_ok_iff.mpr ⟨_, ih, ?_⟩⟩
    rw [cacheIf_of]
    rfl

theorem outputChannels_result :
    (outputChannels s combined keep : Journaled ε _).result =
      .ok (outputOf s keep combined.items) := by
  unfold outputChannels
  split
  · next none =>
    refine bind_ok_iff.mpr ⟨_, rfl, ?_⟩
    rw [cacheIf_of, outputOf, if_pos none]
    rfl
  · next some_port =>
    refine bind_ok_iff.mpr ⟨_, portChannels_result _, ?_⟩
    rw [outputOf, if_neg some_port]
    rfl

theorem whenTapped_result {α : Type} (on keep : Bool) {channel : Journaled ε (Dataset α)}
    {items : List α} (h : channel.result = .ok (.of items)) :
    ∃ d, (whenTapped on channel).result = .ok d ∧
      d.map (·.cacheIf keep) = tapped on keep items := by
  cases on with
  | false => exact ⟨none, rfl, rfl⟩
  | true =>
    refine ⟨some (.of items), map_ok_iff.mpr ⟨_, h, rfl⟩, ?_⟩
    rw [Option.map_some, cacheIf_of]
    rfl

end Routing

/-- A stream is split into the channels of its elements, whatever is kept on the way. -/
theorem route_result {ε : Type} (p : Phase) (s : Stage) (combined : Dataset Tagged) (taps : Taps) :
    (route p s combined taps : Journaled ε Emitted).result =
      .ok (Routing.channels p s taps combined.items) := by
  let kept := combined.cacheIf (Routing.splits s taps)
  have same : kept.items = combined.items := Routing.cacheIf_items _ combined
  have errors_made : (Operators.errorRecords s.name kept : Journaled ε _).result =
      .ok (.of (kept.items.filterMap Tagged.error?)) := rfl
  have alerts_made : (Operators.alertRecords s.name kept : Journaled ε _).result =
      .ok (.of (kept.items.filterMap Tagged.alert?)) := rfl
  obtain ⟨errors, first, errors_eq⟩ :=
    Routing.whenTapped_result taps.errors (p.caches s.name) errors_made
  obtain ⟨alerts, second, alerts_eq⟩ :=
    Routing.whenTapped_result taps.alerts (p.caches s.name) alerts_made
  refine bind_ok_iff.mpr ⟨errors, first, bind_ok_iff.mpr ⟨alerts, second, ?_⟩⟩
  refine bind_ok_iff.mpr ⟨_, Routing.outputChannels_result, ?_⟩
  rw [result_pure, errors_eq, alerts_eq, same]
  rfl

/-! ## What operators make -/

namespace Operators

variable {ops : Operators} {stage : Name}

/-- What an aggregation makes of some records, if every record has a key. -/
def aggregated? (ops : Operators) (stage : Name) (records : List Json) : Option (List Tagged) := do
  let aggregation ← ops.aggregations.get? stage
  let keyed ← (withKeys 0 aggregation.key records).toOption
  return (Aggregation.group keyed).map fun g => .plain (aggregation.reduce g.1 g.2)

/-- The inputs of a joiner with their keys, if every record has one. -/
def keyed? (ops : Operators) (stage : Name) : List (Name × List Json) → Option (Table Keyed)
  | [] => some []
  | (n, records) :: inputs => do
    let key ← ops.keyFunction? stage n
    let keyed ← (withKeys 0 key records).toOption
    let rest ← ops.keyed? stage inputs
    return (n, .of keyed) :: rest

/-- The merged records of a join. -/
def joined? (ops : Operators) (stage : Name) (config : JoinConfig) (keyed : Table Keyed) :
    Option (List Json) := do
  let plan ← (JoinPlan.build stage config keyed.keys).toOption
  let rows ← (ops.executeJoin plan keyed).result.toOption
  return rows.items.map fun p => Rows.merge p.2

theorem invoke_ok {α : Type} {call : Call} {body : Journaled Failure α} {a : α}
    (h : (ops.invoke call body).result = .ok a) : body.result = .ok a := by
  obtain ⟨-, -, rest⟩ := bind_ok_iff.mp h
  split at rest
  · cases rest
  · exact rest

/-- An operator that ends well has left its call, and then what it does. -/
theorem invoke_events {α : Type} {call : Call} {body : Journaled Failure α} {a : α}
    (h : (ops.invoke call body).result = .ok a) :
    (ops.invoke call body).events = .called call :: body.events := by
  obtain ⟨-, -, rest⟩ := bind_ok_iff.mp h
  unfold invoke
  rw [bind_of_ok _ rfl]
  split at rest
  · cases rest
  · rfl

theorem emit_ok {ε : Type} {input : Nat} {elements : List Tagged} {out : Dataset Tagged}
    (h : (emit stage input elements : Journaled ε _).result = .ok out) : out = .of elements := by
  obtain ⟨-, -, last⟩ := bind_ok_iff.mp h
  exact (Except.ok.inj last).symm

theorem lookup_ok {α : Type} {t : Table α} {message : String} {a : α}
    (h : lookup t stage message = .ok a) : t.get? stage = some a := by
  unfold lookup at h
  split at h
  · next found =>
    obtain rfl := Except.ok.inj h
    exact found
  · cases h

theorem source_ok {out : Dataset Tagged} (h : (ops.source stage).result = .ok out) :
    ops.sources.get? stage = some out.items := by
  obtain ⟨elements, found, rest⟩ := bind_ok_iff.mp (invoke_ok h)
  obtain rfl := emit_ok rest
  exact lookup_ok found

theorem transform_ok {input : Dataset Json} {out : Dataset Tagged}
    (h : (ops.transform stage input).result = .ok out) :
    out.items = ops.transformed stage input.items := by
  obtain rfl := emit_ok (invoke_ok h)
  rfl

theorem multiOutputTransform_ok {input : Dataset Json} {out : Dataset Tagged}
    (h : (ops.multiOutputTransform stage input).result = .ok out) :
    out.items = ops.transformed stage input.items := by
  obtain rfl := emit_ok (invoke_ok h)
  rfl

theorem errorTransform_ok {errors : Dataset ErrorRecord} {out : Dataset Tagged}
    (h : (ops.errorTransform stage errors).result = .ok out) :
    out.items = ops.errorsTransformed stage errors.items := by
  obtain rfl := emit_ok (invoke_ok h)
  rfl

theorem aggregate_ok {race : Race} {input : Dataset Json} {hint : Option Nat}
    {out : Dataset Tagged} (h : (ops.aggregate race stage input hint).result = .ok out) :
    ops.aggregated? stage input.items = some out.items := by
  obtain ⟨aggregation, found, rest⟩ := bind_ok_iff.mp (invoke_ok h)
  obtain ⟨-, -, rest⟩ := bind_ok_iff.mp rest
  obtain ⟨keyed, keys, rest⟩ := bind_ok_iff.mp rest
  obtain rfl := emit_ok rest
  have keys : withKeys 0 aggregation.key input.items = .ok keyed := withKeys_repick keys 0
  simp [aggregated?, lookup_ok found, keys, Except.toOption, Dataset.of]

theorem applyPlugin_ok {operator : Operator} {input out : Dataset Json}
    {f : List Json → Except Failure (List Json)}
    (h : (ops.applyPlugin operator stage input f).result = .ok out) :
    ∃ records, f input.items = .ok records ∧ out = .of records := by
  obtain ⟨records, ran, last⟩ := bind_ok_iff.mp (invoke_ok h)
  exact ⟨records, ran, (Except.ok.inj last).symm⟩

theorem addJoinKey_ok {race : Race} {input : Name} {records : Dataset Json} {out : Keyed}
    (h : (ops.addJoinKey race stage input records).result = .ok out) :
    ∃ key keyed, ops.keyFunction? stage input = some key ∧
      withKeys 0 key records.items = .ok keyed ∧ out = .of keyed := by
  have body := invoke_ok h
  split at body
  · cases body
  · next key found =>
    obtain ⟨keyed, keys, rest⟩ := bind_ok_iff.mp body
    obtain ⟨-, -, last⟩ := bind_ok_iff.mp rest
    exact ⟨key, keyed, found, withKeys_repick keys 0, (Except.ok.inj last).symm⟩

theorem mergeJoinResults_ok {joined : Joined} {out : Dataset Json}
    (h : (ops.mergeJoinResults stage joined).result = .ok out) :
    out.items = joined.items.map fun p => Rows.merge p.2 := by
  obtain ⟨-, -, last⟩ := bind_ok_iff.mp (invoke_ok h)
  obtain rfl := Except.ok.inj last
  rfl

/-- A plan that was built for the inputs at hand runs to its end. -/
theorem executeJoin_total (ops : Operators) {config : JoinConfig} {keyed : Table Keyed}
    {plan : JoinPlan} (planned : JoinPlan.build stage config keyed.keys = .ok plan) :
    ∃ joined, (ops.executeJoin plan keyed).result = .ok joined := by
  have runs := (JoinPlan.build_arranges planned).runsThrough ops fun n => Iff.rfl
  obtain ⟨_, _, _, _, joined, _, _, _, _, ran⟩ := runs
  exact ⟨joined, ran⟩

end Operators

theorem Plugins.resolve_ok {α : Type} {t : Table α} {role : PluginRole} {title : String}
    {m : MacroContext} {stage : Name} {a : α}
    (h : (resolve t role title m stage).result = .ok a) : t.get? stage = some a := by
  obtain ⟨-, -, rest⟩ := bind_ok_iff.mp h
  split at rest
  · next found =>
    obtain rfl := Except.ok.inj rest
    exact found
  · cases rest

/-! ## Contents -/

/-- What a visit makes, whoever reads it. -/
inductive Content
  | nothing
  /-- Elements that are split into channels. -/
  | stream (elements : List Tagged)
  /-- Records for one main channel. -/
  | records (rs : List Json)
  /-- A write that is put off. -/
  | write (task : SinkTask)

/-- What a visit leaves of its content. -/
def Content.visited (p : Phase) (s : Stage) : Content → Visited
  | nothing => Walk.publish .empty
  | stream elements => Walk.publish (Routing.channels p s (Taps.ofStage p s.name) elements)
  | records rs => Walk.publish (.main ⟨rs, s.kind == .joiner || p.caches s.name⟩)
  | write t => Walk.defer t

namespace Walk

/-- The side channels that a stage reads, by ascending producers. -/
def sideRead {α : Type} (p : Phase) (s : Stage) (channel : Name → Option (Dataset α)) :
    List (Dataset α) :=
  ((p.inputs s.name).filter fun n => (p.stage? n).isSome).filterMap channel

/-- The records that a stage reads, by ascending producers. -/
def heard (p : Phase) (s : Stage) (r : Registry) : List (Name × List Json) :=
  (gather p s r).map fun x => (x.1, x.2.items)

variable (w : Walk)

/-- What a visit makes of what its stage reads. -/
def content? (s : Stage) (r : Registry) : Option Content :=
  match s.kind with
  | .errorTransform =>
    match sideRead w.phase s r.errorsOf with
    | [] => some .nothing
    | errors => some (.stream (w.operators.errorsTransformed s.name (errors.flatMap (·.items))))
  | .alertPublisher | .action => some .nothing
  | .batchSource | .streamingSource => (w.operators.sources.get? s.name).map .stream
  | .connector =>
    if gather w.phase s r = [] then (w.operators.sources.get? s.name).map .stream
    else some (.write (.write s.name (w.gathered s r) (w.operators.sinkFailures.get? s.name)))
  | .sink =>
    some (.write (.write s.name (w.gathered s r) (w.operators.sinkFailures.get? s.name)))
  | .pluginSink => do
    let plugin ← w.plugins.sinks.get? s.name
    return .write (Plugins.sinkTask s.name (w.gathered s r) plugin)
  | .transform | .splitterTransform =>
    some (.stream (w.operators.transformed s.name (w.gathered s r)))
  | .aggregator => (w.operators.aggregated? s.name (w.gathered s r)).map .stream
  | .compute => do
    let f ← w.plugins.computes.get? s.name
    (f (w.gathered s r)).toOption.map .records
  | .windower => do
    let f ← w.plugins.windowers.get? s.name
    (f (w.gathered s r)).toOption.map .records
  | .joiner => do
    let joiner ← w.plugins.joiners.get? s.name
    let keyed ← w.operators.keyed? s.name (heard w.phase s r)
    (w.operators.joined? s.name joiner.config keyed).map .records

/-- Whether a stage fits its place, and a joiner its inputs; the operators have no say in it. -/
def admits (s : Stage) (r : Registry) : Except FlowError Unit :=
  match s.kind with
  | .errorTransform | .alertPublisher =>
    if (producersInPhase w.phase s.name).isOk then .ok () else .error (.noInput s.name)
  | .action => if (w.phase.inputs s.name).isEmpty then .ok () else .error (unsupported s)
  | kind =>
    match gather w.phase s r, kind with
    | [], _ => w.checkSource s
    | _, .connector => if w.phase.isSink s.name then .ok () else .error (unsupported s)
    | _, .batchSource | _, .streamingSource => .error (unsupported s)
    | inputs, .joiner =>
      match w.plugins.joiners.get? s.name with
      | some joiner => (JoinPlan.build s.name joiner.config (inputs.map (·.1))).map fun _ => ()
      | none => .ok ()
    | _, _ => .ok ()

/-- All that a visit can come to. -/
inductive Outcome (w : Walk) (s : Stage) (r : Registry) : Except FlowError Visited → Prop
  | shown {c} (admitted : w.admits s r = .ok ()) (made : w.content? s r = some c) :
      Outcome w s r (.ok (c.visited w.phase s))
  | refused {e} (refusal : w.admits s r = .error e) : Outcome w s r (.error e)
  | blamed (f : Failure) : Outcome w s r (.error (.collaborator s.name f))

variable {w} {s : Stage} {r : Registry}

theorem bind_outcome {α : Type} {x : Step α} {f : α → Step Visited}
    (fails : ∀ e, x.result = .error e → Outcome w s r (.error e))
    (next : ∀ a, x.result = .ok a → Outcome w s r (f a).result) :
    Outcome w s r (x >>= f).result := by
  cases ran : x.result with
  | error e =>
    rw [bind_of_error f ran]
    exact fails e ran
  | ok a =>
    rw [bind_of_ok f ran]
    exact next a ran

theorem blame_bind_outcome {α : Type} {x : Journaled Failure α} {f : α → Step Visited}
    (next : ∀ a, x.result = .ok a → Outcome w s r (f a).result) :
    Outcome w s r (x.blame s.name >>= f).result := by
  refine bind_outcome (fun e failed => ?_) fun a ran => next a (blame_ok ran)
  obtain ⟨failure, rfl⟩ := blame_error failed
  exact .blamed failure

theorem routed_result (combined : Dataset Tagged) :
    (w.routed s combined).result =
      .ok ((Content.stream combined.items).visited w.phase s) :=
  map_ok_iff.mpr ⟨_, route_result w.phase s combined _, rfl⟩

/-! ## Streams -/

theorem admits_of_action (kind : s.kind = .action) :
    w.admits s r =
      if (w.phase.inputs s.name).isEmpty then .ok () else .error (unsupported s) := by
  simp only [admits, kind]

theorem admits_of_unread (kind : s.kind.readsRecords) (unread : gather w.phase s r = []) :
    w.admits s r = w.checkSource s := by
  unfold admits
  cases at_kind : s.kind <;> simp_all [StageKind.readsRecords]

/-- The steps that make the stream of a stage out of what it reads. -/
inductive Makes (w : Walk) (s : Stage) (r : Registry) : Step (Dataset Tagged) → Prop
  | source (kind : s.kind.readsRecords) (unread : gather w.phase s r = []) :
      Makes w s r
        (.ofExcept (w.checkSource s) >>= fun _ => (w.operators.source s.name).blame s.name)
  | errors {errors : Dataset ErrorRecord} (kind : s.kind = .errorTransform)
      (read : sideRead w.phase s r.errorsOf ≠ [])
      (items : errors.items = (sideRead w.phase s r.errorsOf).flatMap (·.items)) :
      Makes w s r ((w.operators.errorTransform s.name errors).blame s.name)
  | transformed {input : Dataset Json} (kind : s.kind = .transform)
      (items : input.items = w.gathered s r) :
      Makes w s r ((w.operators.transform s.name input).blame s.name)
  | split {input : Dataset Json} (kind : s.kind = .splitterTransform)
      (items : input.items = w.gathered s r) :
      Makes w s r ((w.operators.multiOutputTransform s.name input).blame s.name)
  | aggregated {input : Dataset Json} (kind : s.kind = .aggregator)
      (items : input.items = w.gathered s r) (hint : Option Nat) :
      Makes w s r ((w.operators.aggregate w.race s.name input hint).blame s.name)

namespace Makes

variable {x : Step (Dataset Tagged)} {combined : Dataset Tagged}

theorem content (makes : w.Makes s r x) (made : x.result = .ok combined) :
    w.content? s r = some (.stream combined.items) := by
  cases makes with
  | source kind unread =>
    obtain ⟨_, source, rest⟩ := bind_ok_iff.mp made
    have found := Operators.source_ok (blame_ok rest)
    rcases checkSource_kind source with boundary | reads
    · simp [content?, boundary, unread, found]
    · cases at_kind : s.kind <;> simp_all [StageKind.sourceKind, content?]
  | errors kind read items =>
    rw [Operators.errorTransform_ok (blame_ok made), items]
    unfold content?
    rw [kind]
    dsimp only
    split
    · next silent => exact absurd silent read
    · rfl
  | transformed kind items =>
    simp [content?, kind, Operators.transform_ok (blame_ok made), items]
  | split kind items =>
    simp [content?, kind, Operators.multiOutputTransform_ok (blame_ok made), items]
  | aggregated kind items hint =>
    have aggregated := Operators.aggregate_ok (blame_ok made)
    rw [items] at aggregated
    simp [content?, kind, aggregated]

theorem error {e : FlowError} (makes : w.Makes s r x) (admitted : w.admits s r = .ok ())
    (failed : x.result = .error e) : ∃ failure, e = .collaborator s.name failure := by
  cases makes with
  | source kind unread =>
    rw [admits_of_unread kind unread] at admitted
    rw [admitted, ofExcept_ok_bind] at failed
    exact blame_error failed
  | errors | transformed | split | aggregated => exact blame_error failed

/-- A visit that makes a stream leaves its channels, or blames what was to make it. -/
theorem outcome (makes : w.Makes s r x) (admitted : w.admits s r = .ok ()) :
    Outcome w s r (x >>= w.routed s).result := by
  refine bind_outcome (fun e failed => ?_) fun combined made => ?_
  · obtain ⟨failure, rfl⟩ := makes.error admitted failed
    exact .blamed failure
  · rw [routed_result]
    exact .shown admitted (makes.content made)

end Makes

/-! ## One kind of visit after the other -/

theorem sideRead_of_producers {α : Type} {producers : List Name}
    {channel : Name → Option (Dataset α)}
    (found : producersInPhase w.phase s.name = .ok producers) :
    producers.filterMap channel = sideRead w.phase s channel := by
  unfold producersInPhase at found
  split at found
  · cases found
  · obtain rfl := Except.ok.inj found
    rfl

theorem producersInPhase_error {p : Phase} {stage : Name} {e : FlowError}
    (h : producersInPhase p stage = .error e) : e = .noInput stage := by
  unfold producersInPhase at h
  split at h
  · exact (Except.error.inj h).symm
  · cases h

/-- A reader of side channels is refused if it has no producer in its phase. -/
theorem admits_side (kind : s.kind = .errorTransform ∨ s.kind = .alertPublisher) :
    w.admits s r = (producersInPhase w.phase s.name).map fun _ => () := by
  have answer : w.admits s r =
      if (producersInPhase w.phase s.name).isOk then .ok () else .error (.noInput s.name) := by
    unfold admits
    rcases kind with kind | kind <;> rw [kind]
  rw [answer]
  cases found : producersInPhase w.phase s.name with
  | ok producers => rfl
  | error e =>
    obtain rfl := producersInPhase_error found
    rfl

theorem transformErrors_outcome (kind : s.kind = .errorTransform) :
    Outcome w s r (w.transformErrors s r).result := by
  have admitted := admits_side (w := w) (r := r) (.inl kind)
  unfold transformErrors
  cases found : producersInPhase w.phase s.name with
  | error e =>
    rw [found] at admitted
    exact .refused admitted
  | ok producers =>
    rw [found] at admitted
    rw [ofExcept_ok_bind, sideRead_of_producers found]
    cases read : sideRead w.phase s r.errorsOf with
    | nil =>
      have made : w.content? s r = some .nothing := by simp [content?, kind, read]
      exact .shown admitted made
    | cons d ds =>
      have items : ((ds.foldl Dataset.union d).items) = (d :: ds).flatMap (·.items) :=
        Dataset.unionAll_items rfl
      rw [← read] at items
      exact (Makes.errors kind (by simp [read]) items).outcome admitted

theorem publishAlerts_outcome (kind : s.kind = .alertPublisher) :
    Outcome w s r (w.publishAlerts s r).result := by
  have made : w.content? s r = some .nothing := by simp [content?, kind]
  have admitted := admits_side (w := w) (r := r) (.inr kind)
  unfold publishAlerts
  cases found : producersInPhase w.phase s.name with
  | error e =>
    rw [found] at admitted
    exact .refused admitted
  | ok producers =>
    rw [found] at admitted
    rw [ofExcept_ok_bind]
    split
    · exact .shown admitted made
    · exact blame_bind_outcome fun _ _ => .shown admitted made

theorem readSource_outcome (kind : s.kind.readsRecords) (unread : gather w.phase s r = []) :
    Outcome w s r (w.readSource s).result := by
  have admitted := admits_of_unread kind unread
  cases source : w.checkSource s with
  | error e =>
    rw [readSource, source]
    exact .refused (admitted.trans source)
  | ok u =>
    have shape : w.readSource s = (.ofExcept (w.checkSource s) >>= fun _ =>
        (w.operators.source s.name).blame s.name) >>= w.routed s := by
      rw [bind_assoc]
      rfl
    rw [shape]
    exact (Makes.source kind unread).outcome (admitted.trans source)

variable {input : Dataset Json}

theorem keyInputs_ok {inputs : List (Name × Dataset Json)} {keyed : Table Keyed}
    (ran : (w.keyInputs s inputs).result = .ok keyed) :
    w.operators.keyed? s.name (inputs.map fun x => (x.1, x.2.items)) = some keyed ∧
      keyed.keys = inputs.map (·.1) := by
  induction inputs generalizing keyed with
  | nil =>
    obtain rfl := Except.ok.inj ran
    exact ⟨rfl, rfl⟩
  | cons x inputs ih =>
    obtain ⟨first, made, rest⟩ := bind_ok_iff.mp ran
    obtain ⟨others, later, last⟩ := bind_ok_iff.mp rest
    obtain rfl := Except.ok.inj last
    obtain ⟨key, pairs, found, paired, rfl⟩ := Operators.addJoinKey_ok (blame_ok made)
    obtain ⟨tail, names⟩ := ih later
    constructor
    · simp [Operators.keyed?, found, paired, tail, Except.toOption]
    · rw [Table.keys, List.map_cons, ← Table.keys, names, List.map_cons]

theorem keyInputs_error {inputs : List (Name × Dataset Json)} {e : FlowError}
    (failed : (w.keyInputs s inputs).result = .error e) :
    ∃ failure, e = .collaborator s.name failure := by
  induction inputs with
  | nil => cases failed
  | cons x inputs ih =>
    unfold keyInputs at failed
    cases first : ((w.operators.addJoinKey w.race s.name x.1 x.2).blame s.name).result with
    | error e' =>
      rw [bind_of_error _ first] at failed
      obtain rfl := Except.error.inj failed
      exact blame_error first
    | ok keyed =>
      rw [bind_of_ok _ first] at failed
      cases rest : (w.keyInputs s inputs).result with
      | error e' =>
        rw [bind_of_error _ rest] at failed
        obtain rfl := Except.error.inj failed
        exact ih rest
      | ok others =>
        rw [bind_of_ok _ rest] at failed
        cases failed

theorem joinInputs_outcome (kind : s.kind = .joiner) (read : gather w.phase s r ≠ []) :
    Outcome w s r (w.joinInputs s (gather w.phase s r)).result := by
  refine blame_bind_outcome fun joiner resolved => ?_
  have found : w.plugins.joiners.get? s.name = some joiner := Plugins.resolve_ok resolved
  have admitted : w.admits s r = (JoinPlan.build s.name joiner.config
      ((gather w.phase s r).map (·.1))).map fun _ => () := by
    unfold admits
    rw [kind]
    split <;> simp_all
  refine bind_outcome (fun e impossible => nomatch impossible) fun _ _ => ?_
  refine bind_outcome (fun e unready => ?_) fun _ _ => ?_
  · cases ready : joiner.prepare ((gather w.phase s r).map (·.1)) with
    | ok => simp [ready, Except.mapError] at unready
    | error failure =>
      obtain rfl : .collaborator s.name failure = e := by
        simpa [ready, Except.mapError] using unready
      exact .blamed failure
  refine bind_outcome (fun e failed => ?_) fun keyed ran => ?_
  · obtain ⟨failure, rfl⟩ := keyInputs_error failed
    exact .blamed failure
  obtain ⟨keys, names⟩ := keyInputs_ok ran
  simp only [Operators.joinInputs, bind_assoc]
  rw [← names] at admitted
  refine bind_outcome (fun e unplanned => .refused ?_) fun plan planned => ?_
  · rw [result_ofExcept] at unplanned
    rw [admitted, unplanned]
    rfl
  · rw [result_ofExcept] at planned
    obtain ⟨rows, executed⟩ := w.operators.executeJoin_total planned
    rw [bind_of_ok _ executed]
    refine blame_bind_outcome fun merged made => ?_
    have items := Operators.mergeJoinResults_ok made
    have joined : w.operators.joined? s.name joiner.config keyed = some merged.items := by
      simp [Operators.joined?, planned, executed, Except.toOption, items]
    have made : w.content? s r = some (.records merged.items) := by
      simp [content?, kind, found, heard, keys, joined]
    have leaves : (pure merged.cache >>= fun joined => pure (publish (.main joined)) :
        Step Visited).result = .ok ((Content.records merged.items).visited w.phase s) := by
      simp [Content.visited, kind, Dataset.cache]
    rw [leaves]
    exact .shown (by rw [admitted, planned]; rfl) made

/-- With some input, the kinds below are refused on no condition. -/
theorem admits_of_read (read : gather w.phase s r ≠ [])
    (kind : s.kind = .sink ∨ s.kind = .pluginSink ∨ s.kind = .transform ∨
      s.kind = .splitterTransform ∨ s.kind = .aggregator ∨ s.kind = .compute ∨
      s.kind = .windower) : w.admits s r = .ok () := by
  unfold admits
  rcases kind with kind | kind | kind | kind | kind | kind | kind <;> rw [kind] <;> split <;>
    simp_all

theorem admits_fedConnector (kind : s.kind = .connector) (read : gather w.phase s r ≠ []) :
    w.admits s r = if w.phase.isSink s.name then .ok () else .error (unsupported s) := by
  unfold admits
  rw [kind]
  split <;> simp_all

theorem admits_fedSource (kind : s.kind = .batchSource ∨ s.kind = .streamingSource)
    (read : gather w.phase s r ≠ []) : w.admits s r = .error (unsupported s) := by
  unfold admits
  rcases kind with kind | kind <;> rw [kind] <;> split <;> simp_all

theorem store_outcome (items : input.items = w.gathered s r) (admitted : w.admits s r = .ok ())
    (made : w.content? s r = some
      (.write (.write s.name (w.gathered s r) (w.operators.sinkFailures.get? s.name)))) :
    Outcome w s r (w.store s input).result := by
  have leaves : (w.store s input).result = .ok ((Content.write (.write s.name (w.gathered s r)
      (w.operators.sinkFailures.get? s.name))).visited w.phase s) := by
    rw [← items]
    rfl
  rw [leaves]
  exact .shown admitted made

theorem storeByPlugin_outcome (kind : s.kind = .pluginSink) (read : gather w.phase s r ≠ [])
    (items : input.items = w.gathered s r) : Outcome w s r (w.storeByPlugin s input).result := by
  have admitted := admits_of_read read (by simp [kind])
  refine blame_bind_outcome fun plugin resolved => ?_
  have found : w.plugins.sinks.get? s.name = some plugin := Plugins.resolve_ok resolved
  have made : w.content? s r = some (.write (Plugins.sinkTask s.name (w.gathered s r) plugin)) := by
    simp [content?, kind, found]
  rw [items]
  exact .shown admitted made

theorem computed_outcome {operator : Operator} {f : List Json → Except Failure (List Json)}
    (kind : s.kind ≠ .joiner) (items : input.items = w.gathered s r)
    (admitted : w.admits s r = .ok ())
    (made : w.content? s r = (f (w.gathered s r)).toOption.map .records) :
    Outcome w s r (w.computed s operator input f).result := by
  refine blame_bind_outcome fun out ran => ?_
  obtain ⟨records, computed, rfl⟩ := Operators.applyPlugin_ok ran
  rw [items] at computed
  have made : w.content? s r = some (.records records) := by
    simp [made, computed, Except.toOption]
  have other : (s.kind == .joiner) = false := by simpa using kind
  have leaves : (pure (publish (.main ((Dataset.of records).cacheIf (w.phase.caches s.name)))) :
      Step Visited).result = .ok ((Content.records records).visited w.phase s) := by
    rw [Routing.cacheIf_of, Content.visited, other, Bool.false_or]
    rfl
  rw [leaves]
  exact .shown admitted made

theorem visitWith_outcome (read : gather w.phase s r ≠ [])
    (items : input.items = w.gathered s r) (reads : s.kind.readsRecords) :
    Outcome w s r (w.visitWith s (gather w.phase s r) input).result := by
  unfold visitWith
  cases kind : s.kind with
  | joiner => exact joinInputs_outcome kind read
  | sink =>
    have made : w.content? s r = some
        (.write (.write s.name (w.gathered s r) (w.operators.sinkFailures.get? s.name))) := by
      simp [content?, kind]
    exact store_outcome items (admits_of_read read (by simp [kind])) made
  | connector =>
    dsimp only
    have admitted := admits_fedConnector kind read
    split
    · next boundary =>
      refine store_outcome items (admitted.trans (if_pos boundary)) ?_
      simp [content?, kind, read]
    · next inside => exact .refused (admitted.trans (if_neg inside))
  | pluginSink => exact storeByPlugin_outcome kind read items
  | transform => exact (Makes.transformed kind items).outcome (admits_of_read read (by simp [kind]))
  | splitterTransform =>
    exact (Makes.split kind items).outcome (admits_of_read read (by simp [kind]))
  | aggregator =>
    exact (Makes.aggregated kind items _).outcome (admits_of_read read (by simp [kind]))
  | compute =>
    refine blame_bind_outcome fun f resolved => ?_
    have found : w.plugins.computes.get? s.name = some f := Plugins.resolve_ok resolved
    refine computed_outcome (by simp [kind]) items (admits_of_read read (by simp [kind])) ?_
    simp [content?, kind, found]
  | windower =>
    refine blame_bind_outcome fun f resolved => ?_
    have found : w.plugins.windowers.get? s.name = some f := Plugins.resolve_ok resolved
    refine computed_outcome (by simp [kind]) items (admits_of_read read (by simp [kind])) ?_
    simp [content?, kind, found]
  | batchSource | streamingSource => exact .refused (admits_fedSource (by simp [kind]) read)
  | errorTransform | alertPublisher | action => simp [kind, StageKind.readsRecords] at reads

/-- **All that a visit can do.** It leaves the content that its stage makes of what it reads, or it
refuses its stage on the conditions for that, or it blames what it has called. -/
theorem visit_outcome (w : Walk) (s : Stage) (r : Registry) :
    Outcome w s r (w.visit s r).result := by
  unfold visit
  split
  · next kind => exact transformErrors_outcome kind
  · next kind => exact publishAlerts_outcome kind
  · next kind =>
    have made : w.content? s r = some .nothing := by simp [content?, kind]
    have admitted := admits_of_action (w := w) (r := r) kind
    split
    · next apart => exact .shown (admitted.trans (if_pos apart)) made
    · next linked => exact .refused (admitted.trans (if_neg linked))
  · next some_errors some_alerts some_action =>
    have reads := StageKind.readsRecords_of_other some_errors some_alerts some_action
    dsimp only
    split
    · next none =>
      have unread := List.map_eq_nil_iff.mp (Dataset.unionAll_eq_none.mp none)
      exact readSource_outcome reads unread
    · next input some_input =>
      have read : gather w.phase s r ≠ [] := by
        intro empty
        simp [empty, Dataset.unionAll] at some_input
      exact visitWith_outcome read (gathered_items some_input) reads

/-- What a visit that succeeds has left. -/
theorem visit_ok {v : Visited} (ran : (w.visit s r).result = .ok v) :
    w.admits s r = .ok () ∧ ∃ c, w.content? s r = some c ∧ v = c.visited w.phase s := by
  have outcome := visit_outcome w s r
  rw [ran] at outcome
  cases outcome with
  | shown admitted made => exact ⟨admitted, _, made, rfl⟩

end Walk

end Stageflow
