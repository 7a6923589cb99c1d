import Stageflow.Plugins
import Stageflow.Routing

/-!
# The scheduling walk

Visits the stages of a phase in the order of its graph. A visit takes the channels that the
producers of the stage have emitted, does what the kind of the stage says, and adds the channels of
the stage to the registry. Writes are put off: the walk only collects their tasks.

* `Walk.gather` are the channels that a stage reads.
* `Walk.visit` is one visit, `schedule` the whole walk. The first visit that fails ends it.
-/

namespace Stageflow

/-- What every visit of a walk reads. -/
structure Walk where
  operators : Operators
  plugins : Plugins
  phase : Phase
  sourceKind : SourceKind
  macros : MacroContext
  /-- Partition hints for aggregations. -/
  hints : Table Nat
  /-- Which failures are reported where records get their keys. -/
  race : Race

/-- What a visit leaves: the channels of the stage, and the task of a deferred write. -/
structure Visited where
  emitted : Emitted
  deferred : Option SinkTask
deriving Inhabited

/-- What a walk leaves. -/
structure Scheduled where
  registry : Registry
  tasks : List SinkTask
deriving Inhabited

namespace Walk

/-- A step of a visit. -/
abbrev Step (α : Type) := Journaled FlowError α

/-- Leaves channels and no task. -/
def publish (e : Emitted) : Visited := ⟨e, none⟩

/-- Leaves a task and no channels. -/
def defer (t : SinkTask) : Visited := ⟨.empty, some t⟩

/-- The port from which a stage reads a producer; with a connector on either side, none. -/
def portBetween (producer reader : Stage) : Option Name :=
  if producer.kind = .connector ∨ reader.kind = .connector then none
  else producer.portFor reader.name

/-- The channels that a stage reads, with their producers, by ascending producers. -/
def gather (p : Phase) (s : Stage) (r : Registry) : List (Name × Dataset Json) :=
  (p.inputs s.name).filterMap fun n => do
    let producer ← p.stage? n
    let records ← r.outputOf n (portBetween producer s)
    return (n, records)

/-- The producers of a stage that belong to its phase; it is an error to have none. -/
def producersInPhase (p : Phase) (stage : Name) : Except FlowError (List Name) :=
  match (p.inputs stage).filter fun n => (p.stage? n).isSome with
  | [] => .error (.noInput stage)
  | producers => .ok producers

/-- The error of a stage whose kind does not fit its place. -/
def unsupported (s : Stage) : FlowError := .unsupportedStage s.name s.kind.tag

variable (w : Walk)

/-- Splits the stream of a stage into the channels that its readers take. -/
def routed (s : Stage) (combined : Dataset Tagged) : Step Visited :=
  publish <$> route w.phase s combined (Taps.ofStage w.phase s.name)

/-- Whether a stage without inputs is a source of this run. -/
def checkSource (s : Stage) : Except FlowError Unit :=
  if s.kind = .connector ∧ w.phase.isSource s.name then .ok ()
  else
    match s.kind.sourceKind with
    | some kind => if kind = w.sourceKind then .ok () else .error (unsupported s)
    | none => .error (.noInput s.name)

/-- Reads a source. -/
def readSource (s : Stage) : Step Visited := do
  .ofExcept (w.checkSource s)
  let combined ← (w.operators.source s.name).blame s.name
  w.routed s combined

/-- Transforms the errors of the producers, if any of them has a channel of errors. -/
def transformErrors (s : Stage) (r : Registry) : Step Visited := do
  let producers ← .ofExcept (producersInPhase w.phase s.name)
  match Dataset.unionAll (producers.filterMap r.errorsOf) with
  | none => return publish .empty
  | some errors =>
    let combined ← (w.operators.errorTransform s.name errors).blame s.name
    w.routed s combined

/-- Publishes the alerts of the producers, if any of them has a channel of alerts. -/
def publishAlerts (s : Stage) (r : Registry) : Step Visited := do
  let producers ← .ofExcept (producersInPhase w.phase s.name)
  match Dataset.unionAll (producers.filterMap r.alertsOf) with
  | none => return publish .empty
  | some alerts =>
    (w.operators.publishAlerts s.name alerts).blame s.name
    return publish .empty

/-- Keys the inputs of a joiner. -/
def keyInputs (s : Stage) : List (Name × Dataset Json) → Step (Table Keyed)
  | [] => return []
  | (n, records) :: inputs => do
    let keyed ← (w.operators.addJoinKey w.race s.name n records).blame s.name
    let rest ← keyInputs s inputs
    return (n, keyed) :: rest

/-- Joins the inputs of a joiner. -/
def joinInputs (s : Stage) (inputs : List (Name × Dataset Json)) : Step Visited := do
  let joiner ← (w.plugins.joiner w.macros s.name).blame s.name
  let names := inputs.map (·.1)
  .note (.called (.prepareJoiner s.name names w.macros.scope))
  .ofExcept ((joiner.prepare names).mapError (.collaborator s.name))
  let keyed ← w.keyInputs s inputs
  let joined ← w.operators.joinInputs s.name joiner.config keyed
  return publish (.main joined)

/-- Puts off a write to the store. -/
def store (s : Stage) (input : Dataset Json) : Step Visited := do
  .note (.called (.apply .storeTask s.name input.extent))
  return defer (.write s.name input.items (w.operators.sinkFailures.get? s.name))

/-- Puts off a write by a plugin. -/
def storeByPlugin (s : Stage) (input : Dataset Json) : Step Visited := do
  let plugin ← (w.plugins.sink w.macros s.name).blame s.name
  .note (.called (.apply .pluginStoreTask s.name input.extent))
  return defer (Plugins.sinkTask s.name input.items plugin)

/-- Runs the plugin of a stage on its input. -/
def computed (s : Stage) (operator : Operator) (input : Dataset Json)
    (f : List Json → Except Failure (List Json)) : Step Visited := do
  let out ← (w.operators.applyPlugin operator s.name input f).blame s.name
  return publish (.main (out.cacheIf (w.phase.caches s.name)))

/-- A visit of a stage that reads records and has some. -/
def visitWith (s : Stage) (inputs : List (Name × Dataset Json)) (input : Dataset Json) :
    Step Visited :=
  match s.kind with
  | .joiner => w.joinInputs s inputs
  | .sink => w.store s input
  | .connector => if w.phase.isSink s.name then w.store s input else .fail (unsupported s)
  | .pluginSink => w.storeByPlugin s input
  | .transform => do w.routed s (← (w.operators.transform s.name input).blame s.name)
  | .splitterTransform => do
    w.routed s (← (w.operators.multiOutputTransform s.name input).blame s.name)
  | .aggregator => do
    w.routed s (← (w.operators.aggregate w.race s.name input (w.hints.get? s.name)).blame s.name)
  | .compute => do
    w.computed s .compute input (← (w.plugins.compute w.macros s.name).blame s.name)
  | .windower => do
    w.computed s .window input (← (w.plugins.windower w.macros s.name).blame s.name)
  | .batchSource | .streamingSource | .errorTransform | .alertPublisher | .action =>
    .fail (unsupported s)

/-- A visit of a stage, after the stages of a registry. -/
def visit (s : Stage) (r : Registry) : Step Visited :=
  match s.kind with
  | .errorTransform => w.transformErrors s r
  | .alertPublisher => w.publishAlerts s r
  | .action =>
    if (w.phase.inputs s.name).isEmpty then pure (publish .empty) else .fail (unsupported s)
  | _ =>
    let inputs := gather w.phase s r
    match Dataset.unionAll (inputs.map (·.2)) with
    | none => w.readSource s
    | some input => w.visitWith s inputs input

/-- Visits stages one after the other; names without a stage belong to another phase. -/
def visitAll : List Name → Scheduled → Step Scheduled
  | [], done => return done
  | n :: ns, done =>
    match w.phase.stage? n with
    | none => visitAll ns done
    | some s => do
      let v ← w.visit s done.registry
      visitAll ns ⟨done.registry.record n v.emitted, done.tasks ++ v.deferred.toList⟩

/-- The whole walk. -/
def schedule : Step Scheduled := do
  let g ← .ofExcept w.phase.requireGraph
  w.visitAll g.order ⟨[], []⟩

end Walk

end Stageflow
