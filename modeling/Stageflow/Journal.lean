import Stageflow.Counters
import Stageflow.Dataset
import Stageflow.Error
import Stageflow.Store

/-!
# The journal of a run

Nothing that a run does to the outside is read again during the run. So a step of a run is a value:
its result, and the journal of what it did on the way. What the outside shows afterwards is a
`Ledger`, the sum of the events of the journal.

* `Journaled` is the monad of such steps; a step that fails keeps the events before its failure.
* `Ledger.post` adds an event to a ledger.
-/

namespace Stageflow

/-- The size of a dataset and whether it is kept. -/
structure Extent where
  size : Nat
  cached : Bool
deriving DecidableEq, Inhabited

/-- The extent of a dataset. -/
def Dataset.extent {α : Type} (d : Dataset α) : Extent := ⟨d.size, d.cached⟩

/-- Which rows a join keeps. -/
inductive JoinType
  | inner
  | leftOuter
  | fullOuter
deriving DecidableEq, Inhabited

/-- The operators that take one dataset and nothing else. -/
inductive Operator
  | transform
  | multiOutputTransform
  | errorTransform
  | compute
  | window
  | publishAlerts
  | storeTask
  | pluginStoreTask
  | errorRecords
  | alertRecords
  | mergeJoinResults
deriving DecidableEq, Inhabited

/-- What a plugin is needed for. -/
inductive PluginRole
  | compute
  | sink
  | windower
  | joiner
deriving DecidableEq, Inhabited

/-- A call of the engine to one of its operators or plugins. -/
inductive Call
  | source (stage : Name)
  | apply (operator : Operator) (stage : Name) (input : Extent)
  | aggregate (stage : Name) (input : Extent) (partitions : Option Nat)
  | outputRecords (stage : Name) (input : Extent) (port : Option Name)
  | addJoinKey (stage : Name) (input : Extent) (producer : Name)
  | seedJoin (input : Extent)
  | join (left right : Extent) (type : JoinType) (partitions : Option Nat)
  | resolve (role : PluginRole) (stage : Name) (argument : Option String)
  | prepareJoiner (stage : Name) (inputs : List Name) (scope : Name)
deriving DecidableEq, Inhabited

namespace Operator

/-- The name of an operator. -/
def tag : Operator → Name
  | transform => "transform"
  | multiOutputTransform => "multi_output_transform"
  | errorTransform => "error_transform"
  | compute => "compute"
  | window => "window"
  | publishAlerts => "publish_alerts"
  | storeTask => "store_task"
  | pluginStoreTask => "plugin_store_task"
  | errorRecords => "error_records"
  | alertRecords => "alert_records"
  | mergeJoinResults => "merge_join_results"

end Operator

/-- The name of a role. -/
def PluginRole.tag : PluginRole → Name
  | compute => "compute"
  | sink => "sink"
  | windower => "windower"
  | joiner => "joiner"

/-- The name of a join type. -/
def JoinType.tag : JoinType → Name
  | inner => "Inner"
  | leftOuter => "LeftOuter"
  | fullOuter => "FullOuter"

namespace Call

/-- The name of what is called. -/
def tag : Call → Name
  | source .. => "source"
  | apply operator .. => operator.tag
  | aggregate .. => "aggregate"
  | outputRecords .. => "output_records"
  | addJoinKey .. => "add_join_key"
  | seedJoin .. => "seed_join"
  | join .. => "join"
  | resolve role .. => "resolve_" ++ role.tag
  | prepareJoiner .. => "initialize"

/-- The stage that the call is for; joins are not told. -/
def stage : Call → Name
  | source s | apply _ s _ | aggregate s _ _ | outputRecords s _ _ | addJoinKey s _ _
  | resolve _ s _ | prepareJoiner s _ _ => s
  | seedJoin _ | join .. => ""

end Call

/-- What a run does to the outside. -/
inductive Event
  | called (call : Call)
  | counted (stage : Name) (counter : Counter) (n : Nat)
  /-- An aggregation ran on so many partitions. -/
  | partitioned (stage : Name) (partitions : Nat)
  /-- The stream of a stage was split, and was kept or not. -/
  | split (stage : Name) (cached : Bool)
  | published (stage : Name) (alerts : List Alert)
  | wrote (stage : Name) (records : List Json)
  /-- The plugin of a sink took records. -/
  | collected (stage : Name) (records : List Json)
deriving Inhabited

/-- A step that may fail, with the events up to its end. -/
structure Journaled (ε α : Type) where
  events : List Event
  result : Except ε α

namespace Journaled

variable {ε ε' α β : Type}

instance : Monad (Journaled ε) where
  pure a := ⟨[], .ok a⟩
  bind x f :=
    match x.result with
    | .ok a => let y := f a; ⟨x.events ++ y.events, y.result⟩
    | .error e => ⟨x.events, .error e⟩

/-- A step that only leaves an event. -/
def note (e : Event) : Journaled ε Unit := ⟨[e], .ok ()⟩

/-- A step that fails. -/
def fail (e : ε) : Journaled ε α := ⟨[], .error e⟩

/-- A step without events. -/
def ofExcept (x : Except ε α) : Journaled ε α := ⟨[], x⟩

/-- Changes the error of a step. -/
def mapError (f : ε → ε') (x : Journaled ε α) : Journaled ε' α :=
  ⟨x.events, match x.result with
    | .ok a => .ok a
    | .error e => .error (f e)⟩

/-- Reports the failure of a step against a stage. -/
def blame (stage : Name) (x : Journaled Failure α) : Journaled FlowError α :=
  x.mapError (.collaborator stage)

end Journaled

/-- What the outside shows of a run. -/
structure Ledger where
  store : Store
  /-- What the plugins of sinks took. -/
  collected : Table (List Json)
  partitions : Table Nat
  splits : Table Bool
  collectors : Collectors
deriving Inhabited

namespace Ledger

/-- A ledger without entries. -/
def empty : Ledger := ⟨.empty, [], [], [], []⟩

/-- Adds an event. -/
def post (l : Ledger) : Event → Ledger
  | .called _ => l
  | .counted stage c n => { l with collectors := l.collectors.add stage c n }
  | .partitioned stage n => { l with partitions := l.partitions.insert stage n }
  | .split stage cached => { l with splits := l.splits.insert stage cached }
  | .published stage alerts => { l with store := l.store.publish stage alerts }
  | .wrote stage records => { l with store := l.store.write stage records }
  | .collected stage records => { l with collected := Store.append l.collected stage records }

/-- Adds several events. -/
def postAll (l : Ledger) (es : List Event) : Ledger := es.foldl post l

end Ledger

/-- The calls among some events. -/
def callsOf (es : List Event) : List Call :=
  es.filterMap fun
    | .called c => some c
    | _ => none

end Stageflow
