import Stageflow.Table

/-!
# Stages

A stage has a name, a kind out of a closed set, and may route its outputs to named ports, one for
each stage that reads it.

* `StageKind.ofTag?` reads the tag that `StageKind.tag` writes: `StageKind.ofTag?_tag`.
* `Stage.portFor` is the port that a reader takes its records from.
-/

namespace Stageflow

/-- What a run reads from. -/
inductive SourceKind
  | batch
  | streaming
deriving DecidableEq, Inhabited

namespace SourceKind

/-- The name of a source kind in text. -/
def tag : SourceKind → Name
  | batch => "batch"
  | streaming => "streaming"

/-- Every source kind. -/
def all : List SourceKind := [batch, streaming]

end SourceKind

/-- What a stage does. -/
inductive StageKind
  | batchSource
  | streamingSource
  /-- Passes records between phases that are scheduled apart. -/
  | connector
  | sink
  | transform
  | splitterTransform
  | errorTransform
  | alertPublisher
  | compute
  | pluginSink
  | aggregator
  | joiner
  | windower
  /-- Runs in a phase of its own and has no input in this one. -/
  | action
deriving DecidableEq, Inhabited

namespace StageKind

/-- Every kind. -/
def all : List StageKind :=
  [batchSource, streamingSource, connector, sink, transform, splitterTransform, errorTransform,
    alertPublisher, compute, pluginSink, aggregator, joiner, windower, action]

/-- The name of a kind in text. -/
def tag : StageKind → Name
  | batchSource => "batch-source"
  | streamingSource => "streaming-source"
  | connector => "connector"
  | sink => "sink"
  | transform => "transform"
  | splitterTransform => "splitter-transform"
  | errorTransform => "error-transform"
  | alertPublisher => "alert-publisher"
  | compute => "compute"
  | pluginSink => "plugin-sink"
  | aggregator => "aggregator"
  | joiner => "joiner"
  | windower => "windower"
  | action => "action"

/-- The kind with a tag. -/
def ofTag? (t : Name) : Option StageKind := all.find? (·.tag = t)

/-- The kind of run that a source stage takes part in. -/
def sourceKind : StageKind → Option SourceKind
  | batchSource => some .batch
  | streamingSource => some .streaming
  | _ => none

theorem ofTag?_tag (k : StageKind) : ofTag? k.tag = some k := by cases k <;> rfl

end StageKind

/-- A stage as it is declared. -/
structure Stage where
  name : Name
  kind : StageKind
  /-- The port that each reading stage takes its records from. -/
  ports : Table Name
deriving DecidableEq, Inhabited

namespace Stage

/-- A stage without ports. -/
def plain (name : Name) (kind : StageKind) : Stage := ⟨name, kind, []⟩

/-- Routes a port to a reader; an earlier port of that reader is replaced. -/
def withPort (s : Stage) (reader port : Name) : Stage :=
  { s with ports := s.ports.insert reader port }

/-- The port declared for a reader; `none` where it reads the main output. -/
def portFor (s : Stage) (reader : Name) : Option Name := s.ports.get? reader

/-- The distinct port names in ascending order. -/
def portNames (s : Stage) : List Name := Names.sorted s.ports.values

end Stage

end Stageflow
