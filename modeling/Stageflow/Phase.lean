import Stageflow.Graph

/-!
# Phases

A phase is the set of stages that are scheduled together, with their connections. Nodes of the graph
that are no stages of the phase belong to another phase.

* `Phase.build` accepts stages with distinct names in which every reader of a stage with ports has a
  port to read.
* `Phase.ofSpec` builds the graph first, so that a cycle is reported before anything else.
-/

namespace Stageflow

/-- A phase as it is declared. -/
structure PhaseSpec where
  stages : List Stage
  connections : List Edge
deriving DecidableEq, Inhabited

/-- The stages of a phase by name, and their connections if there are any. -/
structure Phase where
  stages : Table Stage
  graph : Option Graph

namespace Phase

def stage? (p : Phase) (n : Name) : Option Stage := p.stages.get? n

/-- The producers that a stage reads, stages of other phases included. -/
def inputs (p : Phase) (n : Name) : List Name := p.graph.elim [] (·.inputs n)

/-- The readers of a stage, stages of other phases included. -/
def outputs (p : Phase) (n : Name) : List Name := p.graph.elim [] (·.outputs n)

def isSource (p : Phase) (n : Name) : Bool :=
  p.graph.elim false fun g => g.contains n && g.inDegree n = 0

def isSink (p : Phase) (n : Name) : Bool :=
  p.graph.elim false fun g => g.contains n && g.outDegree n = 0

/-- Whether the output of a stage is kept. -/
def caches (p : Phase) (n : Name) : Bool := p.graph.elim false (·.caches n)

/-- The graph, which a phase must have to be scheduled. -/
def requireGraph (p : Phase) : Except FlowError Graph :=
  match p.graph with
  | some g => .ok g
  | none => .error .missingGraph

/-- The first name that a list of stages repeats. -/
def repeated? : List Stage → (before : List Name) → Option Name
  | [], _ => none
  | s :: ss, before => if s.name ∈ before then some s.name else repeated? ss (s.name :: before)

/-- Whether a reader takes its records from the main output of a stage with ports. -/
def readsMain (producer reader : Stage) : Bool :=
  match reader.kind with
  | .errorTransform | .alertPublisher => false
  | .connector => true
  | _ => producer.kind == .connector || (producer.portFor reader.name).isNone

/-- The readers of a stage that find no output there. -/
def unrouted (p : Phase) (producer : Stage) : List Name :=
  if producer.ports.isEmpty then []
  else (p.outputs producer.name).filter fun n => (p.stage? n).any (readsMain producer)

/-- The first reader that finds no output, with its producer. -/
def unrouted? (p : Phase) : Option (Name × Name) :=
  p.stages.values.findSome? fun s => (p.unrouted s).head?.map fun n => (s.name, n)

/-- A phase of some stages over a graph. -/
def build (stages : List Stage) (graph : Option Graph) : Except FlowError Phase :=
  match repeated? stages [] with
  | some n => .error (.config (.duplicateStage n))
  | none =>
    let p : Phase := ⟨Table.ofList (stages.map fun s => (s.name, s)), graph⟩
    match p.unrouted? with
    | some (producer, reader) => .error (.config (.unroutedReader producer reader))
    | none => .ok p

/-- The phase that a declaration describes. -/
def ofSpec (spec : PhaseSpec) : Except FlowError Phase := do
  let g ← Graph.build (spec.stages.map (·.name)) spec.connections
  build spec.stages (some g)

/-- One line of the execution plan. -/
def planLine (p : Phase) (g : Graph) (position : Nat) (n : Name) : String :=
  let kind := (p.stage? n).elim "external" (·.kind.tag)
  let inputs := g.inputs n
  toString position ++ ": " ++ n ++ " (" ++ kind ++ ")" ++
    (if inputs.isEmpty then "" else " <- " ++ ", ".intercalate inputs)

/-- The stages in the order of their execution, a line each. -/
def executionPlan (p : Phase) : String :=
  match p.graph with
  | none => "<no connections>"
  | some g => "\n".intercalate (g.order.mapIdx fun i n => p.planLine g (i + 1) n)

end Phase

end Stageflow
