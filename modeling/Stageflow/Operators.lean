import Stageflow.Join.Plan
import Stageflow.Join.Rows

/-!
# Operators

What the stages of each kind do, by the functions registered for them. Every operator leaves its
call in the journal first; the registrations may make a call fail instead of running it.

* A stage without a registered transformation passes its records on.
* `Operators.withKeys` pairs records with their keys. That is done in parallel: if several records
  fail, a `Race` between them decides which failure is reported.
* `Operators.aggregate` groups by key and reduces each group, in ascending order of the keys.
* `Operators.executeJoin` runs a join plan.
-/

namespace Stageflow

/-- The key of a record. -/
abbrev KeyFunction := Json → Except Failure String

/-- Groups records and reduces each group. -/
structure Aggregation where
  key : KeyFunction
  reduce : String → List Json → Json

/-- The value of a field as a key: strings as they are, other values by their text. -/
def fieldKey (field : Name) : KeyFunction := fun record =>
  match record.field? field with
  | some (.string s) => .ok s
  | some v => .ok v.text
  | none => .error (.of ("record has no field '" ++ field ++ "'"))

/-- The value of a field as a key, if it is a string. -/
def textKey (field : Name) : KeyFunction := fun record =>
  match record.field? field with
  | some (.string s) => .ok s
  | _ => .error (.of ("no text field '" ++ field ++ "'"))

namespace Aggregation

/-- Counts the records for each value of a field. -/
def countBy (field : Name) : Aggregation where
  key := fieldKey field
  reduce key records := .ofMembers [(field, .string key), ("count", .ofNat records.length)]

/-- Collects the records for each text of a field. -/
def collectBy (field : Name) : Aggregation where
  key := textKey field
  reduce key records := .ofMembers [("key", .string key), ("records", .array records)]

/-- The records of each key in their order, by ascending keys. -/
def group (keyed : List (String × Json)) : Table (List Json) := Table.grouped keyed

end Aggregation

/--
For each call, a number that picks the failure to report if several records of the call fail. The
records are read in parallel, so any of these failures may come first.
-/
abbrev Race := Call → Nat

/-- The functions registered for stages. -/
structure Operators where
  defaultPartitions : Nat
  sources : Table (List Tagged)
  transforms : Table (Json → List Tagged)
  errorTransforms : Table (ErrorRecord → List Tagged)
  aggregations : Table Aggregation
  /-- Keys for every input of a joiner. -/
  joinKeys : Table KeyFunction
  /-- Keys for one input of a joiner, by joiner and input. -/
  inputJoinKeys : Table (Table KeyFunction)
  /-- Sinks whose write fails, with the message. -/
  sinkFailures : Table String
  /-- Calls that fail, by the name of the call and its stage. -/
  faults : Name → Name → Option Failure

namespace Operators

/-- No registrations. -/
def empty : Operators := ⟨1, [], [], [], [], [], [], [], fun _ _ => none⟩

/-- A partition count of at least one. -/
def atLeastOne (n : Nat) : Nat := max 1 n

/-- The failures of the records that have no key. -/
def failures (key : KeyFunction) (records : List Json) : List Failure :=
  records.filterMap fun r =>
    match key r with
    | .ok _ => none
    | .error f => some f

/-- Pairs each record with its key. If some of them have no key, a number picks one failure. -/
def withKeys (pick : Nat) (key : KeyFunction) (records : List Json) :
    Except Failure (List (String × Json)) :=
  let fs := failures key records
  match fs[pick % fs.length]? with
  | some f => .error f
  | none => .ok (records.filterMap fun r => (key r).toOption.map fun k => (k, r))

/-- What is registered under a name, or a failure. -/
def lookup {α : Type} (t : Table α) (n : Name) (message : String) : Except Failure α :=
  match t.get? n with
  | some a => .ok a
  | none => .error (.of message)

variable (ops : Operators)

/-- Leaves the call in the journal and runs the operator, unless the call is registered to fail. -/
def invoke {α : Type} (call : Call) (body : Journaled Failure α) : Journaled Failure α := do
  .note (.called call)
  match ops.faults call.tag call.stage with
  | some f => .fail f
  | none => body

/-- Counts what a stage read and emitted. -/
def countTagged {ε : Type} (stage : Name) (input : Nat) (out : List Tagged) : Journaled ε Unit := do
  .note (.counted stage .input input)
  .note (.counted stage .output (out.countP Tagged.isOutput))
  .note (.counted stage .error (out.countP Tagged.isError))

/-- Counts, and makes a dataset of the stream. -/
def emit {ε : Type} (stage : Name) (input : Nat) (out : List Tagged) :
    Journaled ε (Dataset Tagged) := do
  countTagged stage input out
  return .of out

/-- What a source emits. -/
def source (stage : Name) : Journaled Failure (Dataset Tagged) :=
  ops.invoke (.source stage) do
    let out ← .ofExcept (lookup ops.sources stage
      ("no records registered for source '" ++ stage ++ "'"))
    emit stage 0 out

/-- What a transformation emits for some records. -/
def transformed (stage : Name) (records : List Json) : List Tagged :=
  match ops.transforms.get? stage with
  | some f => records.flatMap f
  | none => records.map .plain

/-- Transforms the records of a stage. -/
def transform (stage : Name) (input : Dataset Json) : Journaled Failure (Dataset Tagged) :=
  ops.invoke (.apply .transform stage input.extent)
    (emit stage input.size (ops.transformed stage input.items))

/-- Transforms the records of a stage with several outputs. -/
def multiOutputTransform (stage : Name) (input : Dataset Json) :
    Journaled Failure (Dataset Tagged) :=
  ops.invoke (.apply .multiOutputTransform stage input.extent)
    (emit stage input.size (ops.transformed stage input.items))

/-- An error as a record. -/
def errorFields (e : ErrorRecord) : Json :=
  .ofMembers [("stage", .string e.stage), ("code", .int e.code.toInt),
    ("message", .string e.message), ("record", e.record)]

/-- What a transformation of errors emits. -/
def errorsTransformed (stage : Name) (errors : List ErrorRecord) : List Tagged :=
  match ops.errorTransforms.get? stage with
  | some f => errors.flatMap f
  | none => errors.map fun e => .plain (errorFields e)

/-- Transforms the errors that a stage reads. -/
def errorTransform (stage : Name) (errors : Dataset ErrorRecord) :
    Journaled Failure (Dataset Tagged) :=
  ops.invoke (.apply .errorTransform stage errors.extent)
    (emit stage errors.size (ops.errorsTransformed stage errors.items))

/-- Groups the records of a stage by key and reduces each group. -/
def aggregate (race : Race) (stage : Name) (input : Dataset Json) (hint : Option Nat) :
    Journaled Failure (Dataset Tagged) :=
  let call : Call := .aggregate stage input.extent hint
  ops.invoke call do
    let aggregation ← .ofExcept (lookup ops.aggregations stage
      ("no aggregation registered for stage '" ++ stage ++ "'"))
    .note (.partitioned stage (atLeastOne (hint.getD ops.defaultPartitions)))
    let keyed ← .ofExcept (withKeys (race call) aggregation.key input.items)
    emit stage input.size
      ((Aggregation.group keyed).map fun g => .plain (aggregation.reduce g.1 g.2))

/-- Runs a plugin function on the records of a stage. -/
def applyPlugin (operator : Operator) (stage : Name) (input : Dataset Json)
    (f : List Json → Except Failure (List Json)) : Journaled Failure (Dataset Json) :=
  ops.invoke (.apply operator stage input.extent) do
    let out ← .ofExcept (f input.items)
    return .of out

/-- Publishes alerts. -/
def publishAlerts (stage : Name) (alerts : Dataset Alert) : Journaled Failure Unit :=
  ops.invoke (.apply .publishAlerts stage alerts.extent) do
    .note (.counted stage .input alerts.size)
    .note (.published stage alerts.items)

/-! ## Channels -/

/-- Splits one channel off a stream. -/
def splitOff {ε α : Type} (call : Call) (stage : Name) (combined : Dataset Tagged)
    (keep : Tagged → Option α) : Journaled ε (Dataset α) := do
  .note (.called call)
  .note (.split stage combined.cached)
  return .of (combined.items.filterMap keep)

/-- The errors of a stream. -/
def errorRecords {ε : Type} (stage : Name) (combined : Dataset Tagged) :
    Journaled ε (Dataset ErrorRecord) :=
  splitOff (.apply .errorRecords stage combined.extent) stage combined Tagged.error?

/-- The alerts of a stream. -/
def alertRecords {ε : Type} (stage : Name) (combined : Dataset Tagged) :
    Journaled ε (Dataset Alert) :=
  splitOff (.apply .alertRecords stage combined.extent) stage combined Tagged.alert?

/-- The outputs of a stream that a port filter accepts. -/
def outputRecords {ε : Type} (stage : Name) (combined : Dataset Tagged) (port : Option Name) :
    Journaled ε (Dataset Json) :=
  splitOff (.outputRecords stage combined.extent port) stage combined (Tagged.outputOn port)

/-! ## Joins -/

/-- The key function for an input of a joiner; one for the input alone wins. -/
def keyFunction? (joiner input : Name) : Option KeyFunction :=
  ((ops.inputJoinKeys.get? joiner).bind fun t => Table.get? t input).or (ops.joinKeys.get? joiner)

/-- Pairs the records of an input with their join keys. -/
def addJoinKey (race : Race) (stage input : Name) (records : Dataset Json) :
    Journaled Failure Keyed :=
  let call : Call := .addJoinKey stage records.extent input
  ops.invoke call do
    match ops.keyFunction? stage input with
    | none =>
      .fail (.of ("no join key registered for stage '" ++ stage ++ "' input '" ++ input ++ "'"))
    | some key =>
      let keyed ← .ofExcept (withKeys (race call) key records.items)
      .note (.counted stage .input keyed.length)
      return .of keyed

/-- The rows of the first input. -/
def seedJoin {ε : Type} (input : Name) (keyed : Keyed) : Journaled ε Joined := do
  .note (.called (.seedJoin keyed.extent))
  return Rows.seedAll input keyed

/-- One step of a join. -/
def join {ε : Type} (left : Joined) (right : Keyed) (type : JoinType) (partitions : Option Nat)
    (flatten : Flatten) : Journaled ε Joined := do
  .note (.called (.join left.extent right.extent type partitions))
  return Rows.join ops.defaultPartitions left right type partitions flatten

/-- Turns joined rows into records. -/
def mergeJoinResults (stage : Name) (joined : Joined) : Journaled Failure (Dataset Json) :=
  ops.invoke (.apply .mergeJoinResults stage joined.extent) do
    .note (.counted stage .output joined.size)
    return .of (joined.items.map fun p => Rows.merge p.2)

/-- Lets one input enter a join after those before it. -/
def joinStep {ε : Type} (plan : JoinPlan) (previous : List Name) (rows : Option Joined)
    (step : JoinStep) (keyed : Keyed) : Journaled ε Joined :=
  match rows, step.kind with
  | none, _ | some _, .seed => seedJoin step.input keyed
  | some left, .inner => ops.join left keyed .inner plan.partitions (Rows.flattenInner step.input)
  | some left, .leftOuter =>
    ops.join left keyed .leftOuter plan.partitions (Rows.flattenInner step.input)
  | some left, .fullOuter =>
    ops.join left keyed .fullOuter plan.partitions (Rows.flattenFullOuter step.input previous)

/-- Runs the steps of a plan that are left. -/
def executeSteps (plan : JoinPlan) (keyed : Table Keyed) :
    List JoinStep → (previous : List Name) → Option Joined → Journaled FlowError Joined
  | [], _, rows =>
    match rows with
    | some rows => return rows
    | none => .fail (.noJoinInputs plan.stage)
  | step :: steps, previous, rows =>
    match keyed.get? step.input with
    | none => .fail (.joinInputMissing plan.stage step.input)
    | some stream => do
      let rows ← ops.joinStep plan previous rows step stream
      executeSteps plan keyed steps (previous ++ [step.input]) (some rows)

/-- Runs a plan over keyed inputs. -/
def executeJoin (plan : JoinPlan) (keyed : Table Keyed) : Journaled FlowError Joined :=
  ops.executeSteps plan keyed plan.steps [] none

/-- Plans and runs the join of keyed inputs; the merged records are always kept. -/
def joinInputs (stage : Name) (config : JoinConfig) (keyed : Table Keyed) :
    Journaled FlowError (Dataset Json) := do
  let plan ← .ofExcept (JoinPlan.build stage config keyed.keys)
  let joined ← ops.executeJoin plan keyed
  let merged ← (ops.mergeJoinResults stage joined).blame stage
  return merged.cache

end Operators

end Stageflow
