import Stageflow.Json.Decoder
import Stageflow.Stage

/-!
# Errors

An error is its cause. `FlowError.message` words it, and `FlowError.category` tells a malformed plan
from a failure of something that the engine called.
-/

namespace Stageflow

/-- A failure reported by an operator, a plugin or a sink: its message and those of its causes. -/
structure Failure where
  message : String
  causes : List String
deriving DecidableEq, Inhabited

namespace Failure

/-- A failure without causes. -/
def of (message : String) : Failure := ⟨message, []⟩

/-- A failure by its messages, the outermost first; without messages it has one empty message. -/
def ofChain : List String → Failure
  | [] => ⟨"", []⟩
  | m :: ms => ⟨m, ms⟩

/-- All messages, outermost first. -/
def text (f : Failure) : String := ": ".intercalate (f.message :: f.causes)

end Failure

/-- Why text is no whole number of 64 bits. -/
inductive NumeralError
  | empty
  | invalidDigit
  | tooLarge
deriving DecidableEq, Inhabited

/-- The message of a numeral error. -/
def NumeralError.message : NumeralError → String
  | empty => "cannot parse integer from empty string"
  | invalidDigit => "invalid digit found in string"
  | tooLarge => "number too large to fit in target type"

/-- What is wrong with a phase or with the settings of the engine. -/
inductive ConfigError
  | duplicateStage (stage : Name)
  /-- A stage with ports has a reader of its main output, which it does not have. -/
  | unroutedReader (producer reader : Name)
  | unsupportedVersion (version : Nat)
  | noSinkWorkers
  /-- A variable that should hold a number of workers. -/
  | badWorkers (value : String) (why : NumeralError)
  /-- A variable that should hold a truth value. -/
  | badFlag (value : String)
  | badCategory (text : String)
  | other (message : String)
deriving DecidableEq, Inhabited

/-- The variable that overrides the number of sink workers. -/
def workersVariable : Name := "ETL_ENGINE_MAX_SINK_WORKERS"

/-- The variable that overrides whether the execution plan is logged. -/
def planVariable : Name := "ETL_ENGINE_LOG_EXECUTION_PLAN"

/-- The version of the settings that the engine understands. -/
def settingsVersion : Nat := 1

/-- The message of a configuration error. -/
def ConfigError.message : ConfigError → String
  | duplicateStage s => "Duplicate stage name '" ++ s ++ "'"
  | unroutedReader p c =>
    "Stage '" ++ p ++ "' routes to named ports but consumer '" ++ c ++ "' reads main output"
  | unsupportedVersion v =>
    "Unsupported configuration version " ++ toString v ++ ". Supported versions: " ++
      toString settingsVersion
  | noSinkWorkers => "max_sink_workers must be at least 1"
  | badWorkers v why => workersVariable ++ "='" ++ v ++ "': " ++ why.message
  | badFlag v => planVariable ++ "='" ++ v ++ "': expected true or false"
  | badCategory t => "Invalid error category: " ++ t
  | other m => m

/-- Whose fault an error is. -/
inductive ErrorCategory
  /-- The plan is malformed. -/
  | configuration
  /-- Something that the engine called failed. -/
  | execution
deriving DecidableEq, Inhabited

/-- Everything that can go wrong. -/
inductive FlowError
  | missingGraph
  | cycle (stage : Name)
  | noInput (stage : Name)
  | noJoinInputs (stage : Name)
  | joinInputMissing (stage input : Name)
  | unsupportedStage (stage kind : Name)
  | unsupportedKind (kind : Name)
  | collaborator (stage : Name) (failure : Failure)
  | sinkFailed (stage : Name) (failure : Failure)
  | sinkPanicked (stage : Name) (message : String)
  | config (why : ConfigError)
  | yaml
  | json (why : Json.Fault)
  | io (message : String)
deriving DecidableEq, Inhabited

namespace FlowError

/-- The text of an error. Malformed YAML or JSON text has no message of its own. -/
def message : FlowError → String
  | missingGraph => "Pipeline phase has no connections"
  | cycle s => "DAG cycle detected at stage '" ++ s ++ "'"
  | noInput s => "Stage '" ++ s ++ "' has no input and is not a source"
  | noJoinInputs s => "There are no inputs into join stage '" ++ s ++ "'"
  | joinInputMissing s i =>
    "Join stage '" ++ s ++ "' declares input '" ++ i ++ "' which is not connected to it"
  | unsupportedStage s k => "Stage '" ++ s ++ "' is of unsupported kind '" ++ k ++ "'"
  | unsupportedKind k => "Unsupported stage kind: " ++ k
  | collaborator s f => "Stage '" ++ s ++ "' failed: " ++ f.text
  | sinkFailed s f => "Sink '" ++ s ++ "' failed: " ++ f.text
  | sinkPanicked s m => "Sink '" ++ s ++ "' panicked: " ++ m
  | config why => "Configuration error: " ++ why.message
  | yaml => "YAML parsing error: "
  | json (.mismatch why) => "JSON parsing error: " ++ why.message
  | json .malformed => "JSON parsing error: "
  | io m => "IO error: " ++ m

/-- The category of an error. -/
def category : FlowError → ErrorCategory
  | collaborator .. | sinkFailed .. | sinkPanicked .. => .execution
  | _ => .configuration

/-- The outermost message of the failure behind an error. -/
def source? : FlowError → Option String
  | collaborator _ f | sinkFailed _ f => some f.message
  | _ => none

end FlowError

namespace ErrorCategory

/-- The name of a category in text. -/
def tag : ErrorCategory → Name
  | configuration => "configuration"
  | execution => "execution"

/-- The name of a category as a variant of its type. -/
def variant : ErrorCategory → Name
  | configuration => "Configuration"
  | execution => "Execution"

/-- Every category. -/
def all : List ErrorCategory := [configuration, execution]

/-- The category with a tag. -/
def parse (t : Name) : Except FlowError ErrorCategory :=
  match all.find? (·.tag = t) with
  | some c => .ok c
  | none => .error (.config (.badCategory t))

end ErrorCategory

namespace StageKind

/-- The kind with a tag, or the error that there is none. -/
def parse (t : Name) : Except FlowError StageKind :=
  match ofTag? t with
  | some k => .ok k
  | none => .error (.unsupportedKind t)

end StageKind

end Stageflow
