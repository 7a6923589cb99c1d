import Stageflow.Error
import Stageflow.Text.Blank

/-!
# Settings of the engine

* `Settings.validate` accepts the version that the engine understands, with at least one worker if
  the number of workers is bounded.
* `Settings.override` replaces what two variables say; the number of workers is looked at first, and
  the result is validated last.
* `Settings.toYaml` writes a line for each setting that is there.
-/

namespace Stageflow

/-- The settings of the engine. -/
structure Settings where
  version : UInt32
  /-- How many sinks may be written to at once; without a bound, all of them. -/
  maxSinkWorkers : Option UInt64
  /-- Whether the execution plan is logged at the start of a run. -/
  logExecutionPlan : Bool
deriving DecidableEq, Inhabited

namespace Settings

/-- The settings where nothing is said. -/
def default : Settings := ⟨1, none, true⟩

/-- Whether the engine can run with these settings. -/
def validate (s : Settings) : Except FlowError Unit :=
  if s.version.toNat ≠ settingsVersion then .error (.config (.unsupportedVersion s.version.toNat))
  else if s.maxSinkWorkers = some 0 then .error (.config .noSinkWorkers)
  else .ok ()

/-- The settings, if the engine can run with them. -/
def validated (s : Settings) : Except FlowError Settings := do
  s.validate
  return s

/-! ## Overrides -/

/-- Reads digits after a number, as long as it fits 64 bits. -/
def readDigits : Nat → List Char → Except NumeralError Nat
  | n, [] => .ok n
  | n, c :: cs =>
    if c < '0' ∨ '9' < c then .error .invalidDigit
    else
      let m := n * 10 + (c.toNat - '0'.toNat)
      if m < UInt64.size then readDigits m cs else .error .tooLarge

/-- Reads a whole number of 64 bits, with or without a plus sign. -/
def readWorkers : List Char → Except NumeralError Nat
  | [] => .error .empty
  | ['+'] => .error .invalidDigit
  | '+' :: cs => readDigits 0 cs
  | cs => readDigits 0 cs

/-- Reads a truth value in one of its spellings. -/
def readFlag? (text : String) : Option Bool :=
  if text ∈ ["1", "true", "yes"] then some true
  else if text ∈ ["0", "false", "no"] then some false
  else none

/-- Replaces the number of workers by what a variable says. -/
def overrideWorkers (s : Settings) : Option String → Except FlowError Settings
  | none => .ok s
  | some value =>
    match readWorkers (Text.trim value.toList) with
    | .ok n => .ok { s with maxSinkWorkers := some (UInt64.ofNat n) }
    | .error e => .error (.config (.badWorkers value e))

/-- Replaces whether the plan is logged by what a variable says. -/
def overridePlan (s : Settings) : Option String → Except FlowError Settings
  | none => .ok s
  | some value =>
    let text := String.ofList (Text.trim value.toList)
    match readFlag? text with
    | some b => .ok { s with logExecutionPlan := b }
    | none => .error (.config (.badFlag text))

/-- Replaces settings by what the two variables say. -/
def override (s : Settings) (workers plan : Option String) : Except FlowError Settings := do
  let s ← s.overrideWorkers workers
  let s ← s.overridePlan plan
  s.validated

/-! ## Text -/

/-- A line of a name and a value. -/
def line (name : List Char) (value : List Char) : List Char := name ++ ':' :: ' ' :: value ++ ['\n']

/-- The name of the version. -/
def versionName : Name := "version"

/-- The name of the bound on sink workers. -/
def workersName : Name := "max_sink_workers"

/-- The name of the plan setting. -/
def planName : Name := "log_execution_plan"

/-- The settings as YAML text; a bound that is not there has no line. -/
def toYaml (s : Settings) : String :=
  String.ofList (
    line versionName.toList (Nat.toDigits 10 s.version.toNat) ++
    (match s.maxSinkWorkers with
      | some n => line workersName.toList (Nat.toDigits 10 n.toNat)
      | none => []) ++
    line planName.toList (if s.logExecutionPlan then "true".toList else "false".toList))

end Settings

end Stageflow
