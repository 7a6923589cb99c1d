import Stageflow.Error

/-!
# Join plans

The order in which a joiner takes its inputs, and how each of them enters.

* Required inputs come first, in the order in which they are declared; a key that one of them lacks
  has no rows.
* The other inputs follow in ascending order. They may lack a key; if nothing is required, every
  input may, and a key has rows as soon as one of them has it.
-/

namespace Stageflow

/-- What a joiner is configured with. -/
structure JoinConfig where
  required : List Name
  /-- Inputs that must be connected and may lack a key. -/
  optional : List Name
  /-- The number of partitions of every step. -/
  partitions : Option Nat
deriving DecidableEq, Inhabited

/-- How an input enters the join. -/
inductive StepKind
  /-- The first input: its records become rows. -/
  | seed
  | inner
  | leftOuter
  | fullOuter
deriving DecidableEq, Inhabited

/-- The name of a step kind. -/
def StepKind.tag : StepKind → Name
  | seed => "Seed"
  | inner => "Inner"
  | leftOuter => "LeftOuter"
  | fullOuter => "FullOuter"

/-- One input and how it enters. -/
structure JoinStep where
  input : Name
  kind : StepKind
deriving DecidableEq, Inhabited

/-- The steps of a join, in order. -/
structure JoinPlan where
  stage : Name
  steps : List JoinStep
  partitions : Option Nat
  /-- Whether no input is required. -/
  fullOuter : Bool
deriving DecidableEq, Inhabited

namespace JoinPlan

/-- The first input enters as rows, the others by the kind given for them. -/
def seeded (steps : List JoinStep) : List JoinStep :=
  match steps with
  | [] => []
  | s :: ss => { s with kind := .seed } :: ss

/-- The steps for the distinct required inputs and the other inputs. -/
def stepsFor (required others : List Name) : List JoinStep :=
  let rest : StepKind := if required.isEmpty then .fullOuter else .leftOuter
  seeded (required.map (⟨·, .inner⟩) ++ others.map (⟨·, rest⟩))

/-- The plan of a joiner for the inputs that are connected to it. -/
def build (stage : Name) (config : JoinConfig) (inputs : List Name) : Except FlowError JoinPlan :=
  let connected := Names.sorted inputs
  match (config.required ++ Names.sorted config.optional).find? (· ∉ connected) with
  | some missing => .error (.joinInputMissing stage missing)
  | none =>
    let required := distinct config.required
    let steps := stepsFor required (connected.filter (· ∉ required))
    if steps.isEmpty then .error (.noJoinInputs stage)
    else .ok ⟨stage, steps, config.partitions, required.isEmpty⟩

end JoinPlan

end Stageflow
