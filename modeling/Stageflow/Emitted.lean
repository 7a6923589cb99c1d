import Stageflow.Dataset
import Stageflow.Record

/-!
# Emitted channels

What the visited stages have emitted, in the order of the visits. A stage emits nothing, one main
channel, or one channel for each of its ports; beside that it may emit errors and alerts.
-/

namespace Stageflow

/-- The output channels of a stage. -/
inductive StageOutput
  | empty
  | main (records : Dataset Json)
  | ports (byPort : Table (Dataset Json))
deriving Inhabited

namespace StageOutput

def main? : StageOutput → Option (Dataset Json)
  | main d => some d
  | _ => none

def port? : StageOutput → Name → Option (Dataset Json)
  | ports t, p => t.get? p
  | _, _ => none

end StageOutput

/-- All channels of a stage. -/
structure Emitted where
  output : StageOutput
  errors : Option (Dataset ErrorRecord)
  alerts : Option (Dataset Alert)
deriving Inhabited

namespace Emitted

/-- No channels at all. -/
def empty : Emitted := ⟨.empty, none, none⟩

/-- Only a main channel. -/
def main (d : Dataset Json) : Emitted := ⟨.main d, none, none⟩

def isEmpty (e : Emitted) : Bool :=
  match e with
  | ⟨.empty, none, none⟩ => true
  | _ => false

end Emitted

/-- The channels of the visited stages, in the order of the visits. -/
abbrev Registry := List (Name × Emitted)

namespace Registry

/-- The channels of a stage. -/
def get? (r : Registry) (stage : Name) : Option Emitted := (r.find? (·.1 = stage)).map (·.2)

/-- Adds the channels of a stage. -/
def record (r : Registry) (stage : Name) (e : Emitted) : Registry := r ++ [(stage, e)]

/-- Adds the channels of a stage unless it has an entry. -/
def recordNew? (r : Registry) (stage : Name) (e : Emitted) : Option Registry :=
  if (r.get? stage).isSome then none else some (r.record stage e)

/-- What a reader of a port, or of the main channel, takes from a stage. -/
def outputOf (r : Registry) (stage : Name) (port : Option Name) : Option (Dataset Json) :=
  (r.get? stage).bind fun e =>
    match port with
    | some p => e.output.port? p
    | none => e.output.main?

def errorsOf (r : Registry) (stage : Name) : Option (Dataset ErrorRecord) :=
  (r.get? stage).bind (·.errors)

def alertsOf (r : Registry) (stage : Name) : Option (Dataset Alert) :=
  (r.get? stage).bind (·.alerts)

/-- The visited stages. -/
def stages (r : Registry) : List Name := r.map (·.1)

end Registry

end Stageflow
