import Stageflow.Emitted
import Stageflow.Operators
import Stageflow.Phase

/-!
# Routing

Splits the stream of a stage into the channels that its readers take.

* `Taps.ofStage` looks for readers of errors and of alerts.
* `route` makes the channels. The stream is kept if several readers split it; the channels are kept
  if the graph says that the output of the stage is.
-/

namespace Stageflow

/-- Which side channels of a stage are read. -/
structure Taps where
  errors : Bool
  alerts : Bool
deriving DecidableEq, Inhabited

namespace Taps

/-- Whether a stage has a reader of some kind in its phase. -/
def hasReader (p : Phase) (stage : Name) (kind : StageKind) : Bool :=
  (p.outputs stage).any fun n => (p.stage? n).any (·.kind = kind)

/-- The side channels that the readers of a stage take. -/
def ofStage (p : Phase) (stage : Name) : Taps :=
  ⟨hasReader p stage .errorTransform, hasReader p stage .alertPublisher⟩

end Taps

namespace Routing

/-- Whether several readers split the stream of a stage. -/
def splits (s : Stage) (taps : Taps) : Bool := taps.errors || taps.alerts || 1 < s.portNames.length

/-- A channel if it is tapped. -/
def whenTapped {ε α : Type} (tapped : Bool) (channel : Journaled ε α) : Journaled ε (Option α) :=
  if tapped then some <$> channel else pure none

/-- One channel for each of some ports. -/
def portChannels {ε : Type} (s : Stage) (combined : Dataset Tagged) (keep : Bool) :
    List Name → Journaled ε (Table (Dataset Json))
  | [] => return []
  | port :: ports => do
    let channel ← Operators.outputRecords s.name combined (some port)
    let rest ← portChannels s combined keep ports
    return (port, channel.cacheIf keep) :: rest

/-- The output channels of a stage: one for each port, or the main one if it has no ports. -/
def outputChannels {ε : Type} (s : Stage) (combined : Dataset Tagged) (keep : Bool) :
    Journaled ε StageOutput :=
  match s.portNames with
  | [] => do
    let channel ← Operators.outputRecords s.name combined none
    return .main (channel.cacheIf keep)
  | ports => do
    let channels ← portChannels s combined keep ports
    return .ports channels

end Routing

/-- Splits the stream of a stage into its channels. -/
def route {ε : Type} (p : Phase) (s : Stage) (combined : Dataset Tagged) (taps : Taps) :
    Journaled ε Emitted := do
  let combined := combined.cacheIf (Routing.splits s taps)
  let keep := p.caches s.name
  let errors ← Routing.whenTapped taps.errors (Operators.errorRecords s.name combined)
  let alerts ← Routing.whenTapped taps.alerts (Operators.alertRecords s.name combined)
  let output ← Routing.outputChannels s combined keep
  return ⟨output, errors.map (·.cacheIf keep), alerts.map (·.cacheIf keep)⟩

end Stageflow
