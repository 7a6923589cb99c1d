import Stageflow.Phase
import Stageflow.Yaml.Decoder

/-!
# Phases in YAML

The shape is that of a phase in JSON: a mapping of its stages and its connections.
-/

namespace Stageflow

open Yaml

namespace Stage

/-- Reads the mapping of a port. -/
def portReading : Reading Name :=
  Reading.fields [.of "port" Reading.string fun v _ => some v] false (none : Option Name) id

/-- Reads a stage. -/
def reading : Reading Stage :=
  Reading.fields [
    .of "name" Reading.string fun v p => (some v, p.2),
    .of "kind" (Reading.variant (StageKind.all.map fun k => (k.tag, k))) fun v p =>
      (p.1, some v, p.2.2),
    .of "output_ports" (Reading.table portReading) fun v p => (p.1, p.2.1, some v)]
    false ((none, none, none) : Option Name × Option StageKind × Option (Table Name))
    fun p => do return ⟨← p.1, ← p.2.1, p.2.2.getD []⟩

end Stage

namespace PhaseSpec

/-- Reads a connection. -/
def edgeReading : Reading Edge :=
  Reading.fields [
    .of "from" Reading.string fun v p => (some v, p.2),
    .of "to" Reading.string fun v p => (p.1, some v)]
    false ((none, none) : Option Name × Option Name)
    fun p => do return (← p.1, ← p.2)

/-- Reads a phase. -/
def reading : Reading PhaseSpec :=
  Reading.fields [
    .of "stages" (Reading.list Stage.reading) fun v p => (some v, p.2),
    .of "connections" (Reading.list edgeReading) fun v p => (p.1, some v)]
    true ((none, none) : Option (List Stage) × Option (List Edge))
    fun p => do return ⟨← p.1, p.2.getD []⟩

end PhaseSpec

namespace Phase

/-- The phase that a YAML text declares. -/
def ofYamlText (s : String) : Except FlowError Phase :=
  match Reading.parse PhaseSpec.reading s with
  | some spec => ofSpec spec
  | none => .error .yaml

end Phase

end Stageflow
