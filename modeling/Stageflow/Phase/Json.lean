import Stageflow.Phase
import Stageflow.Record.Json
import Stageflow.Stage.Json

/-!
# Phases in JSON

A phase is an object of its stages and its connections, and of nothing else; the connections may be
left out.
-/

namespace Stageflow

namespace PhaseSpec

/-- A connection as an object. -/
def edgeToJson (e : Edge) : Json := .object [("from", .string e.1), ("to", .string e.2)]

/-- A phase as an object. -/
def toJson (p : PhaseSpec) : Json :=
  .object [("stages", .array (p.stages.map Stage.toJson)),
    ("connections", .array (p.connections.map edgeToJson))]

/-- How a connection is read. -/
def edgeForm : Form (Option Name × Option Name) where
  title := "struct Connection"
  fields := [
    .of "from" Decoder.string (fun v p => (some v, p.2)) false,
    .of "to" Decoder.string (fun v p => (p.1, some v)) false]
  closed := false

/-- The connection of the fields read. -/
def edgeOfParts (p : Option Name × Option Name) : Except Json.Fault Edge := do
  let producer ← Form.required "from" p.1
  let reader ← Form.required "to" p.2
  return (producer, reader)

def edgeDecoder : Decoder Edge := edgeForm.decoder (none, none) edgeOfParts

/-- The fields of a phase read so far. -/
structure Parts where
  stages : Option (List Stage)
  connections : Option (List Edge)

/-- How a phase is read. -/
def form : Form Parts where
  title := "struct PhaseSpec"
  fields := [
    .of "stages" (Decoder.list Stage.decoder) (fun v p => { p with stages := some v }) false,
    .of "connections" (Decoder.list edgeDecoder) (fun v p => { p with connections := some v }) true]
  closed := true

/-- The phase of the fields read. -/
def ofParts (p : Parts) : Except Json.Fault PhaseSpec := do
  let stages ← Form.required "stages" p.stages
  return ⟨stages, p.connections.getD []⟩

def decoder : Decoder PhaseSpec := form.decoder ⟨none, none⟩ ofParts

end PhaseSpec

namespace Phase

/-- The phase that a JSON text declares. -/
def ofJsonText (s : String) : Except FlowError Phase :=
  match Decoder.parse PhaseSpec.decoder s with
  | .ok spec => ofSpec spec
  | .error e => .error (.json e)

end Phase

end Stageflow
