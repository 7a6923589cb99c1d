import Stageflow.Json.Decoder
import Stageflow.Stage

/-!
# Stages in JSON

A stage is an object of its name, its kind and its ports; the ports may be left out when it is read
and are always written. Other members are passed over.
-/

namespace Stageflow

namespace SourceKind

def toJson (k : SourceKind) : Json := .string k.tag

def decoder : Decoder SourceKind := Decoder.variant (all.map fun k => (k.tag, k))

end SourceKind

namespace StageKind

def toJson (k : StageKind) : Json := .string k.tag

def decoder : Decoder StageKind := Decoder.variant (all.map fun k => (k.tag, k))

end StageKind

namespace Stage

/-- The object of a port. -/
def portToJson (port : Name) : Json := .object [("port", .string port)]

/-- A stage as an object. -/
def toJson (s : Stage) : Json :=
  .object [("name", .string s.name), ("kind", s.kind.toJson),
    ("output_ports", .object (s.ports.mapValues portToJson))]

/-- How the object of a port is read. -/
def portForm : Form (Option Name) where
  title := "struct PortSpec"
  fields := [.of "port" Decoder.string (fun v _ => some v) false]
  closed := false

def portDecoder : Decoder Name := portForm.decoder none (Form.required "port")

/-- The fields of a stage read so far. -/
structure Parts where
  name : Option Name
  kind : Option StageKind
  ports : Option (Table Name)

/-- How a stage is read. -/
def form : Form Parts where
  title := "struct StageSpec"
  fields := [
    .of "name" Decoder.string (fun v p => { p with name := some v }) false,
    .of "kind" StageKind.decoder (fun v p => { p with kind := some v }) false,
    .of "output_ports" (Decoder.table portDecoder) (fun v p => { p with ports := some v }) true]
  closed := false

/-- The stage of the fields read. -/
def ofParts (p : Parts) : Except Json.Fault Stage := do
  let name ← Form.required "name" p.name
  let kind ← Form.required "kind" p.kind
  return ⟨name, kind, p.ports.getD []⟩

def decoder : Decoder Stage := form.decoder ⟨none, none, none⟩ ofParts

end Stage

end Stageflow
