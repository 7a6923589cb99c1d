import Stageflow.Counters
import Stageflow.Json.Decoder

/-!
# Counts in JSON

The counts of a stage are an object of three numbers of 64 bits.
-/

namespace Stageflow

namespace Metrics

/-- Counts as an object. -/
def toJson (m : Metrics) : Json :=
  .object [("input_records", .ofNat m.input.toNat), ("output_records", .ofNat m.output.toNat),
    ("error_records", .ofNat m.error.toNat)]

/-- The fields of counts read so far. -/
structure Parts where
  input : Option UInt64
  output : Option UInt64
  error : Option UInt64

/-- A number of 64 bits. -/
def countDecoder : Decoder UInt64 := fun m l d =>
  (Decoder.natural UInt64.size "u64" m l d).map UInt64.ofNat

/-- How counts are read. -/
def form : Form Parts where
  title := "struct StageMetrics"
  fields := [
    .of "input_records" countDecoder (fun v p => { p with input := some v }) false,
    .of "output_records" countDecoder (fun v p => { p with output := some v }) false,
    .of "error_records" countDecoder (fun v p => { p with error := some v }) false]
  closed := false

/-- The counts of the fields read. -/
def ofParts (p : Parts) : Except Json.Fault Metrics := do
  let input ← Form.required "input_records" p.input
  let output ← Form.required "output_records" p.output
  let error ← Form.required "error_records" p.error
  return ⟨input, output, error⟩

def decoder : Decoder Metrics := form.decoder ⟨none, none, none⟩ ofParts

end Metrics

namespace Collectors

/-- The counts of every stage, as an object. -/
def toJson (cs : Collectors) : Json := .object (cs.mapValues Metrics.toJson)

end Collectors

end Stageflow
