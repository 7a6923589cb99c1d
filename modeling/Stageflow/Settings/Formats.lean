import Stageflow.Settings
import Stageflow.Yaml.Decoder

/-!
# Reading settings

Settings are read from a mapping in which every field may be left out and no other field may stand.

* `Settings.ofYamlText` reads and validates a text, `Settings.ofFile` the content of a file.
* `Settings.decoder` reads settings from JSON, without validation.
-/

namespace Stageflow

namespace Settings

/-- How settings are read from JSON. -/
def form : Form Settings where
  title := "struct EngineConfig"
  fields := [
    .of versionName (Decoder.natural UInt32.size "u32")
      (fun v s => { s with version := UInt32.ofNat v }) true,
    .of workersName (Decoder.option (Decoder.natural UInt64.size "usize"))
      (fun v s => { s with maxSinkWorkers := v.map UInt64.ofNat }) true,
    .of planName Decoder.bool (fun v s => { s with logExecutionPlan := v }) true]
  closed := true

def decoder : Decoder Settings := form.decoder default .ok

/-- Settings as an object; a bound that is not there is left out. -/
def toJson (s : Settings) : Json :=
  .object (
    (versionName, Json.ofNat s.version.toNat) ::
    ((match s.maxSinkWorkers with
      | some n => [(workersName, Json.ofNat n.toNat)]
      | none => []) ++
    [(planName, Json.bool s.logExecutionPlan)]))

/-- Reads settings from YAML. -/
def reading : Yaml.Reading Settings :=
  Yaml.Reading.fields [
    .of versionName (Yaml.Reading.natural UInt32.size) fun v s =>
      { s with version := UInt32.ofNat v },
    .of workersName (Yaml.Reading.option (Yaml.Reading.natural UInt64.size)) fun v s =>
      { s with maxSinkWorkers := v.map UInt64.ofNat },
    .of planName Yaml.Reading.bool fun v s => { s with logExecutionPlan := v }]
    true default some

/-- The settings that a YAML text holds, if the engine can run with them. -/
def ofYamlText (s : String) : Except FlowError Settings :=
  match Yaml.Reading.parse reading s with
  | some c => c.validated
  | none => .error .yaml

/-- The settings in a file with some content; `none` if there is no file. -/
def ofFile : Option ByteArray → Except FlowError Settings
  | none => .error (.io "No such file or directory (os error 2)")
  | some bytes =>
    match String.fromUTF8? bytes with
    | some s => ofYamlText s
    | none => .error (.io "stream did not contain valid UTF-8")

end Settings

end Stageflow

