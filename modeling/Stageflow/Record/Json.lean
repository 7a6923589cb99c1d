import Stageflow.Json.Decoder
import Stageflow.Record

/-!
# Records in JSON

Tagged records are objects with a member `type`, which may stand anywhere among the others. An
output without a port is written without the member `port`. An absent record of a joined row is
written as `null`, as is a present record that is `null`.
-/

namespace Stageflow

open Json

namespace ErrorRecord

/-- The members of an error, in the order in which they are written. -/
def members (e : ErrorRecord) : List (Name × Json) :=
  [("record", e.record), ("code", .int e.code.toInt), ("message", .string e.message),
    ("stage", .string e.stage)]

def toJson (e : ErrorRecord) : Json := .object e.members

/-- The fields of an error read so far. -/
structure Parts where
  record : Option Json
  code : Option Int32
  message : Option String
  stage : Option Name

/-- A number of 32 bits with a sign. -/
def codeDecoder : Decoder Int32 := fun m l d =>
  (Decoder.whole (-0x80000000) 0x7fffffff "i32" m l d).map Int32.ofInt

/-- How an error is read. -/
def form : Form Parts where
  title := "struct ErrorRecord"
  fields := [
    .of "record" Decoder.value (fun v p => { p with record := some v }) false,
    .of "code" codeDecoder (fun v p => { p with code := some v }) false,
    .of "message" Decoder.string (fun v p => { p with message := some v }) false,
    .of "stage" Decoder.string (fun v p => { p with stage := some v }) false]
  closed := false

/-- The error of the fields read. -/
def ofParts (p : Parts) : Except Fault ErrorRecord := do
  let record ← Form.required "record" p.record
  let code ← Form.required "code" p.code
  let message ← Form.required "message" p.message
  let stage ← Form.required "stage" p.stage
  return ⟨record, code, message, stage⟩

def decoder : Decoder ErrorRecord := form.decoder ⟨none, none, none, none⟩ ofParts

end ErrorRecord

namespace Alert

/-- The members of an alert, in the order in which they are written. -/
def members (a : Alert) : List (Name × Json) :=
  [("stage", .string a.stage), ("payload", .object (a.payload.mapValues .string))]

def toJson (a : Alert) : Json := .object a.members

/-- The fields of an alert read so far. -/
structure Parts where
  stage : Option Name
  payload : Option (Table String)

/-- How an alert is read. -/
def form : Form Parts where
  title := "struct Alert"
  fields := [
    .of "stage" Decoder.string (fun v p => { p with stage := some v }) false,
    .of "payload" (Decoder.table Decoder.string) (fun v p => { p with payload := some v }) false]
  closed := false

/-- The alert of the fields read. -/
def ofParts (p : Parts) : Except Fault Alert := do
  let stage ← Form.required "stage" p.stage
  let payload ← Form.required "payload" p.payload
  return ⟨stage, payload⟩

def decoder : Decoder Alert := form.decoder ⟨none, none⟩ ofParts

end Alert

namespace Tagged

/-- Which kind of element an object says that it is. -/
inductive Tag
  | output
  | error
  | alert
deriving DecidableEq

/-- The tags by their names. -/
def tags : List (Name × Tag) := [("output", .output), ("error", .error), ("alert", .alert)]

/-- The name of the member that holds the tag. -/
def tagField : Name := "type"

def toJson : Tagged → Json
  | output none record => .object [(tagField, .string "output"), ("record", record)]
  | output (some port) record =>
    .object [(tagField, .string "output"), ("port", .string port), ("record", record)]
  | error e => .object ((tagField, .string "error") :: e.members)
  | alert a => .object ((tagField, .string "alert") :: a.members)

/-- The fields of an output read so far. -/
structure Parts where
  port : Option (Option Name)
  record : Option Json

/-- How an output is read. -/
def outputForm : Form Parts where
  title := "struct variant RecordInfo::Output"
  fields := [
    .of "port" (Decoder.option Decoder.string) (fun v p => { p with port := some v }) true,
    .of "record" Decoder.value (fun v p => { p with record := some v }) false]
  closed := false

/-- The output of the fields read. -/
def ofParts (p : Parts) : Except Fault Tagged := do
  let record ← Form.required "record" p.record
  return .output (p.port.getD none) record

/-- How the content of an element is read once its tag is known. -/
def content : Tag → Decoder Tagged
  | .output => outputForm.decoder ⟨none, none⟩ ofParts
  | .error => fun m l d => (ErrorRecord.decoder m l d).map .error
  | .alert => fun m l d => (Alert.decoder m l d).map .alert

/-- Finds the tag among members; the others are set aside after a check that they are values. -/
def splitTag (m : Medium) (levels : Nat) :
    List (Document × Document) → Option Tag → List (Document × Document) →
    Except Fault (Option Tag × List (Document × Document))
  | [], tag, others => .ok (tag, others.reverse)
  | (.string (some k), d) :: ds, tag, others =>
    if k = tagField then
      if tag.isSome then .error (.mismatch (.duplicateField tagField))
      else do
        let t ← Decoder.variantName tags m levels d
        splitTag m levels ds (some t) others
    else do
      let _ ← d.toValue levels
      splitTag m levels ds tag ((.string (some k), d) :: others)
  | _, _, _ => .error .malformed

/-- An element: an object with its tag anywhere, or an array that begins with the tag. -/
def decoder : Decoder Tagged
  | m, levels, .object ds =>
    match levels with
    | 0 => .error .malformed
    | l + 1 => do
      let (tag, others) ← splitTag m l ds none []
      let tag ← Form.required tagField tag
      content tag .aside (l + 1) (.object others)
  | m, levels, .array ds =>
    match levels with
    | 0 => .error .malformed
    | l + 1 =>
      match ds with
      | [] => .error (.mismatch (.missingField tagField))
      | d :: ds => do
        let tag ← Decoder.variantName tags m l d
        let _ ← Document.toItems l ds
        content tag .aside (l + 1) (.array ds)
  | _, _, d => .error (d.unexpected "internally tagged enum RecordInfo")

end Tagged

namespace JoinElement

/-- An element as an object; without a record it holds `null`. -/
def toJson (e : JoinElement) : Json :=
  .object [("stage", .string e.stage), ("record", e.record.getD .null)]

/-- The fields of an element read so far. -/
structure Parts where
  stage : Option Name
  record : Option (Option Json)

/-- How an element is read; `null` is no record. -/
def form : Form Parts where
  title := "struct JoinElement"
  fields := [
    .of "stage" Decoder.string (fun v p => { p with stage := some v }) false,
    .of "record" (Decoder.option Decoder.value) (fun v p => { p with record := some v }) false]
  closed := false

/-- The element of the fields read. -/
def ofParts (p : Parts) : Except Fault JoinElement := do
  let stage ← Form.required "stage" p.stage
  return ⟨stage, p.record.getD none⟩

def decoder : Decoder JoinElement := form.decoder ⟨none, none⟩ ofParts

end JoinElement

end Stageflow
