import Stageflow.Json.Value

/-!
# Records

A record is a JSON value. A stage emits tagged records: outputs, errors and alerts in one stream.
A joined row holds one element for every input joined so far.

* `Tagged.outputOn` is the filter of a port: no port accepts every output.
* `JoinElement.compare` orders elements by stage, an absent record before a present one, and present
  records by their text.
-/

namespace Stageflow

/-- A record that a stage rejected. -/
structure ErrorRecord where
  record : Json
  code : Int32
  message : String
  /-- The stage that rejected it. -/
  stage : Name
deriving Inhabited

/-- A message to be published. -/
structure Alert where
  stage : Name
  payload : Table String
deriving DecidableEq, Inhabited

/-- An element of the stream that a stage emits. -/
inductive Tagged
  | output (port : Option Name) (record : Json)
  | error (e : ErrorRecord)
  | alert (a : Alert)
deriving Inhabited

namespace Tagged

/-- An output on no port. -/
def plain (record : Json) : Tagged := output none record

def isOutput : Tagged → Bool
  | output .. => true
  | _ => false

def isError : Tagged → Bool
  | error _ => true
  | _ => false

def isAlert : Tagged → Bool
  | alert _ => true
  | _ => false

def error? : Tagged → Option ErrorRecord
  | error e => some e
  | _ => none

def alert? : Tagged → Option Alert
  | alert a => some a
  | _ => none

/-- The record of an output that a port filter accepts; without a port every output is accepted. -/
def outputOn (filter : Option Name) : Tagged → Option Json
  | output port record =>
    match filter with
    | none => some record
    | some wanted => if port = some wanted then some record else none
  | _ => none

end Tagged

/-- What one input contributes to a joined row; without a record the input had no match. -/
structure JoinElement where
  stage : Name
  record : Option Json
deriving Inhabited

/-- One element for each input joined so far. -/
abbrev JoinRow := List JoinElement

namespace JoinElement

def present (stage : Name) (record : Json) : JoinElement := ⟨stage, some record⟩

def absent (stage : Name) : JoinElement := ⟨stage, none⟩

def isAbsent (e : JoinElement) : Bool := e.record.isNone

/-- Order of texts by their characters. -/
def compareText (a b : String) : Ordering := if a < b then .lt else if a = b then .eq else .gt

/-- Order of records: none comes first, others by their text. -/
def compareRecord : Option Json → Option Json → Ordering
  | none, none => .eq
  | none, some _ => .lt
  | some _, none => .gt
  | some a, some b => compareText a.text b.text

/-- Order by stage, then by record. -/
def compare (a b : JoinElement) : Ordering :=
  (compareText a.stage b.stage).then (compareRecord a.record b.record)

/-- Whether two elements are one in every row: same stage, and records of the same text. -/
def same (a b : JoinElement) : Bool := a.compare b == .eq

end JoinElement

end Stageflow
