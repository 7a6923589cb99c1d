import Stageflow.Operators
import Stageflow.Record.Json

/-!
# Rules

Transformations given as data: a list of rules, of which the first that matches a record says what
is emitted for it. No match emits nothing.
-/

namespace Stageflow

/-- What a record must satisfy. -/
inductive Condition
  | always
  | hasField (field : Name)
  | fieldEquals (field : Name) (value : Json)
  /-- The field is a whole number of 64 bits with a sign, and below a bound. -/
  | fieldBelow (field : Name) (bound : Int)
deriving Inhabited

namespace Condition

/-- Whether a value is a whole number of 64 bits with a sign, below a bound. -/
def isBelow (bound : Int) : Json → Bool
  | .number (.int n) => n < 0x8000000000000000 && n < bound
  | _ => false

/-- Whether a record satisfies a condition. -/
def holds (record : Json) : Condition → Bool
  | always => true
  | hasField f => (record.field? f).isSome
  | fieldEquals f v => (record.field? f).any (·.same v)
  | fieldBelow f n => (record.field? f).any (isBelow n)

end Condition

/-- What a rule emits; without a record of its own it emits the record that it matched. -/
inductive Emission
  | output (port : Option Name) (record : Option Json)
  | error (code : Int32) (message : String) (record : Option Json)
  | alert (payload : Table String)
deriving Inhabited

namespace Emission

/-- The element that is emitted by a stage for a record. -/
def tagged (stage : Name) (record : Json) : Emission → Tagged
  | output port own => .output port (own.getD record)
  | error code message own => .error ⟨own.getD record, code, message, stage⟩
  | alert payload => .alert ⟨stage, payload⟩

end Emission

/-- What is emitted for the records that satisfy a condition. -/
structure Rule where
  condition : Condition
  emit : List Emission
deriving Inhabited

namespace Rule

/-- What a stage emits for a record. -/
def apply (stage : Name) (rules : List Rule) (record : Json) : List Tagged :=
  match rules.find? fun r => r.condition.holds record with
  | some r => r.emit.map (Emission.tagged stage record)
  | none => []

/-- What a stage emits for an error, which rules see as an object. -/
def applyToError (stage : Name) (rules : List Rule) (e : ErrorRecord) : List Tagged :=
  apply stage rules (.ofMembers e.members)

end Rule

end Stageflow
