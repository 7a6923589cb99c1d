import Stageflow.Json.Document
import Stageflow.Text.Quoted

/-!
# Typed readers of JSON

A `Decoder` reads a value of some type from a document and stops at the first fault in the order of
the text. A fault is either malformed text or a `Mismatch`: well-formed text that is no value of
the type.

* `Form.decoder` reads a structure from an object, or from an array of its fields in order.
* `Decoder.variant` reads a name out of a closed set.
* `Decoder.parse` reads a text, `Decoder.check` a value that is at hand.
-/

namespace Stageflow

namespace Json

/-- What stands in the document where another thing is expected. -/
inductive Found
  | null
  | bool (b : Bool)
  | number (n : Number)
  | string (s : String)
  | sequence
  | map
deriving DecidableEq

namespace Found

/-- What was found, in words. -/
def text : Found → String
  | null => "null"
  | bool b => "boolean `" ++ (if b then "true" else "false") ++ "`"
  | number (.int n) => "integer `" ++ String.ofList (decimal n) ++ "`"
  | number (.float d) => "floating point `" ++ String.ofList d.text ++ "`"
  | string s => "string " ++ Text.quote s
  | sequence => "sequence"
  | map => "map"

end Found

/-- Why well-formed JSON is no value of a type. -/
inductive Mismatch
  | missingField (field : Name)
  | unknownField (field : Name) (known : List Name)
  | duplicateField (field : Name)
  | unknownVariant (variant : Name) (known : List Name)
  | invalidType (found : Found) (expected : String)
  | invalidValue (found : Found) (expected : String)
  | invalidLength (length : Nat) (expected : String)
deriving DecidableEq

/-- A name in back quotes. -/
def backquoted (s : String) : String := "`" ++ s ++ "`"

/-- The choice between names, in words. -/
def oneOf : List Name → String
  | [a] => backquoted a
  | [a, b] => backquoted a ++ " or " ++ backquoted b
  | names => "one of " ++ ", ".intercalate (names.map backquoted)

/-- The message of a mismatch. -/
def Mismatch.message : Mismatch → String
  | missingField f => "missing field " ++ backquoted f
  | unknownField f known => "unknown field " ++ backquoted f ++ ", expected " ++ oneOf known
  | duplicateField f => "duplicate field " ++ backquoted f
  | unknownVariant v known => "unknown variant " ++ backquoted v ++ ", expected " ++ oneOf known
  | invalidType found expected => "invalid type: " ++ found.text ++ ", expected " ++ expected
  | invalidValue found expected => "invalid value: " ++ found.text ++ ", expected " ++ expected
  | invalidLength n expected => "invalid length " ++ toString n ++ ", expected " ++ expected

/-- Why a value cannot be read. -/
inductive Fault
  | malformed
  | mismatch (why : Mismatch)
deriving DecidableEq

/-- Where a document comes from. -/
inductive Medium
  /-- It is being read from text. -/
  | text
  /-- It is a value at hand. -/
  | value
  /-- It was set aside while the variant of a tagged object was looked for. -/
  | aside
deriving DecidableEq

/-- How many brackets a text may have open at once. -/
def maxDepth : Nat := 127

end Json

open Json

/-- Reads a value from a document; the number bounds the brackets that may still be opened. -/
abbrev Decoder (α : Type) := Medium → Nat → Document → Except Fault α

namespace Document

/-- The fault of finding this document where something else is expected. -/
def unexpected (expected : String) : Document → Fault
  | null => .mismatch (.invalidType .null expected)
  | bool b => .mismatch (.invalidType (.bool b) expected)
  | number (some n) => .mismatch (.invalidType (.number n) expected)
  | string (some s) => .mismatch (.invalidType (.string s) expected)
  | array _ => .mismatch (.invalidType .sequence expected)
  | object _ => .mismatch (.invalidType .map expected)
  | _ => .malformed

mutual

/-- The value of a document; of two members with one name the later stays. -/
def toValue (levels : Nat) : Document → Except Fault Json
  | null => .ok .null
  | bool b => .ok (.bool b)
  | number (some n) => .ok (.number n)
  | string (some s) => .ok (.string s)
  | array items =>
    match levels with
    | 0 => .error .malformed
    | l + 1 => (toItems l items).map .array
  | object members =>
    match levels with
    | 0 => .error .malformed
    | l + 1 => (toMembers l members).map .ofMembers
  | _ => .error .malformed

/-- The values of items. -/
def toItems (levels : Nat) : List Document → Except Fault (List Json)
  | [] => .ok []
  | v :: vs => do
    let v ← toValue levels v
    let vs ← toItems levels vs
    return v :: vs

/-- The values of members, in the order of the text. -/
def toMembers (levels : Nat) : List (Document × Document) → Except Fault (List (Name × Json))
  | [] => .ok []
  | (string (some k), v) :: ms => do
    let v ← toValue levels v
    let ms ← toMembers levels ms
    return (k, v) :: ms
  | _ => .error .malformed

end

end Document

namespace Decoder

variable {α : Type}

/-- Any value. -/
def value : Decoder Json := fun _ levels d => d.toValue levels

/-- A string. -/
def string : Decoder String
  | _, _, .string (some s) => .ok s
  | _, _, d => .error (d.unexpected "a string")

/-- A truth value. -/
def bool : Decoder Bool
  | _, _, .bool b => .ok b
  | _, _, d => .error (d.unexpected "a boolean")

/-- A whole number between two bounds; the title names the type in faults. -/
def whole (low high : Int) (title : String) : Decoder Int
  | _, _, .number (some (.int n)) =>
    if low ≤ n ∧ n ≤ high then .ok n
    else .error (.mismatch (.invalidValue (.number (.int n)) title))
  | _, _, d => .error (d.unexpected title)

/-- A natural number below a bound. -/
def natural (size : Nat) (title : String) : Decoder Nat := fun m levels d =>
  (whole 0 (size - 1) title m levels d).map Int.toNat

/-- A value that may be `null`. -/
def option (item : Decoder α) : Decoder (Option α)
  | _, _, .null => .ok none
  | m, levels, d => (item m levels d).map some

/-- Reads items one after the other. -/
def items (item : Decoder α) (m : Medium) (levels : Nat) : List Document → Except Fault (List α)
  | [] => .ok []
  | d :: ds => do
    let a ← item m levels d
    let as ← items item m levels ds
    return a :: as

/-- An array. -/
def list (item : Decoder α) : Decoder (List α)
  | m, levels, .array ds =>
    match levels with
    | 0 => .error .malformed
    | l + 1 => items item m l ds
  | _, _, d => .error (d.unexpected "a sequence")

/-- Reads members one after the other. -/
def entries (item : Decoder α) (m : Medium) (levels : Nat) :
    List (Document × Document) → Except Fault (List (Name × α))
  | [] => .ok []
  | (.string (some k), d) :: ds => do
    let a ← item m levels d
    let as ← entries item m levels ds
    return (k, a) :: as
  | _ => .error .malformed

/-- An object with arbitrary names; of two members with one name the later stays. -/
def table (item : Decoder α) : Decoder (Table α)
  | m, levels, .object ds =>
    match levels with
    | 0 => .error .malformed
    | l + 1 => (entries item m l ds).map Table.ofList
  | _, _, d => .error (d.unexpected "a map")

/-- A name out of a closed set, given as a string. -/
def variantName (choices : List (Name × α)) : Decoder α
  | _, _, .string (some s) =>
    match choices.lookup s with
    | some a => .ok a
    | none => .error (.mismatch (.unknownVariant s (choices.map (·.1))))
  | _, _, d => .error (d.unexpected "variant identifier")

/-- The place of a variant's content, which must be empty. -/
def unit : Decoder Unit
  | _, _, .null => .ok ()
  | _, _, d => .error (d.unexpected "unit")

/-- A name out of a closed set: a string, or an object of that one name over `null`. -/
def variant (choices : List (Name × α)) : Decoder α
  | m, levels, .string s => variantName choices m levels (.string s)
  | .text, levels, .object ((.string k, v) :: more) =>
    if levels = 0 then .error .malformed
    else do
      let a ← variantName choices .text levels (.string k)
      unit .text levels v
      if more.isEmpty then return a else .error .malformed
  | .text, _, _ => .error .malformed
  | m, levels, .object [(k, v)] => do
    let a ← variantName choices m levels k
    unit m levels v
    return a
  | _, _, .object _ => .error (.mismatch (.invalidValue .map "map with a single key"))
  | _, _, d => .error (d.unexpected "string or map")

/-- Reads a text; nothing but blanks may follow the value. -/
def parse (item : Decoder α) (s : String) : Except Fault α :=
  let (d, clean) := Document.read s
  match item .text maxDepth d with
  | .error e => .error e
  | .ok a => if clean then .ok a else .error .malformed

/-- Reads a value that is at hand, however deep it is. -/
def check (item : Decoder α) (v : Json) : Except Fault α := item .value v.depth (.ofValue v)

end Decoder

/-- A field of a structure: how it changes the fields read so far. -/
structure Field (σ : Type) where
  label : Name
  read : Decoder (σ → σ)
  /-- Whether an array of the fields may end before it. -/
  optional : Bool

/-- A field that is read by itself and then put among the others. -/
def Field.of {σ α : Type} (label : Name) (item : Decoder α) (set : α → σ → σ)
    (optional : Bool) : Field σ :=
  ⟨label, fun m l d => (item m l d).map set, optional⟩

/-- How a structure is read. -/
structure Form (σ : Type) where
  title : String
  fields : List (Field σ)
  /-- Whether fields of other names are refused. -/
  closed : Bool

namespace Form

variable {σ α : Type}

/-- The number of fields, in words. -/
def elements (n : Nat) : String := toString n ++ (if n = 1 then " element" else " elements")

/-- Reads the fields from members; the names read so far must not come again. -/
def readMembers (form : Form σ) (m : Medium) (levels : Nat) :
    List (Document × Document) → List Name → σ → Except Fault σ
  | [], _, s => .ok s
  | (.string (some k), d) :: ds, seen, s =>
    match form.fields.find? (·.label = k) with
    | some field =>
      if k ∈ seen then .error (.mismatch (.duplicateField k))
      else do
        let f ← field.read m levels d
        readMembers form m levels ds (k :: seen) (f s)
    | none =>
      if form.closed then .error (.mismatch (.unknownField k (form.fields.map (·.label))))
      else if d.wellFormed then readMembers form m levels ds seen s
      else .error .malformed
  | _, _, _ => .error .malformed

/-- The fault of an array with more items than there are fields. -/
def surplus (form : Form σ) (total : Nat) : Medium → Fault
  | .text => .malformed
  | .value => .mismatch (.invalidLength total "fewer elements in array")
  | .aside => .mismatch (.invalidLength total (elements form.fields.length ++ " in sequence"))

/--
Reads the fields from the items of an array of `total` items; the next field is the one at place
`n`. If the array ends before a field that it needs, the fault tells the place of that field.
-/
def readItems (form : Form σ) (m : Medium) (levels total : Nat) :
    List (Field σ) → List Document → Nat → σ → Except Fault σ
  | [], [], _, s => .ok s
  | [], _ :: _, _, _ => .error (form.surplus total m)
  | field :: fields, [], n, s =>
    if field.optional then readItems form m levels total fields [] (n + 1) s
    else .error (.mismatch
      (.invalidLength n (form.title ++ " with " ++ elements form.fields.length)))
  | field :: fields, d :: ds, n, s => do
    let f ← field.read m levels d
    readItems form m levels total fields ds (n + 1) (f s)

/-- Reads a structure from an object or an array; `finish` reports the fields that are missing. -/
def decoder (form : Form σ) (start : σ) (finish : σ → Except Fault α) : Decoder α
  | m, levels, .object ds =>
    match levels with
    | 0 => .error .malformed
    | l + 1 => readMembers form m l ds [] start >>= finish
  | m, levels, .array ds =>
    match levels with
    | 0 => .error .malformed
    | l + 1 => readItems form m l ds.length form.fields ds 0 start >>= finish
  | _, _, d => .error (d.unexpected form.title)

/-- A field that must be there. -/
def required {β : Type} (label : Name) : Option β → Except Fault β
  | some b => .ok b
  | none => .error (.mismatch (.missingField label))

end Form

end Stageflow
