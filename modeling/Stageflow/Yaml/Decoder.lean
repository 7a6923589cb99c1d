import Stageflow.Table
import Stageflow.Yaml.Node

/-!
# Typed readers of YAML

A reader takes a node or refuses it. Scalars are read by the type that is wanted: every scalar is a
string, and a number or a truth value only if it is written without quotes. An alias is read as the
node that it stands for; how often aliases may be followed depends on the size of the document.

* `Reading.fields` reads a structure from a mapping.
* `Reading.parse` reads a text; a text without a document is an empty structure.
-/

namespace Stageflow.Yaml

/--
Reads a value of some type, given the nodes that aliases stand for. The state is the number of
aliases that may still be followed.
-/
abbrev Reading (α : Type) := List (Nat × Node) → Node → StateT Nat Option α

namespace Reading

variable {α : Type}

/-- The node itself, or the one that it stands for, which is no alias. -/
def target : Reading Node
  | anchored, .alias number => do
    match ← get with
    | 0 => failure
    | left + 1 =>
      set left
      anchored.lookup number
  | _, n => pure n

/-- A reader that looks at one node only. -/
def leaf (f : Node → Option α) : Reading α := fun anchored n => do f (← target anchored n)

/-- Any scalar is a string. -/
def string : Reading String := leaf fun
  | .scalar _ text _ => some text
  | _ => none

/-- The words for no value. -/
def isNull (text : String) : Bool := text ∈ ["null", "Null", "NULL", "~"]

/-- Whether a scalar is read by what it says: plain ones are, block ones if their tag says so. -/
def isLiteral (before : Properties) (style : ScalarStyle) (wanted : String) : Bool :=
  style = .plain || (style = .literal && before.tag = some (Tag.standard wanted))

/-- A truth value. -/
def bool : Reading Bool := leaf fun
  | .scalar before text style =>
    if !isLiteral before style "bool" then none
    else if text ∈ ["true", "True", "TRUE"] then some true
    else if text ∈ ["false", "False", "FALSE"] then some false
    else none
  | _ => none

/-- The number that digits in a base denote; there is at least one. -/
def digitsIn? (base : Nat) (cs : List Char) : Option Nat :=
  if cs.isEmpty then none
  else cs.foldlM (fun n c => (hexValue? c).bind fun d =>
    if d < base then some (n * base + d) else none) 0

/-- The number that a text denotes: decimal, or with a mark for another base. -/
def natural? (cs : List Char) : Option Nat :=
  let unsigned := match cs with
    | '+' :: more => more
    | cs => cs
  let decimal : Option Nat :=
    if unsigned.head? = some '0' ∧ 1 < unsigned.length ∧ unsigned.all isDigit then none
    else digitsIn? 10 unsigned
  match unsigned with
  | '0' :: 'x' :: more => digitsIn? 16 more
  | '0' :: 'o' :: more => digitsIn? 8 more
  | '0' :: 'b' :: more => digitsIn? 2 more
  | _ => decimal

/-- A natural number below a bound. -/
def natural (size : Nat) : Reading Nat := leaf fun
  | .scalar before text style =>
    if isLiteral before style "int" then
      (natural? text.toList).bind fun n => if n < size then some n else none
    else none
  | _ => none

/-- Whether a value is written; a tag for no value allows only the words for it. -/
def isWritten? : Node → Option Bool
  | .absent => some false
  | .scalar before text .plain =>
    if before.tag = some (Tag.standard "null") then if isNull text then some false else none
    else some (before.tag.isSome || !(text.isEmpty || isNull text))
  | _ => some true

/-- A value that may be left out or be written as null. -/
def option (item : Reading α) : Reading (Option α) := fun anchored n => do
  let n ← target anchored n
  if ← isWritten? n then return some (← item anchored n) else return none

/-- Whether a node is a place where nothing is written. -/
def isBlank : Node → Bool
  | .absent => true
  | .scalar _ text style => text.isEmpty && style = .plain
  | _ => false

/-- A sequence. -/
def list (item : Reading α) : Reading (List α) := fun anchored n => do
  match ← target anchored n with
  | .sequence _ items => items.mapM (item anchored)
  | n => if isBlank n then return [] else failure

/-- A mapping with arbitrary names; of two entries with one name the later stays. -/
def table (item : Reading α) : Reading (Table α) := fun anchored n => do
  match ← target anchored n with
  | .mapping _ entries =>
    let pairs ← entries.mapM fun (k, v) => do return (← string anchored k, ← item anchored v)
    return Table.ofList pairs
  | n => if isBlank n then return [] else failure

/-- A name out of a closed set: a scalar, or a tag of that name over nothing. -/
def variant (choices : List (Name × α)) : Reading α := leaf fun
  | .scalar before text style =>
    match before.tag.bind Tag.variant? with
    | some name =>
      if style = .plain ∧ (text.isEmpty ∨ isNull text) then choices.lookup name else none
    | none => choices.lookup text
  | _ => none

/-- A field of a structure: how it changes the fields read so far. -/
structure Field (σ : Type) where
  label : Name
  read : Reading (σ → σ)

/-- A field that is read by itself and then put among the others. -/
def Field.of {σ : Type} (label : Name) (item : Reading α) (put : α → σ → σ) : Field σ :=
  ⟨label, fun anchored n => do return put (← item anchored n)⟩

variable {σ : Type}

/-- Reads fields from entries; a field may not come twice. -/
def readEntries (fs : List (Field σ)) (closed : Bool) (anchored : List (Nat × Node)) :
    List (Node × Node) → (seen : List Name) → σ → StateT Nat Option σ
  | [], _, s => return s
  | (k, v) :: es, seen, s => do
    let k ← string anchored k
    match fs.find? (·.label = k) with
    | some f =>
      if k ∈ seen then failure
      else
        let change ← f.read anchored v
        readEntries fs closed anchored es (k :: seen) (change s)
    | none => if closed then failure else readEntries fs closed anchored es seen s

/-- Reads a structure; `finish` refuses it if fields are missing. -/
def fields (fs : List (Field σ)) (closed : Bool) (start : σ) (finish : σ → Option α) :
    Reading α := fun anchored n => do
  match ← target anchored n with
  | .mapping _ entries => finish (← readEntries fs closed anchored entries [] start)
  | n => if isBlank n then finish start else failure

/-- How many aliases may be followed for each event of a document. -/
def aliasesPerEvent : Nat := 100

/-- Reads a text. -/
def parse (item : Reading α) (s : String) : Option α := do
  let n ← Node.ofText s
  (item n.anchored n).run' (n.events * aliasesPerEvent)

end Reading

end Stageflow.Yaml
