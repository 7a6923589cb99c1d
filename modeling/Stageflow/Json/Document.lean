import Stageflow.Json.Value

/-!
# Reading JSON text

Text is read into a `Document`, which keeps what a value does not: the order of members, repeated
members, numbers as they were written, and the place from which the text is malformed. A reader of
some type then walks the document in the order of the text, so that of two faults the earlier one
is reported.

* `Document.read` reads a text, with the text that follows the value.
* `Document.ofValue` is the document of a value that is at hand already.
* `Numeral.value?` is the value of a number.
-/

namespace Stageflow

/-- A number as it is written. -/
structure Numeral where
  negative : Bool
  whole : List Char
  fraction : List Char
  /-- Whether the exponent is negative, and its digits. -/
  exponent : Option (Bool × List Char)
deriving DecidableEq, Inhabited

namespace Numeral

/-- The number that digits denote. -/
def ofDigits (ds : List Char) : Nat := ds.foldl (fun n c => n * 10 + (c.toNat - '0'.toNat)) 0

/-- Appends digits to a number as long as it fits 64 bits; the digits left over. -/
def absorb (m : Nat) : List Char → Nat × List Char
  | [] => (m, [])
  | c :: cs =>
    let m' := m * 10 + (c.toNat - '0'.toNat)
    if m' < UInt64.size then absorb m' cs else (m, c :: cs)

/-- Whether the number is written without fraction and exponent. -/
def isWhole (n : Numeral) : Bool := n.fraction.isEmpty && n.exponent.isNone

/--
The value of a number. A whole number that fits 64 bits, signed or unsigned, is exact; any other
number is a double, as is `-0`. `none` for a number beyond the range of doubles.
-/
def value? (n : Numeral) : Option Number :=
  let (m, left) := absorb 0 n.whole
  if n.isWhole ∧ left = [] then
    if n.negative then
      if m = 0 then some (.float .negativeZero)
      else if m ≤ 0x8000000000000000 then some (.int (-m))
      else (Double.ofDecimal? true m 0).map .float
    else some (.int m)
  else
    let (m', left') := absorb m n.fraction
    let e : Int := (left.length : Int) - ((n.fraction.length - left'.length : Nat) : Int)
    let e' : Int := match n.exponent with
      | none => e
      | some (true, ds) => e - ofDigits ds
      | some (false, ds) => e + ofDigits ds
    (Double.ofDecimal? n.negative m' e').map .float

end Numeral

/-- JSON text as far as it is well formed. -/
inductive Document
  | null
  | bool (b : Bool)
  /-- A number; `none` where it is out of range. -/
  | number (value : Option Number)
  /-- A string; `none` where its escapes denote no text. -/
  | string (content : Option String)
  | array (items : List Document)
  /-- Members in the order of the text; a key that is no string is malformed. -/
  | object (members : List (Document × Document))
  /-- From here on the text is no JSON. -/
  | malformed
deriving Inhabited

namespace Document

/-! ## Strings -/

/-- The value of a hexadecimal digit in either case. -/
def hexValue? (c : Char) : Option Nat :=
  if '0' ≤ c ∧ c ≤ '9' then some (c.toNat - '0'.toNat)
  else if 'a' ≤ c ∧ c ≤ 'f' then some (c.toNat - 'a'.toNat + 10)
  else if 'A' ≤ c ∧ c ≤ 'F' then some (c.toNat - 'A'.toNat + 10)
  else none

/-- The number that four hexadecimal digits denote. -/
def hexFour? (a b c d : Char) : Option Nat := do
  return (((← hexValue? a) * 16 + (← hexValue? b)) * 16 + (← hexValue? c)) * 16 + (← hexValue? d)

/-- The code point of an escape of one letter. -/
def escaped? : Char → Option Nat
  | '"' => some 34
  | '\\' => some 92
  | '/' => some 47
  | 'b' => some 8
  | 'f' => some 12
  | 'n' => some 10
  | 'r' => some 13
  | 't' => some 9
  | _ => none

/-- Code points up to the closing quote, surrogates still apart, and the text after the quote. -/
def readUnits : List Char → Option (List Nat × List Char)
  | '"' :: cs => some ([], cs)
  | '\\' :: 'u' :: a :: b :: c :: d :: cs => do
    let u ← hexFour? a b c d
    let (us, rest) ← readUnits cs
    return (u :: us, rest)
  | '\\' :: e :: cs => do
    let u ← escaped? e
    let (us, rest) ← readUnits cs
    return (u :: us, rest)
  | c :: cs =>
    if c.toNat < 32 ∨ c = '\\' then none
    else do
      let (us, rest) ← readUnits cs
      return (c.toNat :: us, rest)
  | [] => none

/-- Joins surrogate pairs; `none` if a surrogate stands alone. -/
def joinUnits : List Nat → Option (List Char)
  | [] => some []
  | u :: us =>
    if 0xDC00 ≤ u ∧ u < 0xE000 then none
    else if 0xD800 ≤ u ∧ u < 0xDC00 then
      match us with
      | [] => none
      | v :: us' =>
        if 0xDC00 ≤ v ∧ v < 0xE000 then
          (joinUnits us').map (Char.ofNat (0x10000 + (u - 0xD800) * 0x400 + (v - 0xDC00)) :: ·)
        else none
    else (joinUnits us).map (Char.ofNat u :: ·)

/-- A string after its opening quote. -/
def readString (cs : List Char) : Document × Option (List Char) :=
  match readUnits cs with
  | none => (malformed, none)
  | some (us, rest) => (string ((joinUnits us).map String.ofList), some rest)

/-! ## Numbers -/

/-- Whether a character is a decimal digit. -/
def isDigit (c : Char) : Bool := '0' ≤ c && c ≤ '9'

/-- The digits at the front, and what follows them. -/
def spanDigits (cs : List Char) : List Char × List Char :=
  (cs.takeWhile isDigit, cs.dropWhile isDigit)

/-- The whole part: one zero, or digits that begin with none. -/
def readWhole (cs : List Char) : Option (List Char × List Char) :=
  match spanDigits cs with
  | ([], _) => none
  | ('0' :: _ :: _, _) => none
  | found => some found

/-- The fraction, empty where there is no point; a point needs a digit after it. -/
def readFraction : List Char → Option (List Char × List Char)
  | '.' :: cs =>
    match spanDigits cs with
    | ([], _) => none
    | found => some found
  | cs => some ([], cs)

/-- The digits of an exponent, of which there is at least one. -/
def readExponentDigits (negative : Bool) (cs : List Char) :
    Option (Option (Bool × List Char) × List Char) :=
  match spanDigits cs with
  | ([], _) => none
  | (ds, rest) => some (some (negative, ds), rest)

/-- The exponent, if there is one. -/
def readExponent : List Char → Option (Option (Bool × List Char) × List Char)
  | c :: cs =>
    if c = 'e' ∨ c = 'E' then
      match cs with
      | '+' :: cs' => readExponentDigits false cs'
      | '-' :: cs' => readExponentDigits true cs'
      | _ => readExponentDigits false cs
    else some (none, c :: cs)
  | [] => some (none, [])

/-- A number after its sign. -/
def readNumeral (negative : Bool) (cs : List Char) : Document × Option (List Char) :=
  let read : Option (Numeral × List Char) := do
    let (whole, cs) ← readWhole cs
    let (fraction, cs) ← readFraction cs
    let (exponent, cs) ← readExponent cs
    return (⟨negative, whole, fraction, exponent⟩, cs)
  match read with
  | none => (malformed, none)
  | some (n, rest) => (number n.value?, some rest)

/-! ## Values -/

/-- The blanks that JSON allows between tokens. -/
def isBlank (c : Char) : Bool := c = ' ' || c = '\n' || c = '\t' || c = '\r'

/-- Drops blanks. -/
def skipBlanks (cs : List Char) : List Char := cs.dropWhile isBlank

/-- A value that has no parts; brackets are not read here. -/
def readAtom : List Char → Document × Option (List Char)
  | 'n' :: 'u' :: 'l' :: 'l' :: cs => (null, some cs)
  | 't' :: 'r' :: 'u' :: 'e' :: cs => (bool true, some cs)
  | 'f' :: 'a' :: 'l' :: 's' :: 'e' :: cs => (bool false, some cs)
  | '"' :: cs => readString cs
  | '-' :: cs => readNumeral true cs
  | c :: cs => if isDigit c then readNumeral false (c :: cs) else (malformed, none)
  | [] => (malformed, none)

mutual

/--
A value and the text after it, `none` for the text once it is malformed. The fuel bounds the number
of brackets and commas on the way; the length of the text is enough.
-/
def readValue : Nat → List Char → Document × Option (List Char)
  | 0, _ => (malformed, none)
  | fuel + 1, cs =>
    match skipBlanks cs with
    | '[' :: cs =>
      match skipBlanks cs with
      | ']' :: rest => (array [], some rest)
      | cs =>
        let (items, rest) := readItems fuel cs
        (array items, rest)
    | '\x7b' :: cs =>
      match skipBlanks cs with
      | '\x7d' :: rest => (object [], some rest)
      | cs =>
        let (members, rest) := readMembers fuel cs
        (object members, rest)
    | cs => readAtom cs

/-- Items up to the closing bracket. -/
def readItems : Nat → List Char → List Document × Option (List Char)
  | 0, _ => ([malformed], none)
  | fuel + 1, cs =>
    match readValue fuel cs with
    | (v, none) => ([v], none)
    | (v, some rest) =>
      match skipBlanks rest with
      | ']' :: rest => ([v], some rest)
      | ',' :: rest =>
        let (vs, rest) := readItems fuel rest
        (v :: vs, rest)
      | _ => ([v, malformed], none)

/-- Members up to the closing brace. -/
def readMembers : Nat → List Char → List (Document × Document) × Option (List Char)
  | 0, _ => ([(malformed, malformed)], none)
  | fuel + 1, cs =>
    match readValue fuel cs with
    | (string k, some rest) =>
      match skipBlanks rest with
      | ':' :: rest =>
        match readValue fuel rest with
        | (v, none) => ([(string k, v)], none)
        | (v, some rest) =>
          match skipBlanks rest with
          | '\x7d' :: rest => ([(string k, v)], some rest)
          | ',' :: rest =>
            let (ms, rest) := readMembers fuel rest
            ((string k, v) :: ms, rest)
          | _ => ([(string k, v), (malformed, malformed)], none)
      | _ => ([(string k, malformed)], none)
    | (key, _) => ([(key, malformed)], none)

end

/-- The document of a text, and whether nothing but blanks follows it. -/
def read (s : String) : Document × Bool :=
  let cs := s.toList
  match readValue (2 * cs.length + 2) cs with
  | (v, none) => (v, false)
  | (v, some rest) => (v, (skipBlanks rest).isEmpty)

mutual

/-- Whether a value may be passed over: its text is well formed, whatever it denotes. -/
def wellFormed : Document → Bool
  | array items => wellFormedItems items
  | object members => wellFormedMembers members
  | malformed => false
  | _ => true

/-- Whether every item may be passed over. -/
def wellFormedItems : List Document → Bool
  | [] => true
  | v :: vs => wellFormed v && wellFormedItems vs

/-- Whether every member may be passed over. -/
def wellFormedMembers : List (Document × Document) → Bool
  | [] => true
  | (string _, v) :: ms => wellFormed v && wellFormedMembers ms
  | _ => false

end

mutual

/-- The document of a value. -/
def ofValue : Json → Document
  | .null => null
  | .bool b => bool b
  | .number n => number (some n)
  | .string s => string (some s)
  | .array items => array (ofItems items)
  | .object members => object (ofMembers members)

/-- The documents of items. -/
def ofItems : List Json → List Document
  | [] => []
  | v :: vs => ofValue v :: ofItems vs

/-- The documents of members. -/
def ofMembers : List (Name × Json) → List (Document × Document)
  | [] => []
  | (k, v) :: ms => (string (some k), ofValue v) :: ofMembers ms

end

end Document

end Stageflow
