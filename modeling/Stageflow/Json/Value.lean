import Stageflow.Table
import Stageflow.Json.Double

/-!
# JSON values

Integers are exact and apart from floating point numbers: `1` and `1.0` are two values. The members
of an object that is a record are in ascending order of their names; an object that is about to be
written may have its members in any order.

* `Json.same` is equality of values, for which the two floating point zeros are one number.
* `Json.text` is the compact text: no blanks, members in their order.
-/

namespace Stageflow

/-- A number: a whole one, exact, or a double. -/
inductive Number
  | int (n : Int)
  | float (d : Double)
deriving DecidableEq, Inhabited

namespace Number

/-- Numeric equality within one kind of number. -/
def same : Number → Number → Bool
  | int a, int b => a = b
  | float a, float b => a.same b
  | _, _ => false

end Number

/-- A JSON value. -/
inductive Json
  | null
  | bool (b : Bool)
  | number (n : Number)
  | string (s : String)
  | array (items : List Json)
  | object (members : List (Name × Json))
deriving Inhabited

namespace Json

mutual

/-- Equality of values. -/
def same : Json → Json → Bool
  | null, null => true
  | bool a, bool b => a == b
  | number a, number b => a.same b
  | string a, string b => a = b
  | array as, array bs => sameItems as bs
  | object as, object bs => sameMembers as bs
  | _, _ => false

/-- Equality of item lists. -/
def sameItems : List Json → List Json → Bool
  | [], [] => true
  | a :: as, b :: bs => same a b && sameItems as bs
  | _, _ => false

/-- Equality of member lists. -/
def sameMembers : List (Name × Json) → List (Name × Json) → Bool
  | [], [] => true
  | (j, a) :: as, (k, b) :: bs => j = k && same a b && sameMembers as bs
  | _, _ => false

end

mutual

/-- How many brackets are open at the deepest place of the text of a value. -/
def depth : Json → Nat
  | array items => depthOfItems items + 1
  | object members => depthOfMembers members + 1
  | _ => 0

/-- The depth of the deepest item. -/
def depthOfItems : List Json → Nat
  | [] => 0
  | v :: vs => max (depth v) (depthOfItems vs)

/-- The depth of the deepest member. -/
def depthOfMembers : List (Name × Json) → Nat
  | [] => 0
  | (_, v) :: ms => max (depth v) (depthOfMembers ms)

end

/-- An object whose members are put in ascending order; of two with one name the later stays. -/
def ofMembers (ms : List (Name × Json)) : Json := object (Table.ofList ms)

/-- The member of an object under a name; values of other shapes have none. -/
def field? : Json → Name → Option Json
  | object ms, k => Table.get? ms k
  | _, _ => none

/-- An optional value, absent as `null`. -/
def ofOption {α : Type} (f : α → Json) : Option α → Json
  | none => null
  | some a => f a

/-- A list of strings. -/
def ofNames (ns : List Name) : Json := array (ns.map string)

/-- A whole number. -/
def int (n : Int) : Json := number (.int n)

/-- A natural number. -/
def ofNat (n : Nat) : Json := int n

/-! ## Text -/

/-- The hexadecimal digit of a number below 16, in lower case. -/
def hexDigit (n : Nat) : Char := Nat.digitChar n

/-- A character inside quotes: only quotes, backslashes and control characters are escaped. -/
def escape (c : Char) : List Char :=
  if c = '"' then ['\\', '"']
  else if c = '\\' then ['\\', '\\']
  else if c = '\x08' then ['\\', 'b']
  else if c = '\x0c' then ['\\', 'f']
  else if c = '\n' then ['\\', 'n']
  else if c = '\r' then ['\\', 'r']
  else if c = '\t' then ['\\', 't']
  else if c.toNat < 32 then ['\\', 'u', '0', '0', hexDigit (c.toNat / 16), hexDigit (c.toNat % 16)]
  else [c]

/-- A string between quotes. -/
def quoted (s : String) : List Char := '"' :: (s.toList.flatMap escape ++ ['"'])

/-- An integer in decimal. -/
def decimal (n : Int) : List Char :=
  if n < 0 then '-' :: Nat.toDigits 10 n.natAbs else Nat.toDigits 10 n.natAbs

/-- The text of a number. -/
def writeNumber : Number → List Char
  | .int n => decimal n
  | .float d => d.text

mutual

/-- The compact text of a value. -/
def write : Json → List Char
  | null => ['n', 'u', 'l', 'l']
  | bool true => ['t', 'r', 'u', 'e']
  | bool false => ['f', 'a', 'l', 's', 'e']
  | number n => writeNumber n
  | string s => quoted s
  | array [] => ['[', ']']
  | array (v :: vs) => '[' :: (write v ++ writeItems vs)
  | object [] => ['\x7b', '\x7d']
  | object ((k, v) :: ms) => '\x7b' :: (quoted k ++ ':' :: (write v ++ writeMembers ms))

/-- The items after the first, each after a comma, and the closing bracket. -/
def writeItems : List Json → List Char
  | [] => [']']
  | v :: vs => ',' :: (write v ++ writeItems vs)

/-- The members after the first, each after a comma, and the closing brace. -/
def writeMembers : List (Name × Json) → List Char
  | [] => ['\x7d']
  | (k, v) :: ms => ',' :: (quoted k ++ ':' :: (write v ++ writeMembers ms))

end

/-- The compact text as a string. -/
def text (v : Json) : String := String.ofList v.write

end Json

end Stageflow
