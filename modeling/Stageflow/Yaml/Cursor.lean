/-!
# Positions in YAML text

A cursor is what is left of a text, with the place where it begins. Columns count characters, while
the offset in the text counts octets. The text ends where nothing is left.

* `Cursor.next` passes one character, `Cursor.newline` one line break.
* `Cursor.skipMark` passes a byte order mark, which may stand at the beginning of any line.
* `isAllowed` are the characters that YAML text may hold.
-/

namespace Stageflow.Yaml

/-- A place in a text. -/
structure Cursor where
  rest : List Char
  /-- The number of octets before the place. -/
  offset : Nat
  line : Nat
  column : Nat
deriving Inhabited, DecidableEq

/-- The characters that the text may hold. -/
def isAllowed (c : Char) : Bool :=
  let n := c.toNat
  n = 0x09 || n = 0x0A || n = 0x0D || (0x20 ≤ n && n ≤ 0x7E) || n = 0x85 ||
  (0xA0 ≤ n && n ≤ 0xD7FF) || (0xE000 ≤ n && n ≤ 0xFFFD) || 0x10000 ≤ n

def isSpace (c : Char) : Bool := c = ' ' || c = '\t'

def isBreak (c : Char) : Bool :=
  c = '\n' || c = '\r' || c.toNat = 0x85 || c.toNat = 0x2028 || c.toNat = 0x2029

def isSpaceOrBreak (c : Char) : Bool := isSpace c || isBreak c

def isDigit (c : Char) : Bool := '0' ≤ c && c ≤ '9'

/-- Letters, digits, hyphens and underscores. -/
def isWordChar (c : Char) : Bool :=
  isDigit c || ('A' ≤ c && c ≤ 'Z') || ('a' ≤ c && c ≤ 'z') || c = '-' || c = '_'

/-- Whether the text ends here or goes on with a blank or a line break. -/
def endsWord : List Char → Bool
  | [] => true
  | c :: _ => isSpaceOrBreak c

/-- The value of a hexadecimal digit. -/
def hexValue? (c : Char) : Option Nat :=
  if isDigit c then some (c.toNat - '0'.toNat)
  else if 'a' ≤ c ∧ c ≤ 'f' then some (c.toNat - 'a'.toNat + 10)
  else if 'A' ≤ c ∧ c ≤ 'F' then some (c.toNat - 'A'.toNat + 10)
  else none

/-- The number of octets that characters take. -/
def octets (cs : List Char) : Nat := cs.foldl (fun n c => n + c.utf8Size) 0

namespace Cursor

/-- The beginning of a text. -/
def start (cs : List Char) : Cursor := ⟨cs, 0, 0, 0⟩

/-- Passes several characters on one line. -/
def skip (c : Cursor) (n : Nat) : Cursor :=
  ⟨c.rest.drop n, c.offset + octets (c.rest.take n), c.line, c.column + n⟩

/-- Passes a character that is no line break. -/
def next (c : Cursor) : Cursor := c.skip 1

/-- Passes a line break; a return before a line feed belongs to it. -/
def newline (c : Cursor) : Cursor :=
  let n := match c.rest with
    | '\r' :: '\n' :: _ => 2
    | _ => 1
  ⟨c.rest.drop n, c.offset + octets (c.rest.take n), c.line + 1, 0⟩

/-- What a line break at the cursor counts as inside a scalar. -/
def breakText (c : Cursor) : List Char :=
  match c.rest with
  | [] => []
  | ch :: _ => if ch.toNat = 0x2028 ∨ ch.toNat = 0x2029 then [ch] else ['\n']

/-- Passes the characters at the front that have a property. -/
def skipWhile (p : Char → Bool) (c : Cursor) : Cursor := c.skip (c.rest.takeWhile p).length

/-- Passes a byte order mark at the beginning of a line. -/
def skipMark (c : Cursor) : Cursor :=
  if c.column = 0 ∧ c.rest.head? = some '\uFEFF' then c.next else c

/-- Whether a line begins here with a document marker. -/
def atMarker (c : Cursor) : Bool :=
  c.column = 0 &&
  match c.rest with
  | '-' :: '-' :: '-' :: more => endsWord more
  | '.' :: '.' :: '.' :: more => endsWord more
  | _ => false

/-- Passes a comment, if one begins here. -/
def skipComment (c : Cursor) : Cursor :=
  match c.rest with
  | '#' :: _ => c.skipWhile fun ch => !isBreak ch
  | _ => c

end Cursor

end Stageflow.Yaml
