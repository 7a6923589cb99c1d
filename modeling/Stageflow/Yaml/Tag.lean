import Stageflow.Yaml.Cursor

/-!
# YAML tags

A tag is a run of octets, since a percent sign and two digits may stand for any octet of a
character. An octet 0 ends a tag wherever tags are joined.

* `scanTag` reads a tag as a handle and a suffix, `scanExpansion` what a handle abbreviates.
* `Tag.resolve` is the tag that a handle and a suffix stand for.
* `Tag.variant?` is the name that a tag chooses out of a set of names.
-/

namespace Stageflow.Yaml

/-- The octets of a tag. -/
abbrev Tag := List UInt8

/-- What handles abbreviate. -/
abbrev Handles := List (Tag × Tag)

namespace Tag

/-- The tag of characters that take one octet each. -/
def ofChars (cs : List Char) : Tag := cs.map fun c => UInt8.ofNat c.toNat

/-- The tag that is one exclamation mark. -/
def mark : Tag := ofChars ['!']

/-- The tag of a type that every document knows. -/
def standard (type : String) : Tag := ofChars ("tag:yaml.org,2002:" ++ type).toList

/-- The octets before the first octet 0. -/
def ended (t : Tag) : Tag := t.takeWhile (· ≠ 0)

/-- The tag that a handle and a suffix stand for; without a handle it is the suffix. -/
def resolve (handles : Handles) (handle suffix : Tag) : Option Tag :=
  if handle.isEmpty then some suffix.ended
  else (handles.lookup handle).map fun expansion => expansion.ended ++ suffix.ended

/-- The abbreviations that hold without a directive. -/
def defaultHandles : Handles := [(mark, mark), (mark ++ mark, standard "")]

/--
The name that a tag chooses: what follows its exclamation mark, or the mark itself if nothing does.
Other tags choose nothing, nor do octets that are no text.
-/
def variant? (t : Tag) : Option String :=
  if t = mark then some "!"
  else if t.take 1 = mark then String.fromUTF8? ⟨(t.drop 1).toArray⟩
  else none

end Tag

/-! ## Text of tags -/

/-- Characters of a tag besides letters and digits. -/
def isTagMark (verbatim : Bool) (c : Char) : Bool :=
  c ∈ [';', '/', '?', ':', '@', '&', '=', '+', '$', '.', '!', '~', '*', '\'', '(', ')'] ||
    (verbatim && (c = ',' || c = '[' || c = ']'))

/-- The octet that a percent sign and two hexadecimal digits stand for. -/
def percentOctet? : List Char → Option (Nat × List Char)
  | '%' :: a :: b :: cs => do return ((← hexValue? a) * 16 + (← hexValue? b), cs)
  | _ => none

/-- How many octets follow the first octet of a character. -/
def following? (first : Nat) : Option Nat :=
  if first < 0x80 then some 0
  else if first < 0xC0 then none
  else if first < 0xE0 then some 1
  else if first < 0xF0 then some 2
  else if first < 0xF8 then some 3
  else none

/-- Octets that follow the first one of a character, each after a percent sign. -/
def followingOctets : Nat → List Char → Option (Tag × List Char)
  | 0, cs => some ([], cs)
  | n + 1, cs => do
    let (octet, cs) ← percentOctet? cs
    if 0x80 ≤ octet ∧ octet < 0xC0 then
      let (octets, cs) ← followingOctets n cs
      return (UInt8.ofNat octet :: octets, cs)
    else none

/-- The octets of one character, each after a percent sign; they need not encode one in fact. -/
def percentOctets (cs : List Char) : Option (Tag × List Char) := do
  let (first, cs) ← percentOctet? cs
  let (octets, cs) ← followingOctets (← following? first) cs
  return (UInt8.ofNat first :: octets, cs)

/-- The octets at the front of a text that belong to a tag; the fuel bounds the characters. -/
def tagText (verbatim : Bool) : Nat → List Char → Option (Tag × List Char)
  | 0, _ => none
  | _ + 1, [] => some ([], [])
  | fuel + 1, c :: cs =>
    if c = '%' then do
      let (octets, cs) ← percentOctets (c :: cs)
      let (more, cs) ← tagText verbatim fuel cs
      return (octets ++ more, cs)
    else if isWordChar c || isTagMark verbatim c then do
      let (more, cs) ← tagText verbatim fuel cs
      return (Tag.ofChars [c] ++ more, cs)
    else some ([], c :: cs)

/-- Reads the octets of a tag. -/
def scanTagText (verbatim : Bool) (c : Cursor) : Option (Tag × Cursor) := do
  let (text, rest) ← tagText verbatim (c.rest.length + 1) c.rest
  return (text, c.skip (c.rest.length - rest.length))

/-- Reads octets of a tag, of which there is at least one. -/
def scanSuffix (verbatim : Bool) (c : Cursor) : Option (Tag × Cursor) := do
  let (text, c) ← scanTagText verbatim c
  if text.isEmpty then none else return (text, c)

/-- Reads what a handle abbreviates. -/
def scanExpansion (c : Cursor) : Option (Tag × Cursor) := scanSuffix true c

/-- Reads a handle: a word after an exclamation mark, with or without another mark behind it. -/
def scanHandle (c : Cursor) : Option (List Char × Cursor) :=
  match c.rest with
  | '!' :: cs =>
    let word := cs.takeWhile isWordChar
    let c := c.skip (1 + word.length)
    match c.rest with
    | '!' :: _ => some ('!' :: word ++ ['!'], c.next)
    | _ => some ('!' :: word, c)
  | _ => none

/-- Whether a handle has a mark on both sides. -/
def isClosedHandle (handle : List Char) : Bool :=
  2 ≤ handle.length && handle.getLast? = some '!'

/-- Reads a tag as a handle and a suffix. Without a suffix it is the exclamation mark alone. -/
def scanTag (c : Cursor) : Option (Tag × Tag × Cursor) :=
  match c.rest with
  | '!' :: '<' :: _ => do
    let (text, c) ← scanSuffix true (c.skip 2)
    match c.rest with
    | '>' :: _ => return ([], text, c.next)
    | _ => none
  | _ => do
    let (handle, c) ← scanHandle c
    if isClosedHandle handle then
      let (suffix, c) ← scanSuffix false c
      return (Tag.ofChars handle, suffix, c)
    else
      let (text, c) ← scanTagText false c
      let suffix := Tag.ofChars (handle.drop 1) ++ text
      return if suffix.ended.isEmpty then ([], Tag.mark, c) else (Tag.mark, suffix, c)

end Stageflow.Yaml
