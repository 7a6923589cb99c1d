import Stageflow.Yaml.Cursor

/-!
# Scalars in YAML text

The three ways in which text writes a scalar. Lines of a plain or quoted scalar are folded: a single
line break between two words is a space, further ones stay. A block scalar keeps its lines, or folds
those that are not indented further.

* `scanPlain` reads a scalar without quotes.
* `scanQuoted` reads one between quotes of either kind.
* `scanBlock` reads one that begins with `|` or `>`.
-/

namespace Stageflow.Yaml

/--
The blanks and line breaks between two words of a scalar. Here as elsewhere in this module text that
is being gathered stands in reverse, its last character first.
-/
structure Gap where
  /-- Blanks before the first line break. -/
  blanks : List Char
  /-- Whether there was a line break. -/
  broken : Bool
  /-- The first line break. -/
  first : List Char
  /-- The line breaks after it. -/
  more : List Char
deriving Inhabited, DecidableEq

namespace Gap

def none : Gap := ⟨[], false, [], []⟩

/-- Adds what a gap counts as to the text before it. -/
def onto (g : Gap) (text : List Char) : List Char :=
  if g.broken then
    if g.first.head? = some '\n' then
      if g.more.isEmpty then ' ' :: text else g.more ++ text
    else g.more ++ (g.first ++ text)
  else g.blanks ++ text

/-- Adds a blank, which counts only before the first line break. -/
def addBlank (g : Gap) (ch : Char) : Gap :=
  if g.broken then g else { g with blanks := ch :: g.blanks }

/-- Adds a line break. -/
def addBreak (g : Gap) (text : List Char) : Gap :=
  if g.broken then { g with more := text ++ g.more }
  else { g with blanks := [], broken := true, first := text }

end Gap

/--
Passes blanks and line breaks. With a limit, a tab is refused that stands in the indentation before
that column. Like everywhere in this module the fuel bounds the characters that are left.
-/
def scanGap (limit : Option Int) : Nat → Cursor → Gap → Option (Cursor × Gap)
  | 0, _, _ => none
  | fuel + 1, c, g =>
    match c.rest with
    | [] => some (c, g)
    | ch :: _ =>
      if isSpace ch then
        if g.broken ∧ ch = '\t' ∧ limit.any (fun l => (c.column : Int) < l) then none
        else scanGap limit fuel c.next (g.addBlank ch)
      else if isBreak ch then scanGap limit fuel c.newline (g.addBreak c.breakText)
      else some (c, g)

/-! ## Plain scalars -/

/-- Characters that separate the parts of a flow collection. -/
def isFlowIndicator (c : Char) : Bool := c = ',' || c = '[' || c = ']' || c = '\x7b' || c = '\x7d'

/-- A colon before one of these is refused inside a plain scalar of a flow collection. -/
def isRefusedAfterColon (c : Char) : Bool := isFlowIndicator c || c = '?'

/-- The characters of a plain word; `none` where a colon is refused. -/
def plainWord (inFlow : Bool) : List Char → Option (List Char)
  | [] => some []
  | ch :: cs =>
    if isSpaceOrBreak ch then some []
    else if inFlow ∧ ch = ':' ∧ cs.head?.any isRefusedAfterColon then none
    else if ch = ':' ∧ endsWord cs then some []
    else if inFlow ∧ isFlowIndicator ch then some []
    else (plainWord inFlow cs).map (ch :: ·)

/-- Reads words and gaps; the flag tells whether a line break came last. -/
def plainLoop (indent : Int) (inFlow : Bool) :
    Nat → Cursor → Gap → List Char → Option (List Char × Cursor × Bool)
  | 0, _, _, _ => none
  | fuel + 1, c, g, text =>
    if c.atMarker ∨ c.rest.head? = some '#' then some (text, c, g.broken)
    else do
      let word ← plainWord inFlow c.rest
      let (text, g) :=
        if word.isEmpty then (text, g) else (word.reverse ++ g.onto text, Gap.none)
      let c := c.skip word.length
      if !c.rest.head?.any isSpaceOrBreak then return (text, c, g.broken)
      let (c, g) ← scanGap (some indent) (fuel + 1) c g
      if !inFlow ∧ (c.column : Int) < indent then return (text, c, g.broken)
      plainLoop indent inFlow fuel c g text

/-- Reads a plain scalar whose lines are indented to a column. -/
def scanPlain (fuel : Nat) (indent : Int) (inFlow : Bool) (c : Cursor) :
    Option (List Char × Cursor × Bool) := do
  let (text, c, broken) ← plainLoop indent inFlow fuel c .none []
  return (text.reverse, c, broken)

/-! ## Quoted scalars -/

/-- The code point of a one-letter escape, or the number of hexadecimal digits that follow it. -/
def quotedEscape : Char → Option (Nat ⊕ Nat)
  | '0' => some (.inl 0)
  | 'a' => some (.inl 7)
  | 'b' => some (.inl 8)
  | 't' => some (.inl 9)
  | '\t' => some (.inl 9)
  | 'n' => some (.inl 10)
  | 'v' => some (.inl 11)
  | 'f' => some (.inl 12)
  | 'r' => some (.inl 13)
  | 'e' => some (.inl 27)
  | ' ' => some (.inl 32)
  | '"' => some (.inl 34)
  | '/' => some (.inl 47)
  | '\\' => some (.inl 92)
  | 'N' => some (.inl 0x85)
  | '_' => some (.inl 0xA0)
  | 'L' => some (.inl 0x2028)
  | 'P' => some (.inl 0x2029)
  | 'x' => some (.inr 2)
  | 'u' => some (.inr 4)
  | 'U' => some (.inr 8)
  | _ => none

/-- The number that hexadecimal digits denote. -/
def hexNumber? (cs : List Char) : Option Nat :=
  cs.foldlM (fun n c => (hexValue? c).map (n * 16 + ·)) 0

/-- The character with a code point, if it is one. -/
def scalarValue? (n : Nat) : Option Char := if n.isValidChar then some (Char.ofNat n) else none

/-- What a run of characters without blanks inside quotes ends with. -/
inductive QuotedEnd
  | quote
  /-- An escaped line break, which joins two lines. -/
  | joined
  | blank

/-- Reads characters up to a blank, a line break or the closing quote. -/
def quotedRun (single : Bool) : Nat → Cursor → List Char → Option (List Char × Cursor × QuotedEnd)
  | 0, _, _ => none
  | fuel + 1, c, text =>
    match c.rest with
    | [] => some (text, c, .blank)
    | ch :: cs =>
      if isSpaceOrBreak ch then some (text, c, .blank)
      else if single then
        if ch = '\'' then
          if cs.head? = some '\'' then quotedRun single fuel (c.skip 2) ('\'' :: text)
          else some (text, c, .quote)
        else quotedRun single fuel c.next (ch :: text)
      else if ch = '"' then some (text, c, .quote)
      else if ch = '\\' then
        match cs with
        | [] => none
        | e :: cs =>
          if isBreak e then some (text, c.next.newline, .joined)
          else
            match quotedEscape e with
            | none => none
            | some (.inl n) => quotedRun single fuel (c.skip 2) (Char.ofNat n :: text)
            | some (.inr width) =>
              let digits := cs.take width
              if digits.length < width then none
              else
                match (hexNumber? digits).bind scalarValue? with
                | none => none
                | some v => quotedRun single fuel (c.skip (2 + width)) (v :: text)
      else quotedRun single fuel c.next (ch :: text)

/-- Reads runs and gaps up to the closing quote. -/
def quotedLoop (single : Bool) : Nat → Cursor → List Char → Option (List Char × Cursor)
  | 0, _, _ => none
  | fuel + 1, c, text =>
    if c.atMarker ∨ c.rest.isEmpty then none
    else
      match quotedRun single (fuel + 1) c text with
      | none => none
      | some (text, c, .quote) => some (text, c.next)
      | some (text, c, finish) =>
        let start : Gap := match finish with
          | .joined => ⟨[], true, [], []⟩
          | _ => .none
        if c.rest.head? = some (if single then '\'' else '"') then some (text, c.next)
        else
          match scanGap none (fuel + 1) c start with
          | none => none
          | some (c, g) => quotedLoop single fuel c (g.onto text)

/-- Reads a scalar after its opening quote. -/
def scanQuoted (fuel : Nat) (single : Bool) (c : Cursor) : Option (List Char × Cursor) :=
  (quotedLoop single fuel c []).map fun (text, c) => (text.reverse, c)

/-! ## Block scalars -/

/-- What becomes of the line breaks at the end of a block scalar. -/
inductive Chomping
  | strip
  | clip
  | keep
deriving DecidableEq

/-- The header of a block scalar after its first character. -/
def blockHeader (c : Cursor) : Option (Chomping × Option Nat × Cursor) :=
  let chomping? (cs : List Char) : Option Chomping :=
    match cs with
    | '+' :: _ => some .keep
    | '-' :: _ => some .strip
    | _ => none
  let width? (cs : List Char) : Option (Option Nat) :=
    match cs with
    | [] => some none
    | '0' :: _ => none
    | d :: _ => some (if isDigit d then some (d.toNat - '0'.toNat) else none)
  match chomping? c.rest with
  | some ch => do
    let c := c.next
    let width ← width? c.rest
    return (ch, width, if width.isSome then c.next else c)
  | none => do
    let width ← width? c.rest
    let c := if width.isSome then c.next else c
    match width, chomping? c.rest with
    | some _, some ch => return (ch, width, c.next)
    | _, _ => return (.clip, width, c)

/--
Passes the blank lines and the indentation before a line of a block scalar; an indentation of 0 is
not known yet. Gives the line breaks and the widest indentation that was passed.
-/
def blockBreaks (indent : Nat) : Nat → Cursor → (breaks : List Char) → (widest : Nat) →
    Option (List Char × Cursor × Nat)
  | 0, _, _, _ => none
  | fuel + 1, c, breaks, widest =>
    let inside (c : Cursor) : Bool := indent = 0 || c.column < indent
    match c.rest with
    | ' ' :: _ =>
      if inside c then blockBreaks indent fuel c.next breaks widest
      else some (breaks, c, max widest c.column)
    | ch :: _ =>
      if inside c ∧ ch = '\t' then none
      else if isBreak ch then
        blockBreaks indent fuel c.newline (c.breakText ++ breaks) (max widest c.column)
      else some (breaks, c, max widest c.column)
    | [] => some (breaks, c, max widest c.column)

/-- Reads the lines of a block scalar that have its indentation. -/
def blockLines (literal : Bool) (indent : Nat) : Nat → Cursor → (leading trailing : List Char) →
    (afterBlank : Bool) → List Char → Option (List Char × List Char × List Char × Cursor)
  | 0, _, _, _, _, _ => none
  | fuel + 1, c, leading, trailing, afterBlank, text =>
    if c.column = indent ∧ !c.rest.isEmpty then
      let blank := c.rest.head?.any isSpace
      let folded := !literal && leading.head? = some '\n' && !afterBlank && !blank
      let joint := if folded then (if trailing.isEmpty then [' '] else []) else leading
      let words := c.rest.takeWhile fun ch => !isBreak ch
      let c := c.skip words.length
      let text := words.reverse ++ (trailing ++ (joint ++ text))
      let (leading, c) := if c.rest.isEmpty then ([], c) else (c.breakText, c.newline)
      match blockBreaks indent (fuel + 1) c [] 0 with
      | none => none
      | some (trailing, c, _) => blockLines literal indent fuel c leading trailing blank text
    else some (text, leading, trailing, c)

/-- Reads a block scalar after its first character, inside a collection of some indentation. -/
def scanBlock (fuel : Nat) (literal : Bool) (outer : Int) (c : Cursor) :
    Option (List Char × Cursor) := do
  let (chomping, width, c) ← blockHeader c
  let c := (c.skipWhile isSpace).skipComment
  let c ← match c.rest with
    | [] => some c
    | ch :: _ => if isBreak ch then some c.newline else none
  let known : Nat := match width with
    | some w => if 0 ≤ outer then outer.toNat + w else w
    | none => 0
  let (trailing, c, widest) ← blockBreaks known fuel c [] 0
  let indent := if known = 0 then max 1 (max widest (outer + 1).toNat) else known
  let (text, leading, trailing, c) ← blockLines literal indent fuel c [] trailing false []
  return (match chomping with
    | .strip => text.reverse
    | .clip => (leading ++ text).reverse
    | .keep => (trailing ++ (leading ++ text)).reverse, c)

end Stageflow.Yaml
