import Stageflow.Yaml.Scalar
import Stageflow.Yaml.Tag

/-!
# YAML tokens

Text as a list of tokens. Indentation opens and closes block collections; a key without a question
mark is only known as one when its colon is found, so that its tokens are put in where it began.

* `Token.scan` gives the tokens of a text, or nothing if the text has none.
-/

namespace Stageflow.Yaml

/-- How a scalar is written. -/
inductive ScalarStyle
  | plain
  | quoted
  | literal
  | folded
deriving DecidableEq, Inhabited

/-- A token. -/
inductive Token
  | version (major minor : Nat)
  /-- An abbreviation for tags. -/
  | handle (name expansion : Tag)
  | documentStart
  | documentEnd
  | blockSequence
  | blockMapping
  | blockEnd
  | flowSequence
  | flowSequenceEnd
  | flowMapping
  | flowMappingEnd
  | blockEntry
  | flowEntry
  | key
  | value
  | alias (name : String)
  | anchor (name : String)
  | tag (handle suffix : Tag)
  | scalar (text : String) (style : ScalarStyle)
deriving DecidableEq, Inhabited

/-- A place where a key may have begun. -/
structure PossibleKey where
  /-- Whether only a key can stand there. -/
  required : Bool
  /-- The number of tokens before it. -/
  number : Nat
  offset : Nat
  line : Nat
  column : Nat
deriving DecidableEq, Inhabited

/-- The state of reading tokens. -/
structure Scanner where
  cursor : Cursor
  /-- The indentation of the innermost block collection, -1 outside of all. -/
  indent : Int
  /-- The indentations of the collections around it. -/
  outer : List Int
  /-- Whether a key may begin here. -/
  keyAllowed : Bool
  /-- The possible key of the innermost flow collection, or of the block context. -/
  key : Option PossibleKey
  /-- The possible keys around it, one for each open flow collection. -/
  keys : List (Option PossibleKey)
  /-- The tokens so far, the last one first. -/
  tokens : List Token
  count : Nat
deriving Inhabited

namespace Scanner

/-- The state at the beginning of a text. -/
def start (cs : List Char) : Scanner := ⟨.start cs, -1, [], true, none, [], [], 0⟩

def inFlow (s : Scanner) : Bool := !s.keys.isEmpty

/-- Adds a token. -/
def emit (s : Scanner) (t : Token) : Scanner :=
  { s with tokens := t :: s.tokens, count := s.count + 1 }

/-- Puts a token in before those that follow some number of tokens. -/
def insertAt (s : Scanner) (number : Nat) (t : Token) : Scanner :=
  let later := s.count - number
  { s with tokens := s.tokens.take later ++ t :: s.tokens.drop later, count := s.count + 1 }

/-- Closes the block collections that are indented further than a column. -/
def closeBlocks (column : Int) : (outer : List Int) → Scanner → Scanner
  | [], s => s
  | i :: is, s =>
    if column < s.indent then
      closeBlocks column is { s.emit .blockEnd with indent := i, outer := is }
    else s

/-- Closes the block collections that end at a column. -/
def unroll (s : Scanner) (column : Int) : Scanner :=
  if s.inFlow then s else closeBlocks column s.outer s

/-- Opens a block collection at a column, unless one is open there. -/
def roll (s : Scanner) (column : Nat) (number : Nat) (t : Token) : Scanner :=
  if s.inFlow ∨ (column : Int) ≤ s.indent then s
  else { s.insertAt number t with indent := column, outer := s.indent :: s.outer }

/-- Gives up the possible key; one that is required may not be given up. -/
def dropKey (s : Scanner) : Option Scanner :=
  if s.key.any (·.required) then none else some { s with key := none }

/-- Whether a possible key is too far behind: on an earlier line, or more than 1024 octets. -/
def PossibleKey.isStale (k : PossibleKey) (c : Cursor) : Bool :=
  k.line < c.line || k.offset + 1024 < c.offset

/--
Gives up the possible key if it is too far behind. Those of the collections around have to wait
until theirs is the innermost again; what is too far behind now is so then.
-/
def dropStaleKey (s : Scanner) : Option Scanner :=
  if s.key.any (PossibleKey.isStale · s.cursor) then s.dropKey else some s

/-- Marks the place as a possible key. -/
def saveKey (s : Scanner) : Option Scanner :=
  if s.keyAllowed then do
    let s ← s.dropKey
    let c := s.cursor
    let required := !s.inFlow && s.indent = c.column
    return { s with key := some ⟨required, s.count, c.offset, c.line, c.column⟩ }
  else some s

/-- Passes byte order marks, blanks, comments and line breaks. -/
def skipToToken : Nat → Scanner → Scanner
  | 0, s => s
  | fuel + 1, s =>
    let blank (ch : Char) : Bool := ch = ' ' || (ch = '\t' && (s.inFlow || !s.keyAllowed))
    let c := (s.cursor.skipMark.skipWhile blank).skipComment
    match c.rest with
    | [] => { s with cursor := c }
    | ch :: _ =>
      if isBreak ch then
        skipToToken fuel { s with cursor := c.newline, keyAllowed := s.keyAllowed || !s.inFlow }
      else { s with cursor := c }

/-! ## Tags, anchors and directives -/

/-- Adds the tag at the cursor. -/
def emitTag (s : Scanner) : Option Scanner := do
  let (handle, suffix, c) ← scanTag s.cursor
  if endsWord c.rest || (s.inFlow && c.rest.head? = some ',') then
    return { s.emit (.tag handle suffix) with cursor := c }
  else none

/-- Reads the name of an anchor or an alias after its first character. -/
def scanName (c : Cursor) : Option (String × Cursor) :=
  let word := c.rest.takeWhile isWordChar
  let c := c.skip word.length
  let ends := endsWord c.rest || c.rest.head?.any fun ch =>
    ch ∈ ['?', ':', ',', ']', '\x7d', '%', '@', '\x60']
  if word.isEmpty || !ends then none else some (String.ofList word, c)

/-- Reads a number of at most nine digits. -/
def scanNumber (c : Cursor) : Option (Nat × Cursor) :=
  let ds := c.rest.takeWhile isDigit
  if ds.isEmpty || 9 < ds.length then none
  else some (ds.foldl (fun n d => n * 10 + (d.toNat - '0'.toNat)) 0, c.skip ds.length)

/-- Reads the parameters of a directive. -/
def directiveBody (name : List Char) (c : Cursor) : Option (Token × Cursor) := do
  let c := c.skipWhile isSpace
  if name = ['Y', 'A', 'M', 'L'] then
    let (major, c) ← scanNumber c
    match c.rest with
    | '.' :: _ =>
      let (minor, c) ← scanNumber c.next
      return (.version major minor, c)
    | _ => none
  else if name = ['T', 'A', 'G'] then
    let (handle, c) ← scanHandle c
    if handle ≠ ['!'] ∧ !isClosedHandle handle then none
    else if !c.rest.head?.any isSpace then none
    else
      let (expansion, c) ← scanExpansion (c.skipWhile isSpace)
      if endsWord c.rest then return (.handle (Tag.ofChars handle) expansion, c) else none
  else none

/-- Reads a directive. -/
def scanDirective (s : Scanner) : Option Scanner := do
  let c := s.cursor.next
  let name := c.rest.takeWhile isWordChar
  let c := c.skip name.length
  if name.isEmpty || !endsWord c.rest then none
  else
    let (t, c) ← directiveBody name c
    let c := (c.skipWhile isSpace).skipComment
    match c.rest with
    | [] => return { s.emit t with cursor := c }
    | ch :: _ => if isBreak ch then return { s.emit t with cursor := c.newline } else none

/-! ## Tokens -/

/-- Passes some characters and adds a token for them. -/
def take (s : Scanner) (n : Nat) (t : Token) : Scanner :=
  { s.emit t with cursor := s.cursor.skip n }

/-- The end of the text, which closes every block. -/
def finish (s : Scanner) : Option Scanner := (s.unroll (-1)).dropKey

/-- A directive or a document marker, which closes every block. -/
def closeAll (s : Scanner) : Option Scanner := do
  let s ← (s.unroll (-1)).dropKey
  return { s with keyAllowed := false }

def fetchFlowStart (s : Scanner) (t : Token) : Option Scanner := do
  let s ← s.saveKey
  return { s with keys := s.key :: s.keys, key := none, keyAllowed := true }.take 1 t

def fetchFlowEnd (s : Scanner) (t : Token) : Option Scanner := do
  let s ← s.dropKey
  let s := match s.keys with
    | [] => s
    | k :: ks => { s with key := k, keys := ks }
  return { s with keyAllowed := false }.take 1 t

def fetchFlowEntry (s : Scanner) : Option Scanner := do
  let s ← s.dropKey
  return { s with keyAllowed := true }.take 1 .flowEntry

def fetchBlockEntry (s : Scanner) : Option Scanner :=
  if !s.inFlow ∧ !s.keyAllowed then none
  else do
    let s ← (s.roll s.cursor.column s.count .blockSequence).dropKey
    return { s with keyAllowed := true }.take 1 .blockEntry

def fetchKey (s : Scanner) : Option Scanner :=
  if !s.inFlow ∧ !s.keyAllowed then none
  else do
    let s ← (s.roll s.cursor.column s.count .blockMapping).dropKey
    return { s with keyAllowed := !s.inFlow }.take 1 .key

def fetchValue (s : Scanner) : Option Scanner :=
  match s.key with
  | some k =>
    let s := ((s.insertAt k.number .key).roll k.column k.number .blockMapping)
    some ({ s with key := none, keyAllowed := false }.take 1 .value)
  | none =>
    if !s.inFlow ∧ !s.keyAllowed then none
    else
      let s := s.roll s.cursor.column s.count .blockMapping
      some ({ s with keyAllowed := !s.inFlow }.take 1 .value)

def fetchName (s : Scanner) (t : String → Token) : Option Scanner := do
  let s ← s.saveKey
  let (name, c) ← scanName s.cursor.next
  return { s.emit (t name) with cursor := c, keyAllowed := false }

def fetchTag (s : Scanner) : Option Scanner := do
  let s ← s.saveKey
  emitTag { s with keyAllowed := false }

def fetchBlockScalar (fuel : Nat) (s : Scanner) (literal : Bool) : Option Scanner := do
  let s ← s.dropKey
  let (text, c) ← scanBlock fuel literal s.indent s.cursor.next
  let style : ScalarStyle := if literal then .literal else .folded
  return { s.emit (.scalar (String.ofList text) style) with cursor := c, keyAllowed := true }

def fetchQuoted (fuel : Nat) (s : Scanner) (single : Bool) : Option Scanner := do
  let s ← s.saveKey
  let (text, c) ← scanQuoted fuel single s.cursor.next
  return { s.emit (.scalar (String.ofList text) .quoted) with cursor := c, keyAllowed := false }

def fetchPlain (fuel : Nat) (s : Scanner) : Option Scanner := do
  let s ← s.saveKey
  let (text, c, broken) ← scanPlain fuel (s.indent + 1) s.inFlow s.cursor
  return { s.emit (.scalar (String.ofList text) .plain) with cursor := c, keyAllowed := broken }

/-- Characters that begin something else than a plain scalar, or nothing. -/
def isIndicator (c : Char) : Bool :=
  c ∈ ['-', '?', ':', ',', '[', ']', '\x7b', '\x7d', '#', '&', '*', '!', '|', '>', '\'', '"', '%',
    '@', '\x60']

/-- Whether a plain scalar begins here. -/
def beginsPlain (inFlow : Bool) (c : Char) (cs : List Char) : Bool :=
  (!isSpaceOrBreak c && !isIndicator c) ||
  (c = '-' && !cs.head?.any isSpace) ||
  (!inFlow && (c = '?' || c = ':') && !endsWord cs)

/-- Reads the token that begins with a character; the fuel bounds the characters that are left. -/
def fetchToken (fuel : Nat) (s : Scanner) (c : Char) (cs : List Char) : Option Scanner :=
  let flow := s.inFlow
  if s.cursor.column = 0 ∧ c = '%' then s.closeAll.bind scanDirective
  else if s.cursor.atMarker then
    s.closeAll.map fun s => s.take 3 (if c = '-' then .documentStart else .documentEnd)
  else if c = '[' then s.fetchFlowStart .flowSequence
  else if c = '\x7b' then s.fetchFlowStart .flowMapping
  else if c = ']' then s.fetchFlowEnd .flowSequenceEnd
  else if c = '\x7d' then s.fetchFlowEnd .flowMappingEnd
  else if c = ',' then s.fetchFlowEntry
  else if c = '-' ∧ endsWord cs then s.fetchBlockEntry
  else if c = '?' ∧ (flow ∨ endsWord cs) then s.fetchKey
  else if c = ':' ∧ (flow ∨ endsWord cs) then s.fetchValue
  else if c = '*' then s.fetchName .alias
  else if c = '&' then s.fetchName .anchor
  else if c = '!' then s.fetchTag
  else if c = '|' ∧ !flow then s.fetchBlockScalar fuel true
  else if c = '>' ∧ !flow then s.fetchBlockScalar fuel false
  else if c = '\'' then s.fetchQuoted fuel true
  else if c = '"' then s.fetchQuoted fuel false
  else if beginsPlain flow c cs then s.fetchPlain fuel
  else none

/--
Reads tokens up to the end of the text. The fuel bounds the characters that are left, of which every
token takes at least one.
-/
def run : Nat → Scanner → Option Scanner
  | 0, _ => none
  | fuel + 1, s => do
    let s ← (skipToToken (fuel + 1) s).dropStaleKey
    let s := s.unroll s.cursor.column
    match s.cursor.rest with
    | [] => s.finish
    | c :: cs =>
      let s ← s.fetchToken (fuel + 1) c cs
      run fuel s

end Scanner

namespace Token

/-- The tokens of a text. -/
def scan (cs : List Char) : Option (List Token) :=
  if cs.all isAllowed then
    (Scanner.run (cs.length + 1) (.start cs)).map (·.tokens.reverse)
  else none

end Token

end Stageflow.Yaml
