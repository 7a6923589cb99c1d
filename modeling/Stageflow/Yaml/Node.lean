import Stageflow.Table
import Stageflow.Yaml.Token

/-!
# YAML nodes

A document as a tree. Anchors have numbers, and an alias stands for the last node of the document
that carries its number, which may be a node that it is part of or one that comes later.

* `Node.ofText` reads a text that holds at most one document.
* `Node.anchored` are the nodes that aliases may stand for.
* `Node.events` is how much there is in a document.
-/

namespace Stageflow.Yaml

/-- What is written before a node. -/
structure Properties where
  tag : Option Tag
  /-- The number of the anchor. -/
  anchor : Option Nat
deriving DecidableEq, Inhabited

/-- A node of a document. -/
inductive Node
  | scalar (before : Properties) (text : String) (style : ScalarStyle)
  | sequence (before : Properties) (items : List Node)
  | mapping (before : Properties) (entries : List (Node × Node))
  /-- An alias, with the number of its anchor. -/
  | alias (number : Nat)
  /-- The content of a text without a document. -/
  | absent
deriving Inhabited

namespace Node

/-! ## Anchors and size -/

/-- Adds a node to those with an anchor, if it has one. -/
def note (before : Properties) (n : Node) (noted : List (Nat × Node)) : List (Nat × Node) :=
  match before.anchor with
  | some number => (number, n) :: noted
  | none => noted

mutual

/-- Adds a node and those inside it to the nodes with an anchor. -/
def noteAll : Node → List (Nat × Node) → List (Nat × Node)
  | scalar p text style, noted => note p (scalar p text style) noted
  | sequence p items, noted => noteItems items (note p (sequence p items) noted)
  | mapping p entries, noted => noteEntries entries (note p (mapping p entries) noted)
  | .alias _, noted => noted
  | absent, noted => noted

def noteItems : List Node → List (Nat × Node) → List (Nat × Node)
  | [], noted => noted
  | n :: ns, noted => noteItems ns (noteAll n noted)

def noteEntries : List (Node × Node) → List (Nat × Node) → List (Nat × Node)
  | [], noted => noted
  | (k, v) :: es, noted => noteEntries es (noteAll v (noteAll k noted))

end

/-- The nodes with an anchor by their numbers, the last one of the text first. -/
def anchored (n : Node) : List (Nat × Node) := noteAll n []

mutual

/-- The number of scalars, aliases, and beginnings and ends of collections. -/
def events : Node → Nat
  | sequence _ items => eventsOfItems items + 2
  | mapping _ entries => eventsOfEntries entries + 2
  | _ => 1

def eventsOfItems : List Node → Nat
  | [] => 0
  | n :: ns => events n + eventsOfItems ns

def eventsOfEntries : List (Node × Node) → Nat
  | [] => 0
  | (k, v) :: es => events k + events v + eventsOfEntries es

end

end Node

/-! ## Reading nodes -/

/-- What nodes are read with: the tokens left, and the numbers of the anchors so far. -/
structure Reader where
  tokens : List Token
  anchors : Table Nat

/--
Gives an anchor its number: how many different names came before it. A name that is given again has
a new number, which the next new name then shares.
-/
def Reader.declare (r : Reader) (name : Name) : Nat × Reader :=
  (r.anchors.length, { r with anchors := r.anchors.insert name r.anchors.length })

namespace Node

/-- A scalar of which nothing is written. -/
def blank : Node := scalar ⟨none, none⟩ "" .plain

/-- The anchor and the tag before a node, and the tokens after them. -/
def splitProperties : List Token → Option Name × Option (Tag × Tag) × List Token
  | .anchor a :: .tag h s :: ts => (some a, some (h, s), ts)
  | .anchor a :: ts => (some a, none, ts)
  | .tag h s :: .anchor a :: ts => (some a, some (h, s), ts)
  | .tag h s :: ts => (none, some (h, s), ts)
  | ts => (none, none, ts)

/-- Reads what is written before a node; the handle of a tag has to be known. -/
def properties (handles : Handles) (r : Reader) : Option (Properties × Reader) := do
  let (name, tag, tokens) := splitProperties r.tokens
  let r := { r with tokens }
  let tag ← match tag with
    | some (handle, suffix) => (Tag.resolve handles handle suffix).map some
    | none => some none
  match name with
  | some a =>
    let (number, r) := r.declare a
    return (⟨tag, number⟩, r)
  | none => return (⟨tag, none⟩, r)

/-- Whether the tokens begin with one of some tokens. -/
def at? (ts : List Token) (stops : List Token) : Bool := ts.head?.any (· ∈ stops)

/-- A node of which only a tag or an anchor is written; there must be one of them. -/
def bare (before : Properties) (r : Reader) : Option (Node × Reader) :=
  if before.anchor.isSome || before.tag.isSome then some (scalar before "" .plain, r) else none

mutual

/--
Reads a node. In a block a collection may be indented; after a key a sequence need not be. The fuel
bounds the tokens that are read.
-/
def read (handles : Handles) (block indentless : Bool) : Nat → Reader → Option (Node × Reader)
  | 0, _ => none
  | fuel + 1, r =>
    match r.tokens with
    | .alias name :: ts =>
      (r.anchors.get? name).map fun number => (.alias number, { r with tokens := ts })
    | _ =>
      match properties handles r with
      | none => none
      | some (before, r) =>
        match r.tokens with
        | .blockEntry :: _ =>
          if indentless then
            (readIndentless handles fuel r).map fun (items, r) => (sequence before items, r)
          else bare before r
        | .scalar text style :: ts => some (scalar before text style, { r with tokens := ts })
        | .flowSequence :: ts =>
          (readFlowItems handles true fuel { r with tokens := ts }).map fun (items, r) =>
            (sequence before items, r)
        | .flowMapping :: ts =>
          (readFlowEntries handles true fuel { r with tokens := ts }).map fun (entries, r) =>
            (mapping before entries, r)
        | .blockSequence :: ts =>
          if block then
            (readBlockItems handles fuel { r with tokens := ts }).map fun (items, r) =>
              (sequence before items, r)
          else bare before r
        | .blockMapping :: ts =>
          if block then
            (readBlockEntries handles fuel { r with tokens := ts }).map fun (entries, r) =>
              (mapping before entries, r)
          else bare before r
        | _ => bare before r

/-- Reads a node unless one of some tokens stands there, which means that nothing is written. -/
def readUnless (handles : Handles) (block indentless : Bool) (stops : List Token) :
    Nat → Reader → Option (Node × Reader)
  | 0, _ => none
  | fuel + 1, r =>
    if at? r.tokens stops then some (blank, r) else read handles block indentless fuel r

/-- Reads the items of a block sequence. -/
def readBlockItems (handles : Handles) : Nat → Reader → Option (List Node × Reader)
  | 0, _ => none
  | fuel + 1, r =>
    match r.tokens with
    | .blockEnd :: ts => some ([], { r with tokens := ts })
    | .blockEntry :: ts => do
      let (n, r) ← readUnless handles true false [.blockEntry, .blockEnd] fuel
        { r with tokens := ts }
      let (ns, r) ← readBlockItems handles fuel r
      return (n :: ns, r)
    | _ => none

/-- Reads the items of a sequence that is not indented. -/
def readIndentless (handles : Handles) : Nat → Reader → Option (List Node × Reader)
  | 0, _ => none
  | fuel + 1, r =>
    match r.tokens with
    | .blockEntry :: ts => do
      let (n, r) ← readUnless handles true false [.blockEntry, .key, .value, .blockEnd] fuel
        { r with tokens := ts }
      let (ns, r) ← readIndentless handles fuel r
      return (n :: ns, r)
    | _ => some ([], r)

/-- Reads the entries of a block mapping. -/
def readBlockEntries (handles : Handles) : Nat → Reader → Option (List (Node × Node) × Reader)
  | 0, _ => none
  | fuel + 1, r =>
    match r.tokens with
    | .blockEnd :: ts => some ([], { r with tokens := ts })
    | .key :: ts => do
      let stops : List Token := [.key, .value, .blockEnd]
      let (k, r) ← readUnless handles true true stops fuel { r with tokens := ts }
      let (v, r) ← match r.tokens with
        | .value :: ts => readUnless handles true true stops fuel { r with tokens := ts }
        | _ => some (blank, r)
      let (es, r) ← readBlockEntries handles fuel r
      return ((k, v) :: es, r)
    | _ => none

/-- Reads the items of a flow sequence. -/
def readFlowItems (handles : Handles) (first : Bool) : Nat → Reader → Option (List Node × Reader)
  | 0, _ => none
  | fuel + 1, r =>
    match r.tokens with
    | .flowSequenceEnd :: ts => some ([], { r with tokens := ts })
    | tokens => do
      let tokens ← if first then some tokens else match tokens with
        | .flowEntry :: ts => some ts
        | _ => none
      match tokens with
      | .flowSequenceEnd :: ts => return ([], { r with tokens := ts })
      | .key :: ts =>
        let (k, r) ← readPairKey handles fuel { r with tokens := ts }
        let (v, r) ← match r.tokens with
          | .value :: ts =>
            readUnless handles false false [.flowEntry, .flowSequenceEnd] fuel
              { r with tokens := ts }
          | _ => some (blank, r)
        let (ns, r) ← readFlowItems handles false fuel r
        return (mapping ⟨none, none⟩ [(k, v)] :: ns, r)
      | _ =>
        let (n, r) ← read handles false false fuel { r with tokens }
        let (ns, r) ← readFlowItems handles false fuel r
        return (n :: ns, r)

/-- Reads the key of a pair inside a flow sequence; a token that ends it at once is passed over. -/
def readPairKey (handles : Handles) : Nat → Reader → Option (Node × Reader)
  | 0, _ => none
  | fuel + 1, r =>
    if at? r.tokens [.value, .flowEntry, .flowSequenceEnd] then
      some (blank, { r with tokens := r.tokens.tail })
    else read handles false false fuel r

/-- Reads the entries of a flow mapping. -/
def readFlowEntries (handles : Handles) (first : Bool) :
    Nat → Reader → Option (List (Node × Node) × Reader)
  | 0, _ => none
  | fuel + 1, r =>
    match r.tokens with
    | .flowMappingEnd :: ts => some ([], { r with tokens := ts })
    | tokens => do
      let tokens ← if first then some tokens else match tokens with
        | .flowEntry :: ts => some ts
        | _ => none
      match tokens with
      | .flowMappingEnd :: ts => return ([], { r with tokens := ts })
      | .key :: ts =>
        let (k, r) ← readUnless handles false false [.value, .flowEntry, .flowMappingEnd] fuel
          { r with tokens := ts }
        let (v, r) ← match r.tokens with
          | .value :: ts =>
            readUnless handles false false [.flowEntry, .flowMappingEnd] fuel
              { r with tokens := ts }
          | _ => some (blank, r)
        let (es, r) ← readFlowEntries handles false fuel r
        return ((k, v) :: es, r)
      | _ =>
        let (k, r) ← read handles false false fuel { r with tokens }
        let (es, r) ← readFlowEntries handles false fuel r
        return ((k, blank) :: es, r)

end

/-! ## Documents -/

/-- Reads directives; one version and one abbreviation for each handle at most. -/
def directives : List Token → (version : Bool) → Handles → Option (Handles × List Token)
  | .version major minor :: ts, version, hs =>
    if version ∨ major ≠ 1 ∨ ¬(minor = 1 ∨ minor = 2) then none else directives ts true hs
  | .handle name expansion :: ts, version, hs =>
    if (hs.lookup name).isSome then none else directives ts version ((name, expansion) :: hs)
  | ts, _, hs => some (hs, ts)

/-- Whether the tokens after a document, if any, hold no other document. -/
def isEnd (ts : List Token) : Bool := (ts.dropWhile (· = .documentEnd)).isEmpty

/-- Reads the only document of some tokens. -/
def ofTokens (ts : List Token) : Option Node := do
  match ts with
  | [] => return absent
  | t :: _ =>
    let explicit := match t with
      | .version .. | .handle .. | .documentStart => true
      | _ => false
    if explicit then
      let (hs, ts) ← directives ts false []
      match ts with
      | .documentStart :: ts =>
        let fuel := 3 * ts.length + 3
        let stops : List Token := [.documentStart, .documentEnd]
        let startsDirective := match ts with
          | .version .. :: _ | .handle .. :: _ | [] => true
          | _ => false
        if startsDirective then if isEnd ts then return blank else none
        else
          let (n, r) ← readUnless (hs ++ Tag.defaultHandles) true false stops fuel ⟨ts, []⟩
          if isEnd r.tokens then return n else none
      | _ => none
    else
      let (n, r) ← read Tag.defaultHandles true false (3 * ts.length + 3) ⟨ts, []⟩
      if isEnd r.tokens then return n else none

/-- Reads a text that holds at most one document. -/
def ofText (s : String) : Option Node := do
  let ts ← Token.scan s.toList
  ofTokens ts

end Node

end Stageflow.Yaml
