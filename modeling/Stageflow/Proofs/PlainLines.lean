import Stageflow.Yaml.Node

/-!
# Lines of plain words

Text in which every line holds a key and a value, both of them words of letters, digits and
underscores. Such a text is one block mapping of plain scalars:

* `Scanner.run_line`: a line is read in three steps, the key, the colon and the value;
* `Token.scan_lines`: the tokens of all lines, in the block that the first key opens;
* `Node.ofText_lines`: the mapping that they make.
-/

namespace Stageflow.Yaml

/-- Letters, digits and underscores, which mean themselves anywhere in a text. -/
def isPlain (c : Char) : Bool :=
  isDigit c || ('A' ≤ c && c ≤ 'Z') || ('a' ≤ c && c ≤ 'z') || c = '_'

/-- A text of one or more plain characters. -/
structure Word (w : List Char) : Prop where
  some_char : w ≠ []
  plain : ∀ c ∈ w, isPlain c

variable {c : Char} {cs w k v rest next : List Char} {fuel : Nat}

/-! ## Plain characters -/

theorem ne_of_isPlain {d : Char} (h : isPlain c) (other : isPlain d = false) : c ≠ d := by
  rintro rfl
  rw [h] at other
  cases other

theorem toNat_of_isPlain (h : isPlain c) : 0x30 ≤ c.toNat ∧ c.toNat ≤ 0x7A := by
  simp only [isPlain, isDigit, Bool.or_eq_true, Bool.and_eq_true, decide_eq_true_iff,
    Char.le_def, UInt32.le_iff_toNat_le] at h
  rcases h with ((⟨low, high⟩ | ⟨low, high⟩) | ⟨low, high⟩) | rfl
  · exact ⟨low, Nat.le_trans high (by decide)⟩
  · exact ⟨Nat.le_trans (by decide) low, Nat.le_trans high (by decide)⟩
  · exact ⟨Nat.le_trans (by decide) low, high⟩
  · decide

theorem isAllowed_of_isPlain (h : isPlain c) : isAllowed c := by
  have range := toNat_of_isPlain h
  simp only [isAllowed, Bool.or_eq_true, Bool.and_eq_true, decide_eq_true_iff]
  omega

theorem isSpace_of_isPlain (h : isPlain c) : isSpace c = false := by
  simp [isSpace, ne_of_isPlain h (d := ' ') rfl, ne_of_isPlain h (d := '\t') rfl]

theorem isBreak_of_isPlain (h : isPlain c) : isBreak c = false := by
  have range := toNat_of_isPlain h
  simp [isBreak, ne_of_isPlain h (d := '\n') rfl, ne_of_isPlain h (d := '\r') rfl]
  omega

theorem isSpaceOrBreak_of_isPlain (h : isPlain c) : isSpaceOrBreak c = false := by
  rw [isSpaceOrBreak, isSpace_of_isPlain h, isBreak_of_isPlain h]
  rfl

theorem notMem_of_isPlain {ds : List Char} (h : isPlain c) (others : ds.all fun d => !isPlain d) :
    c ∉ ds := by
  intro there
  have other := List.all_eq_true.mp others c there
  rw [h] at other
  cases other

theorem isIndicator_of_isPlain (h : isPlain c) : Scanner.isIndicator c = false := by
  unfold Scanner.isIndicator
  exact decide_eq_false (notMem_of_isPlain h (by decide))

/-- The next character of a text, if there is one, is plain. -/
def Begins (cs : List Char) : Prop := ∀ c ∈ cs.head?, isPlain c

theorem begins_cons (h : isPlain c) (cs : List Char) : Begins (c :: cs) := by
  intro d hd
  exact Option.some.inj hd ▸ h

theorem Word.begins (h : Word w) (rest : List Char) : Begins (w ++ rest) := by
  cases w with
  | nil => exact absurd rfl h.some_char
  | cons c w => exact begins_cons (h.plain c List.mem_cons_self) _

theorem atMarker_of_begins {x : Cursor} (h : Begins x.rest) : x.atMarker = false := by
  unfold Cursor.atMarker
  split
  · next shape => exact absurd (h '-' (by rw [shape]; rfl)) (by decide)
  · next shape => exact absurd (h '.' (by rw [shape]; rfl)) (by decide)
  · exact Bool.and_false _

/-! ## Words -/

theorem plainWord_append (plain : ∀ c ∈ w, isPlain c) (ends : plainWord false rest = some []) :
    plainWord false (w ++ rest) = some w := by
  induction w with
  | nil => exact ends
  | cons c w ih =>
    obtain ⟨first, others⟩ := List.forall_mem_cons.mp plain
    have colon : c ≠ ':' := ne_of_isPlain first rfl
    rw [List.cons_append, plainWord, isSpaceOrBreak_of_isPlain first]
    simp [colon, ih others]

/-- The blanks at the end of a line: the line break, before a word or the end of the text. -/
theorem scanGap_newline (limit : Option Int) (offset line column fuel : Nat)
    (begins : Begins next) :
    scanGap limit (fuel + 2) ⟨'\n' :: next, offset, line, column⟩ .none =
      some (⟨next, offset + 1, line + 1, 0⟩, ⟨[], true, ['\n'], []⟩) := by
  have broken : scanGap limit (fuel + 2) ⟨'\n' :: next, offset, line, column⟩ .none =
      scanGap limit (fuel + 1) ⟨next, offset + 1, line + 1, 0⟩ ⟨[], true, ['\n'], []⟩ := rfl
  rw [broken, scanGap]
  cases next with
  | nil => rfl
  | cons c cs =>
    have plain : isPlain c := begins c rfl
    simp [isSpace_of_isPlain plain, isBreak_of_isPlain plain]

theorem head?_append_ne (word : Word w) {d : Char} (other : isPlain d = false) :
    (w ++ rest).head? ≠ some d := by
  intro same
  exact ne_of_isPlain (word.begins rest d same) other rfl

theorem Cursor.skip_append (offset line column : Nat) :
    Cursor.skip ⟨w ++ rest, offset, line, column⟩ w.length =
      ⟨rest, offset + octets w, line, column + w.length⟩ := by
  simp [Cursor.skip]

/-- A plain scalar begins with a word. -/
theorem plainLoop_word (word : Word w) (ends : plainWord false rest = some []) (indent : Int)
    (offset line column fuel : Nat) :
    plainLoop indent false (fuel + 1) ⟨w ++ rest, offset, line, column⟩ .none [] =
      (if !rest.head?.any isSpaceOrBreak then
        return (w.reverse, ⟨rest, offset + octets w, line, column + w.length⟩, false)
      else do
        let (c, g) ← scanGap (some indent) (fuel + 1)
          ⟨rest, offset + octets w, line, column + w.length⟩ .none
        if (c.column : Int) < indent then return (w.reverse, c, g.broken)
        plainLoop indent false fuel c g w.reverse) := by
  have marker : Cursor.atMarker ⟨w ++ rest, offset, line, column⟩ = false :=
    atMarker_of_begins (word.begins rest)
  have comment : (w ++ rest).head? ≠ some '#' := head?_append_ne word rfl
  have read : plainWord false (w ++ rest) = some w := plainWord_append word.plain ends
  rw [plainLoop, if_neg (not_or.mpr ⟨ne_true_of_eq_false marker, comment⟩)]
  simp [read, word.some_char, Gap.onto, Gap.none, Cursor.skip_append]

/-- A word before a colon is a plain scalar of one line. -/
theorem scanPlain_key (word : Word w) (indent : Int) (offset line column fuel : Nat) :
    scanPlain (fuel + 1) indent false ⟨w ++ ':' :: ' ' :: rest, offset, line, column⟩ =
      some (w, ⟨':' :: ' ' :: rest, offset + octets w, line, column + w.length⟩, false) := by
  rw [scanPlain, plainLoop_word word rfl]
  simp [isSpaceOrBreak, isSpace, isBreak]

/-- A word at the end of a line is a plain scalar, if the next line is not indented further. -/
theorem scanPlain_value (word : Word w) (indent : Int) (inside : 0 < indent)
    (offset line column fuel : Nat) (begins : Begins next) :
    scanPlain (fuel + 2) indent false ⟨w ++ '\n' :: next, offset, line, column⟩ =
      some (w, ⟨next, offset + octets w + 1, line + 1, 0⟩, true) := by
  rw [scanPlain, plainLoop_word word rfl, scanGap_newline _ _ _ _ _ begins]
  simp [isSpaceOrBreak, isBreak, inside]

/-! ## Between tokens -/

/-- A character that is passed over neither as a blank nor as a comment. -/
structure Solid (c : Char) : Prop where
  space_or_break : isSpaceOrBreak c = false
  mark : c ≠ '\uFEFF'
  comment : c ≠ '#'

theorem solid_of_isPlain (h : isPlain c) : Solid c :=
  ⟨isSpaceOrBreak_of_isPlain h, ne_of_isPlain h rfl, ne_of_isPlain h rfl⟩

theorem Cursor.skipMark_of_ne {x : Cursor} (h : x.rest.head? ≠ some '\uFEFF') : x.skipMark = x :=
  if_neg fun mark => h mark.2

theorem Cursor.skipComment_of_ne {x : Cursor} (h : x.rest.head? ≠ some '#') :
    x.skipComment = x := by
  unfold Cursor.skipComment
  split
  · next shape => exact absurd (by rw [shape]; rfl) h
  · rfl

namespace Scanner

variable {s : Scanner}

/-- The spaces before a token are passed over, and nothing else. -/
theorem skipToToken_spaces (n : Nat) (shape : s.cursor.rest = List.replicate n ' ' ++ rest)
    (stops : ∀ c ∈ rest.head?, Solid c) :
    skipToToken (fuel + 1) s = { s with cursor := s.cursor.skip n } := by
  have mark : s.cursor.rest.head? ≠ some '\uFEFF' := by
    rw [shape]
    cases n with
    | zero => exact fun head => (stops _ head).mark rfl
    | succ n => simp [List.replicate_succ]
  have spaces (p : Char → Bool) (space : p ' ' = true) (solid : ∀ c, Solid c → p c = false) :
      (s.cursor.rest.takeWhile p).length = n := by
    rw [shape, List.takeWhile_append_of_pos (by simp [space])]
    cases rest with
    | nil => simp
    | cons c cs => simp [solid c (stops c rfl)]
  have left : (s.cursor.skip n).rest = rest := by simp [Cursor.skip, shape]
  have comment : (s.cursor.skip n).rest.head? ≠ some '#' := by
    rw [left]
    exact fun head => (stops _ head).comment rfl
  rw [skipToToken, Cursor.skipMark_of_ne mark, Cursor.skipWhile, spaces]
  · rw [Cursor.skipComment_of_ne comment, left]
    cases rest with
    | nil => rfl
    | cons c cs =>
      have solid : isBreak c = false := by
        have := (stops c rfl).space_or_break
        simp [isSpaceOrBreak] at this
        exact this.2
      simp [solid]
  · rfl
  · intro c solid
    have := solid.space_or_break
    simp [isSpaceOrBreak, isSpace] at this
    simp [this]

theorem skipToToken_here (stops : ∀ c ∈ s.cursor.rest.head?, Solid c) :
    skipToToken (fuel + 1) s = s := by
  have same : s.cursor.skip 0 = s.cursor := by simp [Cursor.skip, octets]
  rw [skipToToken_spaces 0 rfl stops, same]

/-! ## Tokens of a line -/

/-- Where a plain character stands, a plain scalar begins. -/
theorem fetchToken_plain (shape : s.cursor.rest = c :: cs) (plain : isPlain c) :
    s.fetchToken fuel c cs = s.fetchPlain fuel := by
  have marker : s.cursor.atMarker = false := atMarker_of_begins (shape ▸ begins_cons plain cs)
  have begins : beginsPlain s.inFlow c cs = true := by
    rw [beginsPlain, isSpaceOrBreak_of_isPlain plain, isIndicator_of_isPlain plain]
    rfl
  have ne {d : Char} (other : isPlain d = false) : c ≠ d := ne_of_isPlain plain other
  simp only [fetchToken, marker, begins, ne (d := '%') rfl, ne (d := '[') rfl, ne (d := ']') rfl,
    ne (d := '\x7b') rfl, ne (d := '\x7d') rfl, ne (d := ',') rfl, ne (d := '-') rfl,
    ne (d := '?') rfl, ne (d := ':') rfl, ne (d := '*') rfl, ne (d := '&') rfl, ne (d := '!') rfl,
    ne (d := '|') rfl, ne (d := '>') rfl, ne (d := '\'') rfl, ne (d := '"') rfl, and_false,
    false_and, if_false, if_true, Bool.false_eq_true]

/-- A colon before a space is the end of a key. -/
theorem fetchToken_colon (shape : s.cursor.rest = ':' :: ' ' :: cs) :
    s.fetchToken fuel ':' (' ' :: cs) = s.fetchValue := by
  have marker : s.cursor.atMarker = false := by
    simp [Cursor.atMarker, shape]
  simp [fetchToken, marker, endsWord, isSpaceOrBreak, isSpace]

/-- No block ends at a column that is not before its indentation. -/
theorem unroll_of_le {column : Int} (h : s.indent ≤ column) : s.unroll column = s := by
  unfold unroll
  split
  · rfl
  · cases s.outer with
    | nil => rfl
    | cons i is => exact if_neg (by omega)

/-- A token is read after the blanks before it, if no possible key is left too far behind and no
block ends there. -/
theorem run_token {s₁ s₂ : Scanner} (skipped : skipToToken (fuel + 1) s = s₁)
    (fresh : s₁.dropStaleKey = some s₁) (level : s₁.unroll s₁.cursor.column = s₁)
    (shape : s₁.cursor.rest = c :: cs) (fetched : s₁.fetchToken (fuel + 1) c cs = some s₂) :
    run (fuel + 1) s = run fuel s₂ := by
  rw [run, skipped, fresh]
  simp only [Option.bind_eq_bind, Option.bind_some]
  rw [level, shape]
  simp [fetched]

/-- The beginning of a line, in a block mapping without indentation or before any. -/
def lineStart (opened : Bool) (text : List Char) (offset line : Nat) (tokens : List Token) :
    Scanner where
  cursor := ⟨text, offset, line, 0⟩
  indent := if opened then 0 else -1
  outer := if opened then [-1] else []
  keyAllowed := true
  key := none
  keys := []
  tokens := tokens
  count := tokens.length

/-- Behind the key of a line: it is known only from the colon that it is one. -/
def keyRead (opened : Bool) (k rest : List Char) (offset line : Nat) (tokens : List Token) :
    Scanner :=
  { lineStart opened [] offset line tokens with
    cursor := ⟨':' :: ' ' :: rest, offset + octets k, line, k.length⟩
    keyAllowed := false
    key := some ⟨opened, tokens.length, offset, line, 0⟩
    tokens := .scalar (String.ofList k) .plain :: tokens
    count := tokens.length + 1 }

/-- The tokens of a key, the last one first, with the block that the first key opens. -/
def keyTokens (opened : Bool) (k : List Char) : List Token :=
  .value :: .scalar (String.ofList k) .plain :: .key :: if opened then [] else [.blockMapping]

/-- Behind the colon of a line. -/
def colonRead (opened : Bool) (k rest : List Char) (offset line : Nat) (tokens : List Token) :
    Scanner :=
  { lineStart true [] offset line (keyTokens opened k ++ tokens) with
    cursor := ⟨' ' :: rest, offset + octets k + 1, line, k.length + 1⟩
    keyAllowed := false }

theorem run_key (word : Word k) (opened : Bool) (offset line : Nat) (tokens : List Token) :
    run (fuel + 1) (lineStart opened (k ++ ':' :: ' ' :: rest) offset line tokens) =
      run fuel (keyRead opened k rest offset line tokens) := by
  obtain ⟨c, cs, shape⟩ : ∃ c cs, k = c :: cs := List.exists_cons_of_ne_nil word.some_char
  have plain : isPlain c := word.plain c (shape ▸ List.mem_cons_self)
  have text : (lineStart opened (k ++ ':' :: ' ' :: rest) offset line tokens).cursor.rest =
      c :: (cs ++ ':' :: ' ' :: rest) := by
    rw [shape]
    rfl
  refine run_token (skipToToken_here ?_) rfl ?_ text ?_
  · intro d hd
    rw [text] at hd
    exact Option.some.inj hd ▸ solid_of_isPlain plain
  · apply unroll_of_le
    cases opened <;> simp [lineStart]
  · rw [fetchToken_plain text plain, fetchPlain]
    have saved : (lineStart opened (k ++ ':' :: ' ' :: rest) offset line tokens).saveKey =
        some { lineStart opened (k ++ ':' :: ' ' :: rest) offset line tokens with
          key := some ⟨opened, tokens.length, offset, line, 0⟩ } := by
      cases opened <;> rfl
    rw [saved]
    change (scanPlain (fuel + 1) _ false ⟨k ++ ':' :: ' ' :: rest, offset, line, 0⟩ >>= _) = _
    rw [scanPlain_key word]
    simp [keyRead, emit, lineStart]

/-- The colon puts the key in before its scalar, and opens the block before the first key. -/
theorem run_colon (near : octets k ≤ 1024) (opened : Bool) (offset line : Nat)
    (tokens : List Token) :
    run (fuel + 1) (keyRead opened k rest offset line tokens) =
      run fuel (colonRead opened k rest offset line tokens) := by
  have text : (keyRead opened k rest offset line tokens).cursor.rest = ':' :: ' ' :: rest := rfl
  refine run_token (skipToToken_here ?_) ?_ ?_ text ?_
  · intro d hd
    obtain rfl := Option.some.inj (text ▸ hd)
    exact ⟨rfl, by decide, by decide⟩
  · have fresh : PossibleKey.isStale ⟨opened, tokens.length, offset, line, 0⟩
        ⟨':' :: ' ' :: rest, offset + octets k, line, k.length⟩ = false := by
      simp [PossibleKey.isStale]
      omega
    simp [dropStaleKey, keyRead, lineStart, fresh]
  · have outside : (-1 : Int) ≤ (k.length : Int) := by omega
    apply unroll_of_le
    cases opened with
    | false => exact outside
    | true => exact Int.natCast_nonneg _
  · have one : ':'.utf8Size = 1 := rfl
    have two : tokens.length + 1 + 1 - tokens.length = 2 := by omega
    rw [fetchToken_colon text]
    cases opened <;>
      simp [fetchValue, keyRead, lineStart, insertAt, roll, inFlow, take, emit, colonRead,
        keyTokens, Cursor.skip, octets, one, two]

/-- The value ends with the line, where the next key may begin. -/
theorem run_value (word : Word v) (begins : Begins next) (opened : Bool) (offset line : Nat)
    (tokens : List Token) :
    run (fuel + 2) (colonRead opened k (v ++ '\n' :: next) offset line tokens) =
      run (fuel + 1) (lineStart true next (offset + octets k + 2 + octets v + 1) (line + 1)
        (.scalar (String.ofList v) .plain :: keyTokens opened k ++ tokens)) := by
  obtain ⟨c, cs, shape⟩ : ∃ c cs, v = c :: cs := List.exists_cons_of_ne_nil word.some_char
  have plain : isPlain c := word.plain c (shape ▸ List.mem_cons_self)
  let s : Scanner := { colonRead opened k (v ++ '\n' :: next) offset line tokens with
    cursor := ⟨v ++ '\n' :: next, offset + octets k + 2, line, k.length + 2⟩ }
  have skipped :
      skipToToken (fuel + 2) (colonRead opened k (v ++ '\n' :: next) offset line tokens) = s := by
    refine skipToToken_spaces 1 rfl fun d hd => ?_
    exact solid_of_isPlain (word.begins _ d hd)
  have text : s.cursor.rest = c :: (cs ++ '\n' :: next) := by
    rw [← List.cons_append, ← shape]
  refine run_token skipped rfl (unroll_of_le (Int.natCast_nonneg _)) text ?_
  rw [fetchToken_plain text plain, fetchPlain]
  change (scanPlain (fuel + 2) 1 false s.cursor >>= _) = _
  rw [scanPlain_value word 1 (by decide) _ _ _ _ begins]
  rfl

/-- **A line.** Its key and its value are read in three steps, up to the beginning of the next. -/
theorem run_line (key : Word k) (near : octets k ≤ 1024) (value : Word v) (begins : Begins next)
    (opened : Bool) (offset line : Nat) (tokens : List Token) :
    run (fuel + 4) (lineStart opened (k ++ ':' :: ' ' :: (v ++ '\n' :: next)) offset line tokens) =
      run (fuel + 1) (lineStart true next (offset + octets k + 2 + octets v + 1) (line + 1)
        (.scalar (String.ofList v) .plain :: keyTokens opened k ++ tokens)) := by
  rw [run_key key, run_colon near, run_value value begins]

/-- The end of the text closes the block of the lines. -/
theorem run_end (offset line : Nat) (tokens : List Token) :
    (run (fuel + 1) (lineStart true [] offset line tokens)).map (·.tokens) =
      some (.blockEnd :: tokens) := by
  have skipped : skipToToken (fuel + 1) (lineStart true [] offset line tokens) =
      lineStart true [] offset line tokens := skipToToken_here nofun
  rw [run, skipped]
  rfl

end Scanner

/-! ## All lines -/

/-- The text of lines, each of which holds a key and a value. -/
def linesText : List (List Char × List Char) → List Char
  | [] => []
  | (k, v) :: ls => k ++ ':' :: ' ' :: (v ++ '\n' :: linesText ls)

/-- The tokens of lines. -/
def linesTokens : List (List Char × List Char) → List Token
  | [] => []
  | (k, v) :: ls =>
    .key :: .scalar (String.ofList k) .plain :: .value :: .scalar (String.ofList v) .plain ::
      linesTokens ls

theorem length_linesTokens (ls : List (List Char × List Char)) :
    (linesTokens ls).length = 4 * ls.length := by
  induction ls with
  | nil => rfl
  | cons l ls ih =>
    simp only [linesTokens, List.length_cons, ih]
    omega

/-- A line of two words, the first of which is short enough for a key. -/
structure PlainLine (l : List Char × List Char) : Prop where
  key : Word l.1
  near : octets l.1 ≤ 1024
  value : Word l.2

variable {ls : List (List Char × List Char)}

theorem begins_linesText (plain : ∀ l ∈ ls, PlainLine l) : Begins (linesText ls) := by
  cases ls with
  | nil => nofun
  | cons l ls => exact (plain l List.mem_cons_self).key.begins _

theorem isAllowed_linesText (plain : ∀ l ∈ ls, PlainLine l) : (linesText ls).all isAllowed := by
  induction ls with
  | nil => rfl
  | cons l ls ih =>
    obtain ⟨first, others⟩ := List.forall_mem_cons.mp plain
    have word {w : List Char} (h : Word w) : w.all isAllowed :=
      List.all_eq_true.mpr fun c hc => isAllowed_of_isPlain (h.plain c hc)
    have between : isAllowed ':' ∧ isAllowed ' ' ∧ isAllowed '\n' := by decide
    simp [linesText, word first.key, word first.value, between, ih others]

theorem le_length_linesText (ls : List (List Char × List Char)) :
    3 * ls.length ≤ (linesText ls).length := by
  induction ls with
  | nil => exact Nat.le_refl 0
  | cons l ls ih =>
    simp only [linesText, List.length_append, List.length_cons]
    omega

/-- Lines after the first one are read one by one, and the end of the text closes their block. -/
theorem Scanner.run_lines (plain : ∀ l ∈ ls, PlainLine l) (fuel offset line : Nat)
    (tokens : List Token) :
    (run (fuel + 3 * ls.length + 1) (lineStart true (linesText ls) offset line tokens)).map
      (·.tokens) = some (.blockEnd :: ((linesTokens ls).reverse ++ tokens)) := by
  induction ls generalizing offset line tokens with
  | nil => exact run_end offset line tokens
  | cons l ls ih =>
    obtain ⟨first, others⟩ := List.forall_mem_cons.mp plain
    have more : fuel + 3 * (l :: ls).length + 1 = fuel + 3 * ls.length + 4 := by
      rw [List.length_cons]
      omega
    rw [more, linesText, run_line first.key first.near first.value (begins_linesText others),
      ih others]
    simp [linesTokens, keyTokens]

/-- **Tokens of lines.** They stand in one block mapping, as they come in the text. -/
theorem Token.scan_lines (some_line : ls ≠ []) (plain : ∀ l ∈ ls, PlainLine l) :
    scan (linesText ls) = some (.blockMapping :: linesTokens ls ++ [.blockEnd]) := by
  obtain ⟨fuel, enough⟩ := Nat.exists_eq_add_of_le' (le_length_linesText ls)
  rw [scan, if_pos (isAllowed_linesText plain), enough]
  cases ls with
  | nil => exact absurd rfl some_line
  | cons l ls =>
    obtain ⟨first, others⟩ := List.forall_mem_cons.mp plain
    have more : fuel + 3 * (l :: ls).length + 1 = fuel + 3 * ls.length + 4 := by
      rw [List.length_cons]
      omega
    -- Before the first line no block is open.
    have start : Scanner.start (linesText (l :: ls)) =
        .lineStart false (linesText (l :: ls)) 0 0 [] := rfl
    obtain ⟨s, ran, tokens⟩ := Option.map_eq_some_iff.mp
      (Scanner.run_lines others fuel (0 + octets l.1 + 2 + octets l.2 + 1) 1
        (.scalar (String.ofList l.2) .plain :: Scanner.keyTokens false l.1 ++ []))
    rw [more, start, linesText,
      Scanner.run_line first.key first.near first.value (begins_linesText others), ran,
      Option.map_some, tokens]
    simp [linesTokens, Scanner.keyTokens]

/-! ## The mapping of the lines -/

namespace Node

/-- A word without anything written before it. -/
def word (w : List Char) : Node := scalar ⟨none, none⟩ (String.ofList w) .plain

/-- The entries that lines hold. -/
def ofLines (ls : List (List Char × List Char)) : List (Node × Node) :=
  ls.map fun l => (word l.1, word l.2)

variable {handles : Handles} {ts : List Token} {anchors : Table Nat}

/-- A scalar is read where something else would mean that nothing is written. -/
theorem readUnless_word (block indentless : Bool) {stops : List Token}
    (other : ∀ t ∈ stops, ∀ text, t ≠ .scalar text .plain) :
    readUnless handles block indentless stops (fuel + 2)
      ⟨.scalar (String.ofList w) .plain :: ts, anchors⟩ = some (word w, ⟨ts, anchors⟩) := by
  have here : at? (.scalar (String.ofList w) .plain :: ts) stops = false := by
    have absent : Token.scalar (String.ofList w) .plain ∉ stops := fun h => other _ h _ rfl
    simp [at?, absent]
  rw [readUnless, if_neg (ne_true_of_eq_false here), read]
  rfl

theorem readBlockEntries_lines (ls : List (List Char × List Char)) :
    readBlockEntries handles (fuel + ls.length + 2) ⟨linesTokens ls ++ .blockEnd :: ts, anchors⟩ =
      some (ofLines ls, ⟨ts, anchors⟩) := by
  induction ls with
  | nil => rfl
  | cons l ls ih =>
    have stops : ∀ t ∈ [Token.key, .value, .blockEnd], ∀ text, t ≠ .scalar text .plain := by
      simp
    rw [List.length_cons, ← Nat.add_assoc, linesTokens, List.cons_append, readBlockEntries]
    simp only [List.cons_append]
    rw [readUnless_word true true stops]
    simp only [Option.bind_eq_bind, Option.bind_some]
    rw [readUnless_word true true stops]
    simp only [Option.bind_some, ih]
    rfl

/-- Lines in a block mapping are read as it. -/
theorem read_lines (enough : ls.length + 2 ≤ fuel) (indentless : Bool) :
    read handles true indentless (fuel + 1)
      ⟨.blockMapping :: (linesTokens ls ++ .blockEnd :: ts), anchors⟩ =
        some (mapping ⟨none, none⟩ (ofLines ls), ⟨ts, anchors⟩) := by
  obtain ⟨more, rfl⟩ := Nat.exists_eq_add_of_le' enough
  rw [read]
  simp only [properties, splitProperties, Option.bind_eq_bind, Option.bind_some, pure, if_true]
  rw [← Nat.add_assoc, readBlockEntries_lines]
  rfl

/-- **Lines as a document.** It is the mapping of their keys to their values. -/
theorem ofText_lines (some_line : ls ≠ []) (plain : ∀ l ∈ ls, PlainLine l) :
    ofText (String.ofList (linesText ls)) = some (mapping ⟨none, none⟩ (ofLines ls)) := by
  have tokens : (linesTokens ls ++ [Token.blockEnd]).length = 4 * ls.length + 1 := by
    rw [List.length_append, length_linesTokens, List.length_singleton]
  rw [ofText, String.toList_ofList, Token.scan_lines some_line plain]
  change (read Tag.defaultHandles true false (3 * (linesTokens ls ++ [Token.blockEnd]).length + 6)
    ⟨.blockMapping :: (linesTokens ls ++ [.blockEnd]), []⟩).bind _ = _
  rw [read_lines (by omega)]
  rfl

end Node

end Stageflow.Yaml
