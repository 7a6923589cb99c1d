import Mathlib.Tactic.SplitIfs
import Stageflow.Proofs.Numerals

/-!
# JSON text read back

The compact text of a value is read back as the document of the value, as long as all numbers are
whole and fit 64 bits. So the text tells the value:

* `Document.read_text`: the text holds the document, and nothing after it;
* `Document.eq_of_text`: two values of one text are one value.
-/

namespace Stageflow

open Json

namespace Document

/-! ## Strings -/

theorem hexValue?_hexDigit {d : Nat} (small : d < 16) : hexValue? (hexDigit d) = some d := by
  decide +revert

theorem hexFour?_control {n : Nat} (small : n < 32) :
    hexFour? '0' '0' (hexDigit (n / 16)) (hexDigit (n % 16)) = some n := by
  have zero : hexValue? '0' = some 0 := rfl
  rw [hexFour?, zero, hexValue?_hexDigit (by omega), hexValue?_hexDigit (by omega)]
  exact congrArg some (by omega)

/-- A character is escaped by one letter or by its code point, or not at all. -/
theorem escape_cases (c : Char) :
    (∃ e, escape c = ['\\', e] ∧ e ≠ 'u' ∧ escaped? e = some c.toNat) ∨
    (escape c = ['\\', 'u', '0', '0', hexDigit (c.toNat / 16), hexDigit (c.toNat % 16)] ∧
      c.toNat < 32) ∨
    (escape c = [c] ∧ c ≠ '"' ∧ c ≠ '\\' ∧ 32 ≤ c.toNat) := by
  unfold escape
  split_ifs with quote backslash _ _ _ _ _ control
  any_goals
    subst_vars
    exact .inl ⟨_, rfl, by decide, rfl⟩
  · exact .inr (.inl ⟨rfl, control⟩)
  · exact .inr (.inr ⟨rfl, quote, backslash, Nat.not_lt.mp control⟩)

/-- Whatever is escaped is read back as the character that it stands for. -/
theorem readUnits_escape (c : Char) (cs : List Char) :
    readUnits (escape c ++ cs) = (readUnits cs).map fun r => (c.toNat :: r.1, r.2) := by
  rcases escape_cases c with
    ⟨e, escaped, other, letter⟩ | ⟨escaped, control⟩ | ⟨escaped, quote, backslash, large⟩
  · rw [escaped, List.cons_append, List.cons_append, List.nil_append, readUnits]
    · rw [letter]
      cases readUnits cs <;> rfl
    · simp [other]
  · simp only [escaped, List.cons_append, List.nil_append, readUnits, hexFour?_control control]
    cases readUnits cs <;> rfl
  · rw [escaped, List.cons_append, List.nil_append, readUnits]
    · rw [if_neg (not_or.mpr ⟨Nat.not_lt.mpr large, backslash⟩)]
      cases readUnits cs <;> rfl
    all_goals simp [quote, backslash]

theorem readUnits_flatMap_escape (cs rest : List Char) :
    readUnits (cs.flatMap escape ++ '"' :: rest) = some (cs.map Char.toNat, rest) := by
  induction cs with
  | nil => simp [readUnits]
  | cons c cs ih =>
    rw [List.flatMap_cons, List.append_assoc, readUnits_escape, ih]
    rfl

theorem joinUnits_map_toNat (cs : List Char) : joinUnits (cs.map Char.toNat) = some cs := by
  induction cs with
  | nil => rfl
  | cons c cs ih =>
    have valid : c.toNat < 0xD800 ∨ 0xDFFF < c.toNat ∧ c.toNat < 0x110000 := c.valid
    rw [List.map_cons]
    unfold joinUnits
    rw [if_neg (by omega), if_neg (by omega), ih, Option.map_some, Char.ofNat_toNat]

/-- A string in quotes is read back, with what follows it. -/
theorem readAtom_quoted (s : String) (rest : List Char) :
    readAtom (quoted s ++ rest) = (string (some s), some rest) := by
  rw [quoted, List.cons_append, List.append_assoc, List.cons_append, List.nil_append, readAtom,
    readString, readUnits_flatMap_escape]
  simp [joinUnits_map_toNat]

end Document

namespace Json

/-- Every number is a whole one that 64 bits hold. -/
inductive Exact : Json → Prop
  | null : Exact null
  | bool (b : Bool) : Exact (bool b)
  | int {n : Int} (h : Numeral.Fits n) : Exact (number (.int n))
  | string (s : String) : Exact (string s)
  | array {items : List Json} (h : ∀ v ∈ items, Exact v) : Exact (array items)
  | object {members : List (Name × Json)} (h : ∀ p ∈ members, Exact p.2) : Exact (object members)

end Json

namespace Document

/-! ## Values -/

variable {v : Json}

/-- The text of a value is read back, up to what follows it. -/
def ReadBack (v : Json) : Prop :=
  ∀ fuel rest, v.write.length ≤ fuel → EndsNumeral rest →
    readValue fuel (v.write ++ rest) = (ofValue v, some rest)

theorem skipBlanks_cons {c : Char} (cs : List Char) (h : isBlank c = false) :
    skipBlanks (c :: cs) = c :: cs := by
  rw [skipBlanks, List.dropWhile_cons_of_neg (by simp [h])]

/-- A value without parts is read back if its text is. -/
theorem readBack_of_readAtom {c : Char} {cs : List Char} (lead : v.write = c :: cs)
    (blank : isBlank c = false) (bracket : c ≠ '[') (brace : c ≠ '\x7b')
    (atom : ∀ rest, EndsNumeral rest → readAtom (c :: (cs ++ rest)) = (ofValue v, some rest)) :
    ReadBack v := by
  intro fuel rest enough ends
  rw [lead] at enough ⊢
  cases fuel with
  | zero => cases enough
  | succ fuel =>
    rw [List.cons_append, readValue, skipBlanks_cons _ blank]
    split
    · next h => exact absurd (List.cons.inj h).1 bracket
    · next h => exact absurd (List.cons.inj h).1 brace
    · exact atom rest ends

theorem readBack_null : ReadBack .null :=
  readBack_of_readAtom rfl rfl (by decide) (by decide) fun _ _ => rfl

theorem readBack_bool (b : Bool) : ReadBack (.bool b) := by
  cases b with
  | false => exact readBack_of_readAtom rfl rfl (by decide) (by decide) fun _ _ => rfl
  | true => exact readBack_of_readAtom rfl rfl (by decide) (by decide) fun _ _ => rfl

theorem readBack_string (s : String) : ReadBack (.string s) :=
  readBack_of_readAtom rfl rfl (by decide) (by decide) fun rest _ => readAtom_quoted s rest

theorem readBack_int {n : Int} (h : Numeral.Fits n) : ReadBack (.int n) := by
  obtain ⟨c, cs, lead, numeral⟩ := decimal_cons n
  apply readBack_of_readAtom (v := .int n) lead numeral.isBlank (numeral.ne (by decide) rfl)
    (numeral.ne (by decide) rfl)
  intro rest ends
  rw [← List.cons_append, ← lead, readAtom_decimal h ends]
  rfl

/-- The text of a value begins neither with a blank nor with the end of an array. -/
theorem write_cons (h : v.Exact) :
    ∃ c cs, v.write = c :: cs ∧ isBlank c = false ∧ c ≠ ']' := by
  cases h with
  | null => exact ⟨_, _, rfl, rfl, by decide⟩
  | bool b => cases b <;> exact ⟨_, _, rfl, rfl, by decide⟩
  | @int n h =>
    obtain ⟨c, cs, lead, numeral⟩ := decimal_cons n
    exact ⟨c, cs, lead, numeral.isBlank, numeral.ne (by decide) rfl⟩
  | string s => exact ⟨_, _, rfl, rfl, by decide⟩
  | @array items h => cases items <;> exact ⟨_, _, rfl, rfl, by decide⟩
  | @object members h => cases members <;> exact ⟨_, _, rfl, rfl, by decide⟩

/-! ### Items and members -/

variable {d : Document} {k : String} {c : Char} {cs more rest : List Char} {fuel : Nat}

theorem readItems_last (read : readValue fuel cs = (d, some (']' :: rest))) :
    readItems (fuel + 1) cs = ([d], some rest) := by
  rw [readItems, read]
  simp [skipBlanks_cons, isBlank]

theorem readItems_next {ds : List Document} (read : readValue fuel cs = (d, some (',' :: more)))
    (later : readItems fuel more = (ds, some rest)) :
    readItems (fuel + 1) cs = (d :: ds, some rest) := by
  rw [readItems, read]
  simp [skipBlanks_cons, isBlank, later]

theorem readMembers_last (key : readValue fuel cs = (string (some k), some (':' :: more)))
    (read : readValue fuel more = (d, some ('\x7d' :: rest))) :
    readMembers (fuel + 1) cs = ([(string (some k), d)], some rest) := by
  rw [readMembers, key]
  simp [skipBlanks_cons, isBlank, read]

theorem readMembers_next {ds : List (Document × Document)} {next : List Char}
    (key : readValue fuel cs = (string (some k), some (':' :: more)))
    (read : readValue fuel more = (d, some (',' :: next)))
    (later : readMembers fuel next = (ds, some rest)) :
    readMembers (fuel + 1) cs = ((string (some k), d) :: ds, some rest) := by
  rw [readMembers, key]
  simp [skipBlanks_cons, isBlank, read, later]

theorem readValue_items {ds : List Document} (blank : isBlank c = false) (bracket : c ≠ ']')
    (read : readItems fuel (c :: cs) = (ds, some rest)) :
    readValue (fuel + 1) ('[' :: c :: cs) = (array ds, some rest) := by
  rw [readValue, skipBlanks_cons _ rfl]
  simp [skipBlanks_cons _ blank, bracket, read]

theorem readValue_members {ds : List (Document × Document)} (blank : isBlank c = false)
    (brace : c ≠ '\x7d') (read : readMembers fuel (c :: cs) = (ds, some rest)) :
    readValue (fuel + 1) ('\x7b' :: c :: cs) = (object ds, some rest) := by
  rw [readValue, skipBlanks_cons _ rfl]
  simp [skipBlanks_cons _ blank, brace, read]

/-- Items are read back if each of them is. -/
theorem readItems_write {vs : List Json} (h : ∀ u ∈ v :: vs, ReadBack u) (fuel : Nat)
    (rest : List Char) (enough : (v.write ++ writeItems vs).length ≤ fuel) :
    readItems fuel (v.write ++ writeItems vs ++ rest) = (ofItems (v :: vs), some rest) := by
  induction vs generalizing v fuel with
  | nil =>
    rw [writeItems, List.length_append, List.length_singleton] at enough
    obtain ⟨fuel, rfl⟩ : ∃ n, fuel = n + 1 := ⟨fuel - 1, by omega⟩
    rw [List.append_assoc]
    exact readItems_last (h v List.mem_cons_self fuel _ (by omega) (endsNumeral_cons _ (by decide)))
  | cons u us ih =>
    rw [writeItems, List.length_append, List.length_cons] at enough
    obtain ⟨fuel, rfl⟩ : ∃ n, fuel = n + 1 := ⟨fuel - 1, by omega⟩
    have later := ih (fun w hw => h w (List.mem_cons_of_mem v hw)) fuel (by omega)
    rw [List.append_assoc]
    exact readItems_next
      (h v List.mem_cons_self fuel _ (by omega) (endsNumeral_cons _ (by decide))) later

/-- Members are read back if the value of each of them is. -/
theorem readMembers_write {ms : List (Name × Json)} (first : ReadBack v)
    (others : ∀ p ∈ ms, ReadBack p.2) (fuel : Nat) (rest : List Char)
    (enough : (quoted k ++ ':' :: (v.write ++ writeMembers ms)).length ≤ fuel) :
    readMembers fuel (quoted k ++ ':' :: (v.write ++ writeMembers ms) ++ rest) =
      (ofMembers ((k, v) :: ms), some rest) := by
  induction ms generalizing k v fuel with
  | nil =>
    rw [writeMembers, List.length_append, List.length_cons, List.length_append] at enough
    obtain ⟨fuel, rfl⟩ : ∃ n, fuel = n + 1 := ⟨fuel - 1, by omega⟩
    rw [List.append_assoc, List.cons_append, List.append_assoc]
    exact readMembers_last
      (readBack_string k fuel _ (by rw [write]; omega) (endsNumeral_cons _ (by decide)))
      (first fuel _ (by omega) (endsNumeral_cons _ (by decide)))
  | cons p ms ih =>
    rw [writeMembers, List.length_append, List.length_cons, List.length_append,
      List.length_cons] at enough
    obtain ⟨fuel, rfl⟩ : ∃ n, fuel = n + 1 := ⟨fuel - 1, by omega⟩
    obtain ⟨second, others⟩ := List.forall_mem_cons.mp others
    have later := ih (k := p.1) second others fuel (by omega)
    rw [List.append_assoc, List.cons_append, List.append_assoc]
    exact readMembers_next
      (readBack_string k fuel _ (by rw [write]; omega) (endsNumeral_cons _ (by decide)))
      (first fuel _ (by omega) (endsNumeral_cons _ (by decide))) later

theorem readBack_array {items : List Json} (exacts : ∀ v ∈ items, v.Exact)
    (h : ∀ v ∈ items, ReadBack v) : ReadBack (.array items) := by
  intro fuel rest enough _
  cases items with
  | nil =>
    obtain ⟨fuel, rfl⟩ : ∃ n, fuel = n + 1 := ⟨fuel - 1, by simp [write] at enough; omega⟩
    simp [write, readValue, skipBlanks_cons, isBlank, ofValue, ofItems]
  | cons v vs =>
    rw [write, List.length_cons] at enough
    obtain ⟨fuel, rfl⟩ : ∃ n, fuel = n + 1 := ⟨fuel - 1, by omega⟩
    have read := readItems_write h fuel rest (by omega)
    obtain ⟨c, cs, lead, blank, bracket⟩ := write_cons (exacts v List.mem_cons_self)
    rw [lead, List.cons_append, List.cons_append] at read
    rw [write, lead, List.cons_append, List.cons_append, List.cons_append]
    exact readValue_items blank bracket read

theorem readBack_object {members : List (Name × Json)} (h : ∀ p ∈ members, ReadBack p.2) :
    ReadBack (.object members) := by
  intro fuel rest enough _
  cases members with
  | nil =>
    obtain ⟨fuel, rfl⟩ : ∃ n, fuel = n + 1 := ⟨fuel - 1, by simp [write] at enough; omega⟩
    simp [write, readValue, skipBlanks_cons, isBlank, ofValue, ofMembers]
  | cons p ms =>
    obtain ⟨k, v⟩ := p
    rw [write, List.length_cons] at enough
    obtain ⟨fuel, rfl⟩ : ∃ n, fuel = n + 1 := ⟨fuel - 1, by omega⟩
    obtain ⟨first, others⟩ : ReadBack v ∧ ∀ p ∈ ms, ReadBack p.2 := List.forall_mem_cons.mp h
    rw [write, List.cons_append]
    exact readValue_members rfl (by decide) (readMembers_write first others fuel rest (by omega))

/-- The text of a value is read back, and its length is fuel enough. -/
theorem readBack (h : v.Exact) : ReadBack v := by
  induction h with
  | null => exact readBack_null
  | bool b => exact readBack_bool b
  | int h => exact readBack_int h
  | string s => exact readBack_string s
  | array h ih => exact readBack_array h ih
  | object _ ih => exact readBack_object ih

theorem read_text (h : v.Exact) : read v.text = (ofValue v, true) := by
  have back := readBack h (2 * v.write.length + 2) [] (by omega) endsNumeral_nil
  rw [List.append_nil] at back
  rw [read, text, String.toList_ofList, back]
  rfl

/-! ## What the text of a value tells -/

theorem eq_of_ofItems {as bs : List Json} (h : ∀ a ∈ as, ∀ b, ofValue a = ofValue b → a = b)
    (same : ofItems as = ofItems bs) : as = bs := by
  induction as generalizing bs with
  | nil =>
    cases bs with
    | nil => rfl
    | cons b bs => cases same
  | cons a as ih =>
    cases bs with
    | nil => cases same
    | cons b bs =>
      rw [ofItems, ofItems] at same
      obtain ⟨first, later⟩ := List.cons.inj same
      rw [h a List.mem_cons_self b first, ih (fun u hu => h u (List.mem_cons_of_mem a hu)) later]

theorem eq_of_ofMembers {as bs : List (Name × Json)}
    (h : ∀ p ∈ as, ∀ b, ofValue p.2 = ofValue b → p.2 = b)
    (same : ofMembers as = ofMembers bs) : as = bs := by
  induction as generalizing bs with
  | nil =>
    cases bs with
    | nil => rfl
    | cons q bs => cases same
  | cons p as ih =>
    cases bs with
    | nil => cases same
    | cons q bs =>
      rw [ofMembers, ofMembers] at same
      obtain ⟨first, later⟩ := List.cons.inj same
      obtain ⟨name, value⟩ := Prod.mk.inj first
      have names : p.1 = q.1 := Option.some.inj (string.inj name)
      have values : p.2 = q.2 := h p List.mem_cons_self q.2 value
      rw [Prod.ext names values, ih (fun u hu => h u (List.mem_cons_of_mem p hu)) later]

/-- A value is told by its document. -/
theorem eq_of_ofValue {b : Json} (h : v.Exact) (same : ofValue v = ofValue b) : v = b := by
  induction h generalizing b with
  | null =>
    cases b with
    | null => rfl
    | _ => cases same
  | bool c =>
    cases b with
    | bool b => rw [bool.inj same]
    | _ => cases same
  | int h =>
    cases b with
    | number n => rw [Option.some.inj (number.inj same)]
    | _ => cases same
  | string s =>
    cases b with
    | string s' => rw [Option.some.inj (string.inj same)]
    | _ => cases same
  | array h ih =>
    cases b with
    | array items => rw [eq_of_ofItems (fun u hu b => ih u hu) (array.inj same)]
    | _ => cases same
  | object h ih =>
    cases b with
    | object members => rw [eq_of_ofMembers (fun p hp b => ih p hp) (object.inj same)]
    | _ => cases same

/-- **Values of one text are one value.** -/
theorem eq_of_text {a b : Json} (ha : a.Exact) (hb : b.Exact) (same : a.text = b.text) : a = b := by
  have read := read_text ha
  rw [same, read_text hb] at read
  exact (eq_of_ofValue hb (Prod.mk.inj read).1).symm

end Document

end Stageflow
