import Mathlib.Data.List.Basic
import Stageflow.Json.Document

/-!
# Whole numbers in JSON text

A whole number of 64 bits is written in decimal without zeros in front. It is read back exactly,
provided that neither a digit nor a point nor an exponent follows.
-/

namespace Stageflow

/-! ## Digits -/

theorem le_ofDigitChars (ds : List Char) (m : Nat) : m ≤ Nat.ofDigitChars 10 ds m := by
  rw [Nat.ofDigitChars_eq_ofDigitChars_zero]
  have scaled : 1 * m ≤ 10 ^ ds.length * m := Nat.mul_le_mul_right m (Nat.pow_pos (by decide))
  omega

/-- A positive number has no zero in front. -/
theorem toDigits_ne_zero_cons {n : Nat} (positive : 0 < n) (ds : List Char) :
    Nat.toDigits 10 n ≠ '0' :: ds := by
  induction n using Nat.base_induction 10 (by decide) generalizing ds with
  | single m small =>
    rw [Nat.toDigits_of_lt_base small]
    intro same
    have zero : m = 0 := Nat.digitChar_eq_zero.mp (List.cons.inj same).1
    omega
  | digit m k small more ih =>
    -- The digits before the last one are those of `m`, which is positive.
    rw [← Nat.toDigits_append_toDigits (by decide) more small]
    intro same
    cases lead : Nat.toDigits 10 m with
    | nil => exact Nat.toDigits_ne_nil lead
    | cons c cs =>
      rw [lead, List.cons_append] at same
      rw [(List.cons.inj same).1] at lead
      exact ih more cs lead

namespace Numeral

/-- A whole number that 64 bits hold, with a sign or without. -/
def Fits (n : Int) : Prop := -0x8000000000000000 ≤ n ∧ n < UInt64.size

theorem absorb_eq (ds : List Char) (m : Nat) (fits : Nat.ofDigitChars 10 ds m < UInt64.size) :
    absorb m ds = (Nat.ofDigitChars 10 ds m, []) := by
  induction ds generalizing m with
  | nil => rfl
  | cons c cs ih =>
    rw [Nat.ofDigitChars_cons, Nat.mul_comm] at fits ⊢
    have first := Nat.lt_of_le_of_lt (le_ofDigitChars cs _) fits
    rw [absorb, if_pos first, ih _ fits]

/-- A whole number as it is written. -/
def ofInt (n : Int) : Numeral := ⟨decide (n < 0), Nat.toDigits 10 n.natAbs, [], none⟩

theorem value?_ofInt {n : Int} (h : Fits n) : (ofInt n).value? = some (.int n) := by
  obtain ⟨low, high⟩ := h
  have large : UInt64.size = 0x10000000000000000 := rfl
  have absorbed : absorb 0 (ofInt n).whole = (n.natAbs, []) := by
    rw [ofInt, absorb_eq _ _ (by rw [Nat.ofDigitChars_ten_toDigits]; omega),
      Nat.ofDigitChars_ten_toDigits]
  have whole : (ofInt n).isWhole = true := rfl
  rw [value?, absorbed]
  dsimp only
  rw [if_pos ⟨whole, rfl⟩]
  by_cases below : n < 0
  · have sign : (ofInt n).negative = true := decide_eq_true below
    rw [if_pos sign, if_neg (by omega), if_pos (by omega)]
    congr 2
    omega
  · have sign : (ofInt n).negative = false := decide_eq_false below
    rw [if_neg (by rw [sign]; decide)]
    congr 2
    omega

end Numeral

namespace Document

/-- A text that a number before it does not run into. -/
def EndsNumeral (cs : List Char) : Prop :=
  ∀ c ∈ cs.head?, isDigit c = false ∧ c ≠ '.' ∧ c ≠ 'e' ∧ c ≠ 'E'

theorem endsNumeral_nil : EndsNumeral [] := nofun

theorem endsNumeral_cons {c : Char} (cs : List Char)
    (h : isDigit c = false ∧ c ≠ '.' ∧ c ≠ 'e' ∧ c ≠ 'E') : EndsNumeral (c :: cs) := by
  intro d hd
  obtain rfl := Option.some.inj hd
  exact h

theorem isDigit_eq (c : Char) : isDigit c = c.isDigit := rfl

theorem spanDigits_append {ds rest : List Char} (digits : ∀ d ∈ ds, isDigit d)
    (ends : EndsNumeral rest) : spanDigits (ds ++ rest) = (ds, rest) := by
  rw [spanDigits, List.takeWhile_append_of_pos digits, List.dropWhile_append_of_pos digits]
  cases rest with
  | nil => simp
  | cons c cs =>
    have stop : isDigit c = false := (ends c rfl).1
    rw [List.takeWhile_cons_of_neg (by simp [stop]), List.dropWhile_cons_of_neg (by simp [stop]),
      List.append_nil]

theorem isDigit_of_mem_toDigits {n : Nat} {d : Char} (h : d ∈ Nat.toDigits 10 n) : isDigit d :=
  isDigit_eq d ▸ Nat.isDigit_of_mem_toDigits (by decide) (by decide) h

theorem readWhole_toDigits (n : Nat) {rest : List Char} (ends : EndsNumeral rest) :
    readWhole (Nat.toDigits 10 n ++ rest) = some (Nat.toDigits 10 n, rest) := by
  rw [readWhole, spanDigits_append (fun _ => isDigit_of_mem_toDigits) ends]
  split
  · next none_left => exact absurd (Prod.mk.inj none_left).1 Nat.toDigits_ne_nil
  · next d ds _ leads =>
    have digits := (Prod.mk.inj leads).1
    rcases Nat.eq_zero_or_pos n with rfl | positive
    · simp at digits
    · exact absurd digits (toDigits_ne_zero_cons positive _)
  · rfl

theorem readFraction_of_ends {rest : List Char} (ends : EndsNumeral rest) :
    readFraction rest = some ([], rest) := by
  unfold readFraction
  split
  · exact absurd rfl (ends '.' rfl).2.1
  · rfl

theorem readExponent_of_ends {rest : List Char} (ends : EndsNumeral rest) :
    readExponent rest = some (none, rest) := by
  cases rest with
  | nil => rfl
  | cons c cs =>
    obtain ⟨-, -, lower, upper⟩ := ends c rfl
    unfold readExponent
    exact if_neg (not_or.mpr ⟨lower, upper⟩)

/-- The digits of a whole number are read back after its sign, with what follows them. -/
theorem readNumeral_toDigits {n : Int} (h : Numeral.Fits n) {rest : List Char}
    (ends : EndsNumeral rest) :
    readNumeral (decide (n < 0)) (Nat.toDigits 10 n.natAbs ++ rest) =
      (number (some (.int n)), some rest) := by
  have value := Numeral.value?_ofInt h
  rw [Numeral.ofInt] at value
  rw [readNumeral, readWhole_toDigits n.natAbs ends]
  simp [readFraction_of_ends ends, readExponent_of_ends ends, value]

/-! ## Numbers among other values -/

/-- What a number begins with. -/
def LeadsNumeral (c : Char) : Prop := c = '-' ∨ isDigit c

theorem LeadsNumeral.ne {c d : Char} (h : LeadsNumeral c) (sign : d ≠ '-')
    (digit : isDigit d = false) : c ≠ d := by
  rintro rfl
  rcases h with h | h
  · exact sign h
  · rw [digit] at h
    cases h

theorem LeadsNumeral.isBlank {c : Char} (h : LeadsNumeral c) : isBlank c = false := by
  simp [Document.isBlank, h.ne (d := ' ') (by decide) rfl, h.ne (d := '\n') (by decide) rfl,
    h.ne (d := '\t') (by decide) rfl, h.ne (d := '\r') (by decide) rfl]

theorem decimal_cons (n : Int) : ∃ c cs, Json.decimal n = c :: cs ∧ LeadsNumeral c := by
  unfold Json.decimal
  split
  · exact ⟨_, _, rfl, .inl rfl⟩
  · cases digits : Nat.toDigits 10 n.natAbs with
    | nil => exact absurd digits Nat.toDigits_ne_nil
    | cons c cs => exact ⟨c, cs, rfl, .inr (isDigit_of_mem_toDigits (digits ▸ List.mem_cons_self))⟩

theorem readAtom_digit {c : Char} (digit : isDigit c) (cs : List Char) :
    readAtom (c :: cs) = readNumeral false (c :: cs) := by
  rw [readAtom, if_pos digit]
  -- No other value begins with a digit.
  all_goals
    intros
    subst_vars
    exact absurd digit (by decide)

/-- A whole number is read back, with what follows it. -/
theorem readAtom_decimal {n : Int} (h : Numeral.Fits n) {rest : List Char}
    (ends : EndsNumeral rest) :
    readAtom (Json.decimal n ++ rest) = (number (some (.int n)), some rest) := by
  have read := readNumeral_toDigits h ends
  by_cases below : n < 0
  · rw [decide_eq_true below] at read
    rw [Json.decimal, if_pos below, List.cons_append]
    exact read
  · rw [decide_eq_false below] at read
    rw [Json.decimal, if_neg below]
    cases digits : Nat.toDigits 10 n.natAbs with
    | nil => exact absurd digits Nat.toDigits_ne_nil
    | cons c cs =>
      have digit : isDigit c := isDigit_of_mem_toDigits (digits ▸ List.mem_cons_self)
      rw [List.cons_append, readAtom_digit digit, ← List.cons_append, ← digits, read]

end Document

end Stageflow
