import Stageflow.Proofs.Numerals
import Stageflow.Proofs.PlainLines
import Stageflow.Settings.Formats

/-!
# Settings written and read

What settings are written as is read back as they are, whether the engine can run with them or not;
only what is read is validated.

* `Yaml.Reading.natural?_toDigits`: the digits of a number denote it;
* `Yaml.Reading.readEntries_line`: a line is read by the field that its key names;
* `Settings.ofYamlText_toYaml`: settings come back as they were, or with the fault that they have.
-/

namespace Stageflow

namespace Yaml

open Node (word ofLines)

variable {ds k v w : List Char} {n : Nat}

/-! ## Digits -/

theorem isDigit_of_mem_toDigits {d : Char} (h : d ∈ Nat.toDigits 10 n) : isDigit d :=
  Document.isDigit_of_mem_toDigits h

theorem word_toDigits (n : Nat) : Word (Nat.toDigits 10 n) :=
  ⟨Nat.toDigits_ne_nil, fun d hd => by simp [isPlain, isDigit_of_mem_toDigits hd]⟩

theorem head?_toDigits (n : Nat) : (Nat.toDigits 10 n).head?.any isDigit := by
  cases digits : Nat.toDigits 10 n with
  | nil => exact absurd digits Nat.toDigits_ne_nil
  | cons c cs => exact isDigit_of_mem_toDigits (digits ▸ List.mem_cons_self)

theorem word_flag (b : Bool) : Word (if b then "true".toList else "false".toList) := by
  cases b <;> exact ⟨by decide, List.all_eq_true.mp (by decide)⟩

namespace Reading

variable {α : Type} {anchored : List (Nat × Node)}

theorem foldlM_digits (digits : ∀ d ∈ ds, isDigit d) (m : Nat) :
    ds.foldlM (fun n c => (hexValue? c).bind fun d =>
      if d < 10 then some (n * 10 + d) else none) m = some (Nat.ofDigitChars 10 ds m) := by
  induction ds generalizing m with
  | nil => rfl
  | cons c cs ih =>
    obtain ⟨first, others⟩ := List.forall_mem_cons.mp digits
    have value : hexValue? c = some (c.toNat - '0'.toNat) := if_pos first
    have small : c.toNat - '0'.toNat < 10 := by
      have range : c ≤ '9' := decide_eq_true_iff.mp (Bool.and_eq_true_iff.mp first).2
      rw [Char.le_def, UInt32.le_iff_toNat_le] at range
      change c.toNat ≤ 57 at range
      change c.toNat - 48 < 10
      omega
    rw [List.foldlM_cons, value, Option.bind_some, if_pos small, Nat.ofDigitChars_cons,
      Nat.mul_comm]
    exact ih others _

theorem digitsIn?_toDigits (n : Nat) : digitsIn? 10 (Nat.toDigits 10 n) = some n := by
  rw [digitsIn?, if_neg (by simp), foldlM_digits (fun _ => isDigit_of_mem_toDigits),
    Nat.ofDigitChars_ten_toDigits]

/-- A number is read from its digits: they begin with no sign, and with a zero only if there is
nothing else. -/
theorem natural?_toDigits (n : Nat) : natural? (Nat.toDigits 10 n) = some n := by
  have read := digitsIn?_toDigits n
  rcases Nat.eq_zero_or_pos n with rfl | positive
  · rfl
  · have no_zero := toDigits_ne_zero_cons positive
    cases digits : Nat.toDigits 10 n with
    | nil => exact absurd digits Nat.toDigits_ne_nil
    | cons c cs =>
      have digit : isDigit c := by
        have first := head?_toDigits n
        rwa [digits] at first
      have sign : c ≠ '+' := by
        rintro rfl
        exact absurd digit (by decide)
      have zero : c ≠ '0' := by
        rintro rfl
        exact no_zero cs digits
      rw [digits] at read
      simp [natural?, sign, zero, read]

/-! ## Words -/

/-- A reader takes a word for a value, whatever aliases may stand for. -/
def Takes (item : Reading α) (w : List Char) (a : α) : Prop :=
  ∀ anchored, item anchored (word w) = pure a

theorem leaf_takes {f : Node → Option α} {a : α} (read : f (word w) = some a) :
    Takes (leaf f) w a := by
  intro anchored
  change (liftM (f (word w)) : StateT Nat Option α) = _
  rw [read]
  rfl

theorem string_takes (w : List Char) : Takes string w (String.ofList w) := leaf_takes rfl

theorem natural_takes {size : Nat} (fits : n < size) :
    Takes (natural size) (Nat.toDigits 10 n) n := by
  apply leaf_takes
  have plain : isLiteral ⟨none, none⟩ .plain "int" = true := rfl
  change (if isLiteral ⟨none, none⟩ .plain "int" then _ else _) = _
  rw [if_pos plain, String.toList_ofList, natural?_toDigits, Option.bind_some, if_pos fits]

theorem bool_takes (b : Bool) : Takes bool (if b then "true".toList else "false".toList) b := by
  apply leaf_takes
  cases b <;> rfl

theorem isWritten?_toDigits (n : Nat) : isWritten? (word (Nat.toDigits 10 n)) = some true := by
  -- None of the words for no value begins with a digit.
  have said : isNull (String.ofList (Nat.toDigits 10 n)) = false := by
    refine decide_eq_false fun null => ?_
    have others : ∀ text ∈ ["null", "Null", "NULL", "~"],
        text.toList.head?.any isDigit = false := by
      decide
    have other := others _ null
    rw [String.toList_ofList, head?_toDigits] at other
    cases other
  simp [isWritten?, word, said]

theorem option_takes {item : Reading α} {a : α} (written : isWritten? (word w) = some true)
    (takes : Takes item w a) : Takes (option item) w (some a) := by
  intro anchored
  have here : target anchored (word w) = pure (word w) := rfl
  rw [option, here, pure_bind, written, takes anchored]
  rfl

/-! ## Lines -/

variable {σ : Type} {fs : List (Field σ)} {seen : List Name} {es : List (Node × Node)}

/-- A line is read by the field that its key names, if no line before it had that key. -/
theorem readEntries_line {label : Name} {item : Reading α} {put : α → σ → σ} {a : α}
    (found : fs.find? (·.label = String.ofList k) = some (.of label item put))
    (new : String.ofList k ∉ seen) (takes : Takes item v a) (closed : Bool) (s : σ) :
    readEntries fs closed anchored ((word k, word v) :: es) seen s =
      readEntries fs closed anchored es (String.ofList k :: seen) (put a s) := by
  rw [readEntries, string_takes, pure_bind, found]
  simp only [new, if_false, Field.of, takes anchored, pure_bind]

theorem fields_mapping (closed : Bool) (start : σ) (finish : σ → Option α) (before : Properties) :
    fields fs closed start finish anchored (.mapping before es) = (do
      finish (← readEntries fs closed anchored es [] start)) := rfl

end Reading

end Yaml

namespace Settings

open Yaml Yaml.Reading
open Yaml.Node (ofLines)

/-- The lines of settings. -/
def lines (s : Settings) : List (List Char × List Char) :=
  (versionName.toList, Nat.toDigits 10 s.version.toNat) ::
    ((match s.maxSinkWorkers with
      | some n => [(workersName.toList, Nat.toDigits 10 n.toNat)]
      | none => []) ++
    [(planName.toList, if s.logExecutionPlan then "true".toList else "false".toList)])

theorem toYaml_eq (s : Settings) : s.toYaml = String.ofList (linesText s.lines) := by
  rw [toYaml, lines]
  cases s.maxSinkWorkers <;>
    simp only [line, linesText, List.append_assoc, List.cons_append, List.nil_append,
      List.append_nil]

theorem plain_lines (s : Settings) : ∀ l ∈ s.lines, PlainLine l := by
  have named {k v : List Char} (name : k ≠ [] ∧ k.all isPlain ∧ Yaml.octets k ≤ 1024)
      (value : Word v) : PlainLine (k, v) :=
    ⟨⟨name.1, List.all_eq_true.mp name.2.1⟩, name.2.2, value⟩
  have version := named (k := versionName.toList) (by decide) (word_toDigits s.version.toNat)
  have plan := named (k := planName.toList) (by decide) (word_flag s.logExecutionPlan)
  rw [lines, List.forall_mem_cons]
  refine ⟨version, ?_⟩
  cases s.maxSinkWorkers with
  | none => exact List.forall_mem_singleton.mpr plan
  | some n =>
    have workers := named (k := workersName.toList) (by decide) (word_toDigits n.toNat)
    exact List.forall_mem_cons.mpr ⟨workers, List.forall_mem_singleton.mpr plan⟩

theorem reading_lines (s : Settings) (anchored : List (Nat × Node)) :
    reading anchored (.mapping ⟨none, none⟩ (ofLines s.lines)) = pure s := by
  obtain ⟨version, workers, plan⟩ := s
  have version_takes := natural_takes version.toNat_lt
  have plan_takes := bool_takes plan
  cases workers with
  | none =>
    simp only [reading, fields_mapping, lines, ofLines, List.map_cons, List.map_nil,
      List.nil_append]
    rw [readEntries_line (by rfl) List.not_mem_nil version_takes,
      readEntries_line (by rfl) (by decide) plan_takes,
      readEntries, pure_bind, UInt32.ofNat_toNat]
    rfl
  | some n =>
    have workers_takes := option_takes (isWritten?_toDigits n.toNat) (natural_takes n.toNat_lt)
    simp only [reading, fields_mapping, lines, ofLines, List.map_cons, List.map_nil,
      List.cons_append, List.nil_append]
    rw [readEntries_line (by rfl) List.not_mem_nil version_takes,
      readEntries_line (by rfl) (by decide) workers_takes,
      readEntries_line (by rfl) (by decide) plan_takes,
      readEntries, pure_bind, UInt32.ofNat_toNat, Option.map_some, UInt64.ofNat_toNat]
    rfl

theorem parse_toYaml (s : Settings) : parse reading s.toYaml = some s := by
  have some_line : s.lines ≠ [] := List.cons_ne_nil _ _
  rw [parse, toYaml_eq, Node.ofText_lines some_line s.plain_lines]
  change (reading _ (.mapping ⟨none, none⟩ (ofLines s.lines))).run' _ = _
  rw [reading_lines]
  rfl

/-- **Settings come back.** The text of settings is read as them if the engine can run with them,
and is otherwise refused for what is wrong with them. -/
theorem ofYamlText_toYaml (s : Settings) :
    ofYamlText s.toYaml = match s.validate with
      | .ok () => .ok s
      | .error e => .error e := by
  rw [ofYamlText, parse_toYaml]
  change s.validated = _
  rw [validated]
  cases s.validate <;> rfl

end Settings

end Stageflow
