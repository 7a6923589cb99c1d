import Mathlib.Data.List.TakeWhile
import Stageflow.Proofs.Numerals
import Stageflow.Settings

/-!
# Overridden settings

Two variables may override settings. What a variable says is told here by its text alone: without
the blanks around it, one holds digits, the other one of six words.

* `Text.trim_eq_iff`: trimming takes away all blanks at both ends, and nothing else;
* `readWorkers_ok_iff`: digits are read as the number that they denote, if 64 bits hold it;
* `override_answers`: what is overridden, and which of several faults is reported.
-/

namespace Stageflow

namespace Text

/-- A text stands between blanks in another one, and has none at its ends. -/
structure Trims (cs core : List Char) : Prop where
  split : ∃ before after, cs = before ++ (core ++ after) ∧
    (∀ c ∈ before, isBlank c) ∧ ∀ c ∈ after, isBlank c
  first : ∀ c ∈ core.head?, isBlank c = false
  last : ∀ c ∈ core.getLast?, isBlank c = false

variable {cs core rest : List Char}

theorem dropWhile_blanks {before : List Char} (blanks : ∀ c ∈ before, isBlank c)
    (first : ∀ c ∈ rest.head?, isBlank c = false) :
    (before ++ rest).dropWhile isBlank = rest := by
  rw [List.dropWhile_append_of_pos blanks]
  cases rest with
  | nil => rfl
  | cons c cs => rw [List.dropWhile_cons_of_neg (by simp [first c rfl])]

theorem Trims.trim_eq (h : Trims cs core) : trim cs = core := by
  obtain ⟨⟨before, after, rfl, leading, trailing⟩, first, last⟩ := h
  cases core with
  | nil =>
    have blanks : ∀ c ∈ before ++ after, isBlank c := by
      intro c hc
      exact (List.mem_append.mp hc).elim (leading c) (trailing c)
    rw [trim, List.nil_append, ← List.append_nil (before ++ after),
      dropWhile_blanks blanks (by simp)]
    rfl
  | cons c core =>
    have start : ∀ d ∈ (c :: core ++ after).head?, isBlank d = false := first
    have finish : ∀ d ∈ (c :: core).reverse.head?, isBlank d = false := by
      rwa [List.head?_reverse]
    rw [trim, dropWhile_blanks leading start, List.reverse_append,
      dropWhile_blanks (by simpa using trailing) finish, List.reverse_reverse]

theorem trims_trim (cs : List Char) : Trims cs (trim cs) := by
  have ends (xs : List Char) : ∀ c ∈ (xs.dropWhile isBlank).head?, isBlank c = false := by
    intro c hc
    have := List.head?_dropWhile_not isBlank xs
    rw [Option.mem_def.mp hc] at this
    simpa using this
  have blanks (xs : List Char) : ∀ c ∈ xs.takeWhile isBlank, isBlank c :=
    fun c hc => List.mem_takeWhile_imp hc
  obtain ⟨after, trailing, whole⟩ : ∃ after, (∀ c ∈ after, isBlank c) ∧
      cs.dropWhile isBlank = trim cs ++ after := by
    refine ⟨((cs.dropWhile isBlank).reverse.takeWhile isBlank).reverse, ?_, ?_⟩
    · intro c hc
      exact blanks _ c (List.mem_reverse.mp hc)
    · rw [trim, ← List.reverse_append, List.takeWhile_append_dropWhile, List.reverse_reverse]
  constructor
  case split =>
    exact ⟨_, after, by rw [← whole, List.takeWhile_append_dropWhile], blanks cs, trailing⟩
  case first =>
    intro c hc
    apply ends cs c
    rw [whole]
    exact List.mem_head?_append_of_mem_head? hc
  case last =>
    rw [trim, List.getLast?_reverse]
    exact ends _

/-- **Trimming.** All blanks at both ends go, and nothing else. -/
theorem trim_eq_iff : trim cs = core ↔ Trims cs core :=
  ⟨fun same => same ▸ trims_trim cs, Trims.trim_eq⟩

end Text

namespace Settings

open Text (Trims trim trims_trim trim_eq_iff)

variable {cs : List Char} {n m : Nat} {s s' : Settings} {workers plan : Option String}
  {value : String} {b : Bool} {e : FlowError}

/-! ## What a variable says -/

/-- A text of digits, with or without a plus sign, denotes a number. -/
def Denotes (cs : List Char) (n : Nat) : Prop :=
  ∃ ds, (cs = ds ∨ cs = '+' :: ds) ∧ ds ≠ [] ∧ (∀ d ∈ ds, d.isDigit) ∧
    Nat.ofDigitChars 10 ds 0 = n

/-- A variable says how many workers there may be, in 64 bits. -/
def SaysWorkers (value : String) (n : Nat) : Prop :=
  ∃ core, Trims value.toList core ∧ Denotes core n ∧ n < UInt64.size

/-- A variable says whether the plan is logged. -/
def SaysPlan (value : String) (b : Bool) : Prop :=
  ∃ core, Trims value.toList core ∧
    (b = true ∧ String.ofList core ∈ ["1", "true", "yes"] ∨
      b = false ∧ String.ofList core ∈ ["0", "false", "no"])

theorem readDigits_ok_iff (fits : n < UInt64.size) :
    readDigits n cs = .ok m ↔
      (∀ d ∈ cs, d.isDigit) ∧ Nat.ofDigitChars 10 cs n = m ∧ m < UInt64.size := by
  induction cs generalizing n with
  | nil =>
    rw [readDigits, Except.ok.injEq, Nat.ofDigitChars_nil]
    constructor
    · rintro rfl
      exact ⟨nofun, rfl, fits⟩
    · exact fun h => h.2.1
  | cons c cs ih =>
    have digit : (c < '0' ∨ '9' < c) ↔ ¬ c.isDigit := by
      rw [← Document.isDigit_eq, Document.isDigit, Bool.and_eq_true, decide_eq_true_iff,
        decide_eq_true_iff, not_and_or, Char.not_le, Char.not_le]
    rw [readDigits, Nat.ofDigitChars_cons, Nat.mul_comm 10 n]
    dsimp only
    by_cases good : c.isDigit
    · rw [if_neg (digit.not.mpr (not_not.mpr good))]
      split
      · next small =>
        rw [ih small, List.forall_mem_cons]
        simp [good]
      · next large =>
        refine iff_of_false nofun ?_
        rintro ⟨-, rfl, small⟩
        exact large (Nat.lt_of_le_of_lt (le_ofDigitChars cs _) small)
    · rw [if_pos (digit.mpr good)]
      refine iff_of_false nofun ?_
      rintro ⟨digits, -⟩
      exact good (digits c List.mem_cons_self)

theorem denotes_iff (some_text : cs ≠ []) (unsigned : ∀ ds, cs ≠ '+' :: ds) :
    Denotes cs n ↔ (∀ d ∈ cs, d.isDigit) ∧ Nat.ofDigitChars 10 cs 0 = n := by
  constructor
  · rintro ⟨ds, rfl | rfl, -, digits, value⟩
    · exact ⟨digits, value⟩
    · exact absurd rfl (unsigned ds)
  · rintro ⟨digits, value⟩
    exact ⟨cs, .inl rfl, some_text, digits, value⟩

theorem denotes_plus_iff (some_text : cs ≠ []) :
    Denotes ('+' :: cs) n ↔ (∀ d ∈ cs, d.isDigit) ∧ Nat.ofDigitChars 10 cs 0 = n := by
  constructor
  · rintro ⟨ds, rfl | same, -, digits, value⟩
    · exact absurd (digits '+' List.mem_cons_self) (by decide)
    · obtain rfl := (List.cons.inj same).2
      exact ⟨digits, value⟩
  · rintro ⟨digits, value⟩
    exact ⟨cs, .inr rfl, some_text, digits, value⟩

theorem readWorkers_ok_iff : readWorkers cs = .ok n ↔ Denotes cs n ∧ n < UInt64.size := by
  unfold readWorkers
  split
  · refine iff_of_false nofun ?_
    rintro ⟨⟨ds, rfl | same, some_digit, -⟩, -⟩
    · exact some_digit rfl
    · cases same
  · refine iff_of_false nofun ?_
    rintro ⟨⟨ds, rfl | same, some_digit, digits, -⟩, -⟩
    · exact absurd (digits '+' List.mem_cons_self) (by decide)
    · exact some_digit (List.cons.inj same).2.symm
  · next cs alone =>
    rw [readDigits_ok_iff (by decide), denotes_plus_iff (by simpa using alone), and_assoc]
  · next some_text _ unsigned =>
    rw [readDigits_ok_iff (by decide), denotes_iff some_text unsigned, and_assoc]

theorem saysWorkers_iff : SaysWorkers value n ↔ readWorkers (trim value.toList) = .ok n := by
  rw [readWorkers_ok_iff]
  constructor
  · rintro ⟨core, trims, number⟩
    rwa [trims.trim_eq]
  · exact fun number => ⟨_, trims_trim _, number⟩

theorem readFlag?_eq_some_iff {text : String} :
    readFlag? text = some b ↔
      b = true ∧ text ∈ ["1", "true", "yes"] ∨ b = false ∧ text ∈ ["0", "false", "no"] := by
  unfold readFlag?
  split
  · next yes =>
    have other : text ∉ ["0", "false", "no"] := by
      intro no
      simp only [List.mem_cons, List.not_mem_nil, or_false] at yes no
      rcases yes with rfl | rfl | rfl <;> simp at no
    simp [yes, other, eq_comm]
  · next yes =>
    split
    · next no => simp [yes, no, eq_comm]
    · next no => simp [yes, no]

theorem saysPlan_iff :
    SaysPlan value b ↔ readFlag? (String.ofList (trim value.toList)) = some b := by
  rw [readFlag?_eq_some_iff]
  constructor
  · rintro ⟨core, trims, spelled⟩
    rwa [trims.trim_eq]
  · exact fun spelled => ⟨_, trims_trim _, spelled⟩

/-! ## Replacing settings -/

/-- What settings become if both variables are read: one that is absent leaves its setting. -/
structure Overridden (s : Settings) (workers plan : Option String) (s' : Settings) : Prop where
  version : s'.version = s.version
  workers_left : workers = none → s'.maxSinkWorkers = s.maxSinkWorkers
  workers_set : ∀ v, workers = some v →
    ∃ n, SaysWorkers v n ∧ s'.maxSinkWorkers = some (UInt64.ofNat n)
  plan_left : plan = none → s'.logExecutionPlan = s.logExecutionPlan
  plan_set : ∀ v, plan = some v → SaysPlan v s'.logExecutionPlan

theorem overrideWorkers_said (said : SaysWorkers value n) :
    s.overrideWorkers (some value) = .ok { s with maxSinkWorkers := some (UInt64.ofNat n) } := by
  rw [overrideWorkers, saysWorkers_iff.mp said]

theorem overrideWorkers_unsaid (s : Settings) (unsaid : ∀ n, ¬ SaysWorkers value n) :
    ∃ why, s.overrideWorkers (some value) = .error (.config (.badWorkers value why)) := by
  cases read : readWorkers (trim value.toList) with
  | ok n => exact absurd (saysWorkers_iff.mpr read) (unsaid n)
  | error why => exact ⟨why, by rw [overrideWorkers, read]⟩

theorem overridePlan_said (said : SaysPlan value b) :
    s.overridePlan (some value) = .ok { s with logExecutionPlan := b } := by
  rw [overridePlan, saysPlan_iff.mp said]

theorem overridePlan_unsaid (s : Settings) (unsaid : ∀ b, ¬ SaysPlan value b) :
    s.overridePlan (some value) =
      .error (.config (.badFlag (String.ofList (trim value.toList)))) := by
  cases read : readFlag? (String.ofList (trim value.toList)) with
  | none => rw [overridePlan, read]
  | some b => exact absurd (saysPlan_iff.mpr read) (unsaid b)

/-- What the first variable leaves is overridden by the second one and validated last. -/
theorem override_of_workers {t : Settings} (first : s.overrideWorkers workers = .ok t) :
    s.override workers plan = t.overridePlan plan >>= validated := by
  rw [override, first]
  rfl

/-- Settings that are replaced are validated. -/
theorem override_of_overridden (h : Overridden s workers plan s') :
    s.override workers plan = s'.validated := by
  have first : s.overrideWorkers workers = .ok { s with maxSinkWorkers := s'.maxSinkWorkers } := by
    cases workers with
    | none => rw [h.workers_left rfl, overrideWorkers]
    | some v =>
      obtain ⟨n, said, same⟩ := h.workers_set v rfl
      rw [overrideWorkers_said said, same]
  have second : overridePlan { s with maxSinkWorkers := s'.maxSinkWorkers } plan = .ok s' := by
    have whole : { s with maxSinkWorkers := s'.maxSinkWorkers,
                          logExecutionPlan := s'.logExecutionPlan } = s' := by
      rw [← h.version]
    cases plan with
    | none =>
      rw [h.plan_left rfl] at whole
      rw [overridePlan]
      exact congrArg Except.ok whole
    | some v =>
      rw [overridePlan_said (h.plan_set v rfl)]
      exact congrArg Except.ok whole
  rw [override_of_workers first, second]
  rfl

/-- Each variable that is given has to be read. -/
theorem exists_overridden_iff :
    (∃ s', Overridden s workers plan s') ↔
      (∀ v, workers = some v → ∃ n, SaysWorkers v n) ∧
        ∀ v, plan = some v → ∃ b, SaysPlan v b := by
  constructor
  · rintro ⟨s', h⟩
    refine ⟨fun v given => ?_, fun v given => ⟨_, h.plan_set v given⟩⟩
    obtain ⟨n, said, -⟩ := h.workers_set v given
    exact ⟨n, said⟩
  · rintro ⟨said_workers, said_plan⟩
    obtain ⟨w, workers_left, workers_set⟩ : ∃ w, (workers = none → w = s.maxSinkWorkers) ∧
        ∀ v, workers = some v → ∃ n, SaysWorkers v n ∧ w = some (UInt64.ofNat n) := by
      cases workers with
      | none => exact ⟨_, fun _ => rfl, nofun⟩
      | some v =>
        obtain ⟨n, said⟩ := said_workers v rfl
        refine ⟨some (UInt64.ofNat n), nofun, fun v' given => ⟨n, ?_, rfl⟩⟩
        exact Option.some.inj given ▸ said
    obtain ⟨b, plan_left, plan_set⟩ : ∃ b, (plan = none → b = s.logExecutionPlan) ∧
        ∀ v, plan = some v → SaysPlan v b := by
      cases plan with
      | none => exact ⟨_, fun _ => rfl, nofun⟩
      | some v =>
        obtain ⟨b, said⟩ := said_plan v rfl
        exact ⟨b, nofun, fun v' given => Option.some.inj given ▸ said⟩
    exact ⟨⟨s.version, w, b⟩, rfl, workers_left, workers_set, plan_left, plan_set⟩

/-! ## Validation -/

theorem validate_ok_iff : s.validate = .ok () ↔ s.version = 1 ∧ s.maxSinkWorkers ≠ some 0 := by
  have known : s.version.toNat = settingsVersion ↔ s.version = 1 := UInt32.toNat_inj (b := 1)
  unfold validate
  split
  · next other => exact iff_of_false nofun fun h => other (known.mpr h.1)
  · next same =>
    have version := known.mp (not_not.mp same)
    split
    · next none => exact iff_of_false nofun fun h => h.2 none
    · next some_workers => exact iff_of_true rfl ⟨version, some_workers⟩

theorem validate_error (failed : s.validate = .error e) : ∃ why, e = .config why := by
  unfold validate at failed
  split at failed
  · exact ⟨_, (Except.error.inj failed).symm⟩
  · split at failed
    · exact ⟨_, (Except.error.inj failed).symm⟩
    · cases failed

theorem validated_ok_iff : s.validated = .ok s' ↔ s = s' ∧ s.validate = .ok () := by
  cases validated : s.validate with
  | ok _ => simp [Settings.validated, validated, bind, Except.bind, pure, Except.pure]
  | error e => simp [Settings.validated, validated, bind, Except.bind]

theorem validated_error_iff : s.validated = .error e ↔ s.validate = .error e := by
  cases validated : s.validate with
  | ok _ => simp [Settings.validated, validated, bind, Except.bind, pure, Except.pure]
  | error e => simp [Settings.validated, validated, bind, Except.bind]

/-! ## Answers -/

/-- Why settings are not replaced, and with which error: of several reasons the first counts. -/
inductive Refused (s : Settings) (workers plan : Option String) : FlowError → Prop
  | workers {v : String} {why : NumeralError} (given : workers = some v)
      (unsaid : ∀ n, ¬ SaysWorkers v n) : Refused s workers plan (.config (.badWorkers v why))
  | plan {v : String} {core : List Char} (said : ∀ w, workers = some w → ∃ n, SaysWorkers w n)
      (given : plan = some v) (trims : Trims v.toList core) (unsaid : ∀ b, ¬ SaysPlan v b) :
      Refused s workers plan (.config (.badFlag (String.ofList core)))
  | invalid {s' : Settings} {why : ConfigError} (overridden : Overridden s workers plan s')
      (failed : s'.validate = .error (.config why)) : Refused s workers plan (.config why)

/-- A variable that is not read ends the override with an error of its own. -/
theorem override_unsaid (unsaid : ¬ ∃ s', Overridden s workers plan s') :
    ∃ e, s.override workers plan = .error e ∧ Refused s workers plan e := by
  by_cases said : ∀ v, workers = some v → ∃ n, SaysWorkers v n
  · have plan_unsaid : ¬ ∀ v, plan = some v → ∃ b, SaysPlan v b :=
      fun said_plan => unsaid (exists_overridden_iff.mpr ⟨said, said_plan⟩)
    push Not at plan_unsaid
    obtain ⟨v, rfl, no_flag⟩ := plan_unsaid
    obtain ⟨t, first⟩ : ∃ t, s.overrideWorkers workers = .ok t := by
      cases workers with
      | none => exact ⟨s, rfl⟩
      | some w =>
        obtain ⟨n, said⟩ := said w rfl
        exact ⟨_, overrideWorkers_said said⟩
    refine ⟨_, ?_, .plan said rfl (trims_trim v.toList) no_flag⟩
    rw [override_of_workers first, overridePlan_unsaid t no_flag]
    rfl
  · push Not at said
    obtain ⟨v, rfl, no_number⟩ := said
    obtain ⟨why, failed⟩ := overrideWorkers_unsaid s no_number
    refine ⟨.config (.badWorkers v why), ?_, .workers rfl no_number⟩
    rw [override, failed]
    rfl

/-- **Overrides.** Settings are replaced if each variable that is given is read and the result is
valid; the result holds what the variables say and is otherwise the same. All errors are those of a
configuration: the number of workers is reported first, then the plan, then what is not valid. -/
theorem override_answers (s : Settings) (workers plan : Option String) :
    (∀ s', s.override workers plan = .ok s' ↔
      Overridden s workers plan s' ∧ s'.version = 1 ∧ s'.maxSinkWorkers ≠ some 0) ∧
    ((∃ s', Overridden s workers plan s') ↔
      (∀ v, workers = some v → ∃ n, SaysWorkers v n) ∧
        ∀ v, plan = some v → ∃ b, SaysPlan v b) ∧
    (∀ s', s.override workers plan = .ok s' → s'.validate = .ok ()) ∧
    ∀ e, s.override workers plan = .error e → Refused s workers plan e := by
  by_cases said : ∃ s', Overridden s workers plan s'
  · obtain ⟨t, overridden⟩ := id said
    have answer := override_of_overridden overridden
    refine ⟨fun s' => ⟨fun taken => ?_, fun h => ?_⟩, exists_overridden_iff, fun s' taken => ?_,
      fun e failed => ?_⟩
    · obtain ⟨rfl, valid⟩ := validated_ok_iff.mp (answer.symm.trans taken)
      exact ⟨overridden, validate_ok_iff.mp valid⟩
    · rw [override_of_overridden h.1, validated_ok_iff]
      exact ⟨rfl, validate_ok_iff.mpr h.2⟩
    · obtain ⟨rfl, valid⟩ := validated_ok_iff.mp (answer.symm.trans taken)
      exact valid
    · have invalid := validated_error_iff.mp (answer.symm.trans failed)
      obtain ⟨why, rfl⟩ := validate_error invalid
      exact .invalid overridden invalid
  · obtain ⟨e, answer, refused⟩ := override_unsaid said
    refine ⟨fun s' => ⟨fun taken => ?_, fun h => absurd ⟨s', h.1⟩ said⟩, exists_overridden_iff,
      fun s' taken => ?_, fun e' failed => ?_⟩
    · cases answer.symm.trans taken
    · cases answer.symm.trans taken
    · obtain rfl := Except.error.inj (answer.symm.trans failed)
      exact refused

/-- Settings without a worker, with which the engine cannot run. -/
def idle : Settings := ⟨1, some 0, true⟩

/-- A variable repairs settings that were not valid; the blanks around it and the zeros in front of
the number do not count. -/
theorem override_answers_repaired :
    idle.validate ≠ .ok () ∧
      idle.override (some "\u3000+0012 ") (some "no") = .ok ⟨1, some 12, false⟩ := by
  have workers : SaysWorkers "\u3000+0012 " 12 := by
    have number : Denotes ['+', '0', '0', '1', '2'] 12 :=
      ⟨['0', '0', '1', '2'], .inr rfl, by decide, List.all_eq_true.mp (by decide), by decide⟩
    exact ⟨_, trim_eq_iff.mp (by decide), number, by decide⟩
  have plan : SaysPlan "no" false :=
    ⟨['n', 'o'], trim_eq_iff.mp (by decide), .inr ⟨rfl, by decide⟩⟩
  have overridden : Overridden idle (some "\u3000+0012 ") (some "no") ⟨1, some 12, false⟩ := by
    refine ⟨rfl, nofun, fun v given => ?_, nofun, fun v given => ?_⟩
    · exact Option.some.inj given ▸ ⟨12, workers, rfl⟩
    · exact Option.some.inj given ▸ plan
  obtain ⟨success, -⟩ := override_answers idle (some "\u3000+0012 ") (some "no")
  exact ⟨by decide, (success _).mpr ⟨overridden, rfl, by decide⟩⟩

end Settings

end Stageflow
