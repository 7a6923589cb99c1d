import Stageflow.Operators
import Stageflow.Proofs.Names
import Stageflow.Proofs.Steps

/-!
# Plans

What a joiner plans for the inputs that are connected to it, and how the plan runs:

* `JoinConfig.FirstMissing` is the declared name that a refusal tells;
* `JoinPlan.Arranges`: a plan takes each input once, and only the first one enters as rows;
* `JoinPlan.RunsThrough`: a run makes one call for each step, a seed first and joins after it;
* `JoinPlan.planned_by_inputs`: all of this by the set of the inputs alone.
-/

namespace Stageflow

namespace JoinConfig

/-- The configuration names an input. -/
def Declares (config : JoinConfig) (n : Name) : Prop := n ∈ config.required ∨ n ∈ config.optional

/-- The first declared name that is no input: the first of the required ones or, if they all are
inputs, the least of the optional ones. -/
inductive FirstMissing (config : JoinConfig) (inputs : List Name) (n : Name) : Prop
  | required (before after : List Name) (shape : config.required = before ++ n :: after)
      (lacking : n ∉ inputs) (earlier : ∀ m ∈ before, m ∈ inputs)
  | optional (connected : ∀ m ∈ config.required, m ∈ inputs) (declared : n ∈ config.optional)
      (lacking : n ∉ inputs) (earlier : ∀ m ∈ config.optional, m < n → m ∈ inputs)

variable {config : JoinConfig} {inputs : List Name} {n : Name}

theorem find?_lacking_iff {ns : List Name} :
    ns.find? (· ∉ inputs) = some n ↔
      ∃ before after, ns = before ++ n :: after ∧ n ∉ inputs ∧ ∀ m ∈ before, m ∈ inputs := by
  rw [List.find?_eq_some_iff_append]
  simp only [decide_eq_true_eq, decide_not, Bool.not_eq_true', decide_eq_false_iff_not,
    Bool.not_not]
  constructor
  · rintro ⟨lacking, before, after, shape, earlier⟩
    exact ⟨before, after, shape, lacking, earlier⟩
  · rintro ⟨before, after, shape, lacking, earlier⟩
    exact ⟨lacking, before, after, shape, earlier⟩

/-- In ascending order the first name that is no input is the least one. -/
theorem find?_sorted_iff {ns : List Name} :
    (Names.sorted ns).find? (· ∉ inputs) = some n ↔
      n ∈ ns ∧ n ∉ inputs ∧ ∀ m ∈ ns, m < n → m ∈ inputs := by
  rw [find?_lacking_iff]
  have ascending := Names.sorted_ascending ns
  constructor
  · rintro ⟨before, after, shape, lacking, earlier⟩
    rw [shape, List.pairwise_append, List.pairwise_cons] at ascending
    obtain ⟨-, ⟨above, -⟩, -⟩ := ascending
    refine ⟨Names.mem_sorted.mp (by simp [shape]), lacking, ?_⟩
    intro m declared less
    have listed : m ∈ before ++ n :: after := shape ▸ Names.mem_sorted.mpr declared
    rcases List.mem_append.mp listed with ahead | behind
    · exact earlier m ahead
    · rcases List.mem_cons.mp behind with rfl | behind
      · exact absurd less (String.lt_irrefl m)
      · exact absurd (String.lt_trans less (above m behind)) (String.lt_irrefl m)
  · rintro ⟨declared, lacking, earlier⟩
    obtain ⟨before, after, shape⟩ := List.append_of_mem (Names.mem_sorted.mpr declared)
    refine ⟨before, after, shape, lacking, ?_⟩
    intro m ahead
    rw [shape, List.pairwise_append] at ascending
    obtain ⟨-, -, below⟩ := ascending
    have listed : m ∈ Names.sorted ns := shape ▸ List.mem_append_left _ ahead
    exact earlier m (Names.mem_sorted.mp listed) (below m ahead n List.mem_cons_self)

theorem firstMissing_iff :
    config.FirstMissing inputs n ↔
      (config.required ++ Names.sorted config.optional).find? (· ∉ inputs) = some n := by
  rw [List.find?_append, Option.or_eq_some_iff, find?_lacking_iff, find?_sorted_iff,
    List.find?_eq_none]
  constructor
  · intro missing
    cases missing with
    | required before after shape lacking earlier =>
      exact .inl ⟨before, after, shape, lacking, earlier⟩
    | optional connected declared lacking earlier =>
      exact .inr ⟨by simpa using connected, declared, lacking, earlier⟩
  · rintro (⟨before, after, shape, lacking, earlier⟩ | ⟨connected, declared, lacking, earlier⟩)
    · exact .required before after shape lacking earlier
    · exact .optional (by simpa using connected) declared lacking earlier

/-- Some declared name is the first one missing if any is missing. -/
theorem exists_firstMissing :
    (∃ n, config.FirstMissing inputs n) ↔ ∃ n, config.Declares n ∧ n ∉ inputs := by
  simp only [firstMissing_iff, ← Option.isSome_iff_exists, List.find?_isSome, List.mem_append,
    Names.mem_sorted, decide_eq_true_eq]
  exact Iff.rfl

theorem declared_of_none_missing (none : ∀ m, ¬ config.FirstMissing inputs m) :
    ∀ n, config.Declares n → n ∈ inputs := by
  intro n declared
  by_contra lacking
  obtain ⟨m, first⟩ := exists_firstMissing.mpr ⟨n, declared, lacking⟩
  exact none m first

end JoinConfig

/-- How an input is joined to those before it; the first one is not. -/
def StepKind.joinType? : StepKind → Option JoinType
  | seed => none
  | inner => some .inner
  | leftOuter => some .leftOuter
  | fullOuter => some .fullOuter

namespace JoinPlan

open Operators

/-! ## What is planned -/

/-- How an input enters that is not the first. -/
def laterKind (required : List Name) (n : Name) : StepKind :=
  if n ∈ required then .inner else if required = [] then .fullOuter else .leftOuter

/-- A plan takes each input once: the required ones by their first declarations, then the others in
ascending order. The first input, and no other, enters as rows. -/
structure Arranges (stage : Name) (config : JoinConfig) (inputs : List Name) (plan : JoinPlan) :
    Prop where
  some_step : plan.steps ≠ []
  once : (plan.steps.map (·.input)).Nodup
  all : ∀ n, n ∈ plan.steps.map (·.input) ↔ n ∈ inputs
  declared : ∀ n, config.Declares n → n ∈ inputs
  order : ∃ required others, plan.steps.map (·.input) = required ++ others ∧
    (∀ n, n ∈ required ↔ n ∈ config.required) ∧
    required.Pairwise (fun a b => config.required.idxOf a < config.required.idxOf b) ∧
    (∀ n, n ∈ others ↔ n ∈ inputs ∧ n ∉ config.required) ∧ others.Pairwise (· < ·)
  kinds : ∀ i step, plan.steps[i]? = some step →
    step.kind = if i = 0 then .seed else laterKind config.required step.input
  stage_eq : plan.stage = stage
  partitions_eq : plan.partitions = config.partitions
  fullOuter_iff : plan.fullOuter ↔ config.required = []

theorem map_input_seeded (steps : List JoinStep) :
    (seeded steps).map (·.input) = steps.map (·.input) := by
  cases steps <;> rfl

theorem map_input_stepsFor (required others : List Name) :
    (stepsFor required others).map (·.input) = required ++ others := by
  simp [stepsFor, map_input_seeded, Function.comp_def]

theorem getElem?_seeded (steps : List JoinStep) (i : Nat) :
    (seeded steps)[i]? =
      steps[i]?.map fun s => if i = 0 then { s with kind := .seed } else s := by
  cases steps with
  | nil => rfl
  | cons s ss => cases i <;> simp [seeded]

theorem stepsFor_kind {required others : List Name} (apart : ∀ n ∈ others, n ∉ required) {i : Nat}
    {step : JoinStep} (h : (stepsFor required others)[i]? = some step) :
    step.kind = if i = 0 then .seed else laterKind required step.input := by
  unfold stepsFor at h
  rw [getElem?_seeded, Option.map_eq_some_iff] at h
  obtain ⟨s, listed, rfl⟩ := h
  by_cases first : i = 0
  · simp [first]
  · rw [if_neg first, if_neg first]
    rcases List.mem_append.mp (List.mem_of_getElem? listed) with inner | outer
    · obtain ⟨n, hn, rfl⟩ := List.mem_map.mp inner
      exact (if_pos hn).symm
    · obtain ⟨n, hn, rfl⟩ := List.mem_map.mp outer
      rw [laterKind, if_neg (apart n hn)]
      simp [List.isEmpty_iff]

variable {stage : Name} {config : JoinConfig} {inputs : List Name} {plan : JoinPlan}

/-- The plan for inputs among which every declared name is. -/
def planFor (stage : Name) (config : JoinConfig) (inputs : List Name) : JoinPlan :=
  let required := distinct config.required
  ⟨stage, stepsFor required ((Names.sorted inputs).filter (· ∉ required)), config.partitions,
    required.isEmpty⟩

theorem build_eq (stage : Name) (config : JoinConfig) (inputs : List Name) :
    build stage config inputs =
      match (config.required ++ Names.sorted config.optional).find? (· ∉ inputs) with
      | some n => .error (.joinInputMissing stage n)
      | none =>
        if (planFor stage config inputs).steps.isEmpty then .error (.noJoinInputs stage)
        else .ok (planFor stage config inputs) := by
  have same : (fun n => decide (n ∉ Names.sorted inputs)) = fun n => decide (n ∉ inputs) := by
    funext n
    exact decide_eq_decide.mpr Names.mem_sorted.not
  rw [← same]
  rfl

theorem build_congr {others : List Name} (same : ∀ n, n ∈ others ↔ n ∈ inputs) :
    build stage config others = build stage config inputs := by
  have sorted : Names.sorted others = Names.sorted inputs := Names.sorted_congr same
  unfold build
  rw [sorted]

theorem build_missing_iff {n : Name} :
    build stage config inputs = .error (.joinInputMissing stage n) ↔
      config.FirstMissing inputs n := by
  rw [JoinConfig.firstMissing_iff, build_eq]
  cases (config.required ++ Names.sorted config.optional).find? (· ∉ inputs) with
  | some m => simp
  | none => dsimp only; split <;> simp

/-- With every declared name connected there is a plan, or nothing to plan. -/
theorem build_connected (stage : Name) (connected : ∀ n, config.Declares n → n ∈ inputs) :
    build stage config inputs =
      if (planFor stage config inputs).steps.isEmpty then .error (.noJoinInputs stage)
      else .ok (planFor stage config inputs) := by
  have found : (config.required ++ Names.sorted config.optional).find? (· ∉ inputs) = none := by
    rw [List.find?_eq_none]
    intro n listed
    rw [List.mem_append, Names.mem_sorted] at listed
    simpa using connected n listed
  rw [build_eq, found]

theorem mem_planFor (connected : ∀ n, config.Declares n → n ∈ inputs) (n : Name) :
    n ∈ (planFor stage config inputs).steps.map (·.input) ↔ n ∈ inputs := by
  have declared : n ∈ config.required → n ∈ inputs := fun h => connected n (.inl h)
  rw [planFor, map_input_stepsFor, List.mem_append, List.mem_filter, Names.mem_sorted,
    decide_eq_true_eq, mem_distinct]
  by_cases required : n ∈ config.required <;> simp [required, declared]

theorem planFor_steps_eq_nil (connected : ∀ n, config.Declares n → n ∈ inputs) :
    (planFor stage config inputs).steps = [] ↔ inputs = [] := by
  rw [← List.map_eq_nil_iff (f := (·.input)), List.eq_nil_iff_forall_not_mem,
    List.eq_nil_iff_forall_not_mem]
  simp only [mem_planFor connected]

theorem planFor_arranges (connected : ∀ n, config.Declares n → n ∈ inputs)
    (some_input : inputs ≠ []) : Arranges stage config inputs (planFor stage config inputs) := by
  have inputs_eq : (planFor stage config inputs).steps.map (·.input) =
      distinct config.required ++
        (Names.sorted inputs).filter (· ∉ distinct config.required) :=
    map_input_stepsFor _ _
  have later (n : Name) (hn : n ∈ (Names.sorted inputs).filter (· ∉ distinct config.required)) :
      n ∉ distinct config.required := by
    simpa using (List.mem_filter.mp hn).2
  constructor
  case some_step => exact (planFor_steps_eq_nil connected).not.mpr some_input
  case once =>
    rw [inputs_eq, List.nodup_append]
    refine ⟨distinct_nodup _, (Names.sorted_nodup inputs).filter _, ?_⟩
    rintro n required _ other rfl
    exact later n other required
  case all => exact mem_planFor connected
  case declared => exact connected
  case order =>
    refine ⟨_, _, inputs_eq, fun n => mem_distinct, distinct_ordered _, ?_, ?_⟩
    · intro n
      rw [List.mem_filter, Names.mem_sorted, decide_eq_true_eq, mem_distinct]
    · exact (Names.sorted_ascending inputs).filter _
  case kinds =>
    intro i step listed
    rw [stepsFor_kind later listed]
    simp only [laterKind, mem_distinct, distinct_eq_nil]
  case stage_eq => rfl
  case partitions_eq => rfl
  case fullOuter_iff =>
    rw [← distinct_eq_nil]
    exact List.isEmpty_iff

/-- A plan, or nothing to plan, tells that every declared name is connected. -/
theorem declared_of_build (unmissed : ∀ n, build stage config inputs ≠
      .error (.joinInputMissing stage n)) : ∀ n, config.Declares n → n ∈ inputs :=
  JoinConfig.declared_of_none_missing fun n first => unmissed n (build_missing_iff.mpr first)

theorem build_arranges (planned : build stage config inputs = .ok plan) :
    Arranges stage config inputs plan := by
  have unmissed (n : Name) : build stage config inputs ≠ .error (.joinInputMissing stage n) := by
    simp [planned]
  have connected := declared_of_build unmissed
  rw [build_connected stage connected] at planned
  split at planned
  · cases planned
  · next some_step =>
    obtain rfl := Except.ok.inj planned
    refine planFor_arranges connected ?_
    intro none
    exact some_step (List.isEmpty_iff.mpr ((planFor_steps_eq_nil connected).mpr none))

theorem build_empty_iff :
    build stage config inputs = .error (.noJoinInputs stage) ↔
      (∀ n, ¬ config.Declares n) ∧ inputs = [] := by
  constructor
  · intro refused
    have unmissed (n : Name) : build stage config inputs ≠ .error (.joinInputMissing stage n) := by
      simp [refused]
    have connected := declared_of_build unmissed
    rw [build_connected stage connected] at refused
    split at refused
    · next no_step =>
      obtain rfl := (planFor_steps_eq_nil connected).mp (List.isEmpty_iff.mp no_step)
      exact ⟨fun n declared => List.not_mem_nil (connected n declared), rfl⟩
    · cases refused
  · rintro ⟨undeclared, rfl⟩
    have connected (n : Name) (declared : config.Declares n) : n ∈ ([] : List Name) :=
      absurd declared (undeclared n)
    rw [build_connected stage connected, if_pos]
    exact List.isEmpty_iff.mpr ((planFor_steps_eq_nil connected).mpr rfl)

/-- With some input, a plan fails for nothing but a declared name that is not connected. -/
theorem build_error {e : FlowError} (some_input : inputs ≠ [])
    (refused : build stage config inputs = .error e) : ∃ n, e = .joinInputMissing stage n := by
  have made := build_eq stage config inputs
  rw [refused] at made
  split at made
  · next n _ => exact ⟨n, Except.error.inj made⟩
  · split at made
    · obtain rfl := Except.error.inj made
      exact absurd (build_empty_iff.mp refused).2 some_input
    · cases made

theorem exists_build (none : ∀ n, ¬ config.FirstMissing inputs n)
    (some_name : ¬ ((∀ n, ¬ config.Declares n) ∧ inputs = [])) :
    ∃ plan, build stage config inputs = .ok plan := by
  have made := build_connected stage (JoinConfig.declared_of_none_missing none)
  split at made
  · exact absurd (build_empty_iff.mp made) some_name
  · exact ⟨_, made⟩

/-! ## How a plan runs -/

/-- The call of a step after the first: it joins the records of its input to the rows so far. -/
def Joins (plan : JoinPlan) (keyed : Table Keyed) (step : JoinStep) (call : Call) : Prop :=
  ∃ left right type, keyed.get? step.input = some right ∧ step.kind.joinType? = some type ∧
    call = .join left right.extent type plan.partitions

/-- A run of the plan ends with rows. It makes one call for each step: the first input enters as
rows, and every other one is joined to the rows so far. -/
def RunsThrough (plan : JoinPlan) (ops : Operators) (keyed : Table Keyed) : Prop :=
  ∃ first rest seeded joins joined, plan.steps = first :: rest ∧
    keyed.get? first.input = some seeded ∧ List.Forall₂ (plan.Joins keyed) rest joins ∧
    callsOf (ops.executeJoin plan keyed).events = .seedJoin seeded.extent :: joins ∧
    (ops.executeJoin plan keyed).result = .ok joined

section

variable (ops : Operators) (plan : JoinPlan) {keyed : Table Keyed}

theorem joinStep_joins (previous : List Name) (rows : Joined) {step : JoinStep} {d : Keyed}
    (found : keyed.get? step.input = some d) (later : step.kind ≠ .seed) :
    ∃ call next, plan.Joins keyed step call ∧
      (ops.joinStep plan previous (some rows) step d : Journaled FlowError _) =
        ⟨[.called call], .ok next⟩ := by
  obtain ⟨input, kind⟩ := step
  cases kind with
  | seed => exact absurd rfl later
  | inner => exact ⟨_, _, ⟨_, d, .inner, found, rfl, rfl⟩, rfl⟩
  | leftOuter => exact ⟨_, _, ⟨_, d, .leftOuter, found, rfl, rfl⟩, rfl⟩
  | fullOuter => exact ⟨_, _, ⟨_, d, .fullOuter, found, rfl, rfl⟩, rfl⟩

theorem executeSteps_joins {steps : List JoinStep} (previous : List Name) (rows : Joined)
    (found : ∀ step ∈ steps, ∃ d, keyed.get? step.input = some d)
    (later : ∀ step ∈ steps, step.kind ≠ .seed) :
    ∃ out, (ops.executeSteps plan keyed steps previous (some rows)).result = .ok out ∧
      List.Forall₂ (plan.Joins keyed) steps
        (callsOf (ops.executeSteps plan keyed steps previous (some rows)).events) := by
  induction steps generalizing previous rows with
  | nil => exact ⟨rows, rfl, .nil⟩
  | cons step steps ih =>
    obtain ⟨d, hd⟩ := found step List.mem_cons_self
    obtain ⟨call, next, joins, stepped⟩ :=
      joinStep_joins ops plan previous rows hd (later step List.mem_cons_self)
    obtain ⟨out, ran, rest⟩ := ih (previous ++ [step.input]) next
      (fun s hs => found s (List.mem_cons_of_mem _ hs))
      (fun s hs => later s (List.mem_cons_of_mem _ hs))
    have run : ops.executeSteps plan keyed (step :: steps) previous (some rows) =
        ⟨.called call :: (ops.executeSteps plan keyed steps (previous ++ [step.input])
          (some next)).events, .ok out⟩ := by
      rw [executeSteps, hd]
      dsimp only
      rw [stepped, Journaled.bind_of_ok _ rfl, ran]
      rfl
    rw [run]
    exact ⟨out, rfl, .cons joins rest⟩

end

/-- Over a table of its inputs a plan runs through. -/
theorem Arranges.runsThrough {keyed : Table Keyed}
    (arranged : Arranges stage config inputs plan) (ops : Operators)
    (same : ∀ n, n ∈ keyed.keys ↔ n ∈ inputs) : plan.RunsThrough ops keyed := by
  obtain ⟨first, rest, shape⟩ := List.exists_cons_of_ne_nil arranged.some_step
  have found (step : JoinStep) (hs : step ∈ plan.steps) : ∃ d, keyed.get? step.input = some d := by
    apply Table.get?_eq_some_of_mem_keys
    exact (same _).mpr ((arranged.all _).mp (List.mem_map_of_mem hs))
  have later (step : JoinStep) (hs : step ∈ rest) : step.kind ≠ .seed := by
    obtain ⟨i, listed⟩ := List.mem_iff_getElem?.mp hs
    have kind := arranged.kinds (i + 1) step (by rw [shape, List.getElem?_cons_succ, listed])
    rw [if_neg (Nat.succ_ne_zero i), laterKind] at kind
    grind
  rw [shape] at found
  obtain ⟨seeded, entered⟩ := found first List.mem_cons_self
  obtain ⟨joined, ran, joins⟩ := executeSteps_joins ops plan [first.input]
    (Rows.seedAll first.input seeded) (fun s hs => found s (List.mem_cons_of_mem _ hs)) later
  have run : ops.executeJoin plan keyed =
      ⟨.called (.seedJoin seeded.extent) :: (ops.executeSteps plan keyed rest [first.input]
        (some (Rows.seedAll first.input seeded))).events, .ok joined⟩ := by
    rw [executeJoin, shape, executeSteps, entered, ← ran]
    rfl
  refine ⟨first, rest, seeded, _, joined, shape, entered, joins, ?_, ?_⟩
  · rw [run]
    rfl
  · rw [run]

/--
**A plan is told by the set of its inputs.** It is refused for the first declared name that is no
input, and for nothing else but that there is nothing to join. Otherwise it takes each input once,
the required ones as they are declared and the others in ascending order; only the first one enters
as rows. Over a table of these inputs it runs to its end: no input is missing, and no later step
starts the rows anew.
-/
theorem planned_by_inputs (stage : Name) (config : JoinConfig) (inputs : List Name) :
    (∀ others : List Name, (∀ n, n ∈ others ↔ n ∈ inputs) →
      build stage config others = build stage config inputs) ∧
    (∀ n, build stage config inputs = .error (.joinInputMissing stage n) ↔
      config.FirstMissing inputs n) ∧
    ((∃ n, config.FirstMissing inputs n) ↔ ∃ n, config.Declares n ∧ n ∉ inputs) ∧
    (build stage config inputs = .error (.noJoinInputs stage) ↔
      (∀ n, ¬ config.Declares n) ∧ inputs = []) ∧
    ((∀ n, ¬ config.FirstMissing inputs n) → ¬ ((∀ n, ¬ config.Declares n) ∧ inputs = []) →
      ∃ plan, build stage config inputs = .ok plan) ∧
    ∀ plan, build stage config inputs = .ok plan →
      Arranges stage config inputs plan ∧
        ∀ (ops : Operators) (keyed : Table Keyed), (∀ n, n ∈ keyed.keys ↔ n ∈ inputs) →
          plan.RunsThrough ops keyed := by
  refine ⟨fun others same => build_congr same, fun n => build_missing_iff,
    JoinConfig.exists_firstMissing, build_empty_iff, exists_build, ?_⟩
  intro plan planned
  have arranged := build_arranges planned
  exact ⟨arranged, fun ops keyed same => arranged.runsThrough ops same⟩

/-- One input is required twice and optional too, and one is connected twice. -/
theorem planned_by_inputs_overlapping :
    let config : JoinConfig := ⟨["b", "a", "b"], ["b", "c"], some 2⟩
    let plan : JoinPlan :=
      ⟨"j", [⟨"b", .seed⟩, ⟨"a", .inner⟩, ⟨"c", .leftOuter⟩, ⟨"d", .leftOuter⟩], some 2, false⟩
    build "j" config ["d", "c", "b", "a", "c"] = .ok plan ∧
      Arranges "j" config ["d", "c", "b", "a", "c"] plan ∧
      build "j" config ["a", "b"] = .error (.joinInputMissing "j" "c") := by
  intro config plan
  have planned : build "j" config ["d", "c", "b", "a", "c"] = .ok plan := by decide +kernel
  obtain ⟨-, -, -, -, -, plans⟩ := planned_by_inputs "j" config ["d", "c", "b", "a", "c"]
  obtain ⟨-, missing, -⟩ := planned_by_inputs "j" config ["a", "b"]
  have first : config.FirstMissing ["a", "b"] "c" := by
    apply JoinConfig.FirstMissing.optional <;> decide +kernel
  exact ⟨planned, (plans plan planned).1, (missing "c").mpr first⟩

end JoinPlan

end Stageflow
