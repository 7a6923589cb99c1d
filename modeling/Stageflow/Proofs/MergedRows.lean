import Mathlib.Data.Multiset.Sections
import Stageflow.Proofs.JoinedRows

/-!
# Merged rows

What becomes of the rows of a join when each of them is merged into one record:

* `Rows.keeps_merge`: a record has one member for each element of its row, and no others;
* `Rows.product_bags`: the order of the inputs changes nothing but the order of the rows and that
  of their elements, neither of which shows in a bag of records;
* `Operators.joinInputs_perm`: so a join comes to the same records in whatever order the required
  inputs are declared.
-/

namespace Stageflow

open Journaled

namespace Rows

/-- A record keeps a row of some inputs: it is an object with a member for each input and no
others, and a member holds the record of the input, or `null` if the input is absent. -/
structure Keeps (inputs : List Name) (record : Json) (row : JoinRow) : Prop where
  once : (row.map (·.stage)).Nodup
  all : ∀ n, n ∈ row.map (·.stage) ↔ n ∈ inputs
  object : ∃ members : Table Json, record = .object members ∧ members.Ascending ∧
    ∀ n, n ∈ members.keys ↔ n ∈ inputs
  members : ∀ e ∈ row, record.field? e.stage = some (e.record.getD .null)

/-- The members that a row is merged into. -/
def members (row : JoinRow) : List (Name × Json) := row.map fun e => (e.stage, e.record.getD .null)

theorem names_members (row : JoinRow) : (members row).map (·.1) = row.map (·.stage) := by
  simp [members]

theorem keeps_merge {inputs : List Name} {row : JoinRow} (once : (row.map (·.stage)).Nodup)
    (all : ∀ n, n ∈ row.map (·.stage) ↔ n ∈ inputs) : Keeps inputs (merge row) row := by
  have distinct : ((members row).map (·.1)).Nodup := by rwa [names_members]
  constructor
  case once => exact once
  case all => exact all
  case object =>
    refine ⟨Table.ofList (members row), rfl, Table.ofList_ascending _, ?_⟩
    intro n
    rw [Table.mem_keys_ofList distinct, names_members, all]
  case members =>
    intro e he
    exact (Table.get?_ofList distinct).mpr (List.mem_map_of_mem he)

/-- The elements of a row may stand in any order. -/
theorem merge_perm {row row' : JoinRow} (once : (row.map (·.stage)).Nodup) (h : row.Perm row') :
    merge row = merge row' := by
  have distinct : ((members row).map (·.1)).Nodup := by rwa [names_members]
  exact congrArg Json.object (Table.ofList_perm distinct (h.map _))

/-! ## The order of the inputs -/

variable {required required' inputs inputs' : List Name} {records : Name → List Json}
  {rows rows' : List JoinRow}

/-- Rows without their order, and each without the order of its elements. -/
def bags (rows : List JoinRow) : Multiset (Multiset JoinElement) :=
  (Multiset.ofList rows).map Multiset.ofList

/-- A product without its orders has one element of each list, whatever the order of the lists. -/
theorem product_bags (lists : List (List JoinElement)) :
    bags (product lists) = ((Multiset.ofList lists).map Multiset.ofList).Sections := by
  induction lists with
  | nil => rfl
  | cons choices lists ih =>
    have rows : bags (product (choices :: lists)) =
        (Multiset.ofList choices).bind fun e => (bags (product lists)).map (e ::ₘ ·) := by
      rw [bags, product, ← Multiset.coe_bind, Multiset.map_bind]
      apply Multiset.bind_congr
      intro e _
      rw [bags, ← Multiset.map_coe, Multiset.map_map, Multiset.map_map]
      rfl
    rw [rows, ih, ← Multiset.cons_coe, Multiset.map_cons, Multiset.sections_cons]

theorem stage_of_offered {i : Name} {found : List Json} {e : JoinElement}
    (h : e ∈ offered i found) : e.stage = i := by
  cases found with
  | nil =>
    obtain rfl := List.mem_singleton.mp h
    rfl
  | cons r rs =>
    obtain ⟨s, -, rfl⟩ := List.mem_map.mp h
    rfl

theorem stages_of_product {row : JoinRow}
    (h : row ∈ product (inputs.map fun i => offered i (records i))) :
    row.map (·.stage) = inputs := by
  induction inputs generalizing row with
  | nil =>
    obtain rfl := List.mem_singleton.mp h
    rfl
  | cons i inputs ih =>
    rw [List.map_cons, product] at h
    obtain ⟨e, he, hrow⟩ := List.mem_flatMap.mp h
    obtain ⟨rest, hrest, rfl⟩ := List.mem_map.mp hrow
    rw [List.map_cons, ih hrest, stage_of_offered he]

/-- The inputs of a product may stand in any order, as far as merged rows show it. -/
theorem product_merge_perm (once : inputs.Nodup) (h : inputs.Perm inputs') :
    ((product (inputs.map fun i => offered i (records i))).map merge).Perm
      ((product (inputs'.map fun i => offered i (records i))).map merge) := by
  have same : bags (product (inputs.map fun i => offered i (records i))) =
      bags (product (inputs'.map fun i => offered i (records i))) := by
    have lists := Multiset.coe_eq_coe.mpr (h.map fun i => offered i (records i))
    rw [product_bags, product_bags, lists]
  have related := Multiset.rel_map.mp (Multiset.rel_eq.mpr same)
  have merged : Multiset.Rel (fun row row' => merge row = merge row')
      (Multiset.ofList (product (inputs.map fun i => offered i (records i))))
      (Multiset.ofList (product (inputs'.map fun i => offered i (records i)))) := by
    apply related.mono
    intro row hrow row' _ bag
    apply merge_perm _ (Multiset.coe_eq_coe.mp bag)
    rw [stages_of_product hrow]
    exact once
  exact Multiset.coe_eq_coe.mp (Multiset.rel_eq.mp (Multiset.rel_map.mpr merged))

theorem unmatched_congr (same : ∀ n, n ∈ required ↔ n ∈ required') (h : inputs.Perm inputs') :
    Unmatched required records inputs ↔ Unmatched required' records inputs' := by
  have none : required = [] ↔ required' = [] := by
    simp only [List.eq_nil_iff_forall_not_mem, same]
  simp only [Unmatched, none, same, h.mem_iff]

/-- Rows that are filled by the same inputs merge to the same records. -/
theorem Filled.merge_perm (filled : Filled required records inputs rows)
    (filled' : Filled required' records inputs' rows')
    (same : ∀ n, n ∈ required ↔ n ∈ required') (once : inputs.Nodup) (h : inputs.Perm inputs') :
    (rows.map merge).Perm (rows'.map merge) := by
  have unmatched_iff : Unmatched required records inputs ↔ Unmatched required' records inputs' :=
    unmatched_congr same h
  by_cases unmatched : Unmatched required records inputs
  · rw [filled.unmatched unmatched, filled'.unmatched (unmatched_iff.mp unmatched)]
  · rw [filled.matched unmatched, filled'.matched (unmatched_iff.not.mp unmatched)]
    exact product_merge_perm once h

/-- Records merged from rows are the same up to order if they are for every key. -/
theorem merged_perm {joined joined' : List (String × JoinRow)}
    (h : ∀ key, ((under key joined).map merge).Perm ((under key joined').map merge)) :
    (joined.map fun p => merge p.2).Perm (joined'.map fun p => merge p.2) := by
  have values (joined : List (String × JoinRow)) (key : String) :
      Table.valuesOf (joined.map fun p => (p.1, merge p.2)) key =
        (under key joined).map merge := by
    simp [Table.valuesOf, under, List.filter_map, Function.comp_def]
  have pairs : (joined.map fun p => (p.1, merge p.2)).Perm
      (joined'.map fun p => (p.1, merge p.2)) := by
    apply Table.perm_of_valuesOf
    intro key
    rw [values, values]
    exact h key
  simpa [Function.comp_def] using pairs.map (·.2)

end Rows

namespace Operators

open Rows JoinPlan

variable {ops : Operators} {stage : Name} {config : JoinConfig} {keyed : Table Keyed}
  {plan : JoinPlan} {joined : Joined}

/-- A plan for the inputs at hand leaves under every key what these inputs offer. -/
theorem executeJoin_planned (ops : Operators)
    (planned : JoinPlan.build stage config keyed.keys = .ok plan) :
    ∃ joined, (ops.executeJoin plan keyed).result = .ok joined ∧
      Reached config.required keyed (plan.steps.map (·.input)) joined := by
  obtain ⟨inputs, -, first, rest, shape, enters, fits⟩ := build_ok planned
  apply ops.executeJoin_reached shape enters _ fits
  intro step hs
  exact Table.get?_eq_some_of_mem_keys ((inputs step.input).mp (List.mem_map_of_mem hs))

/-- Every row of a run has one element for each input of the plan. -/
theorem stages_of_reached {required inputs : List Name}
    (reached : Reached required keyed inputs joined) {p : String × JoinRow}
    (hp : p ∈ joined.items) : p.2.map (·.stage) = inputs := by
  have listed : p.2 ∈ under p.1 joined.items :=
    List.mem_map.mpr ⟨p, List.mem_filter.mpr ⟨hp, by simp⟩, rfl⟩
  have matched : ¬ Unmatched required (recordsOf keyed p.1) inputs := by
    intro unmatched
    rw [(reached p.1).unmatched unmatched] at listed
    cases listed
  rw [(reached p.1).matched matched] at listed
  exact stages_of_product listed

theorem mergeJoinResults_result (ops : Operators) (stage : Name) (joined : Joined) :
    (ops.mergeJoinResults stage joined).result =
      match ops.faults Operator.mergeJoinResults.tag stage with
      | some f => .error f
      | none => .ok (.of (joined.items.map fun p => merge p.2)) := by
  unfold mergeJoinResults invoke
  rw [bind_of_ok _ (result_note _)]
  simp only [Call.tag, Call.stage]
  cases ops.faults Operator.mergeJoinResults.tag stage <;> rfl

/-- A planned join comes to its merged rows, unless merging is registered to fail. -/
theorem joinInputs_result (planned : JoinPlan.build stage config keyed.keys = .ok plan)
    (ran : (ops.executeJoin plan keyed).result = .ok joined) :
    (ops.joinInputs stage config keyed).result =
      match ops.faults Operator.mergeJoinResults.tag stage with
      | some f => .error (.collaborator stage f)
      | none => .ok ⟨joined.items.map fun p => merge p.2, true⟩ := by
  have merged := mergeJoinResults_result ops stage joined
  unfold joinInputs
  rw [planned, bind_of_ok _ (result_ofExcept _), bind_of_ok _ ran]
  simp only [bind, blame, mapError, merged]
  cases ops.faults Operator.mergeJoinResults.tag stage <;> rfl

/-- Records keep the rows that the plan runs to, one record for each row. -/
def KeepsRows (ops : Operators) (stage : Name) (config : JoinConfig) (keyed : Table Keyed)
    (records : List Json) : Prop :=
  ∃ plan joined, JoinPlan.build stage config keyed.keys = .ok plan ∧
    (ops.executeJoin plan keyed).result = .ok joined ∧
    List.Forall₂ (fun record p => Keeps keyed.keys record p.2) records joined.items

theorem keepsRows_merged (planned : JoinPlan.build stage config keyed.keys = .ok plan)
    (ran : (ops.executeJoin plan keyed).result = .ok joined)
    (reached : Reached config.required keyed (plan.steps.map (·.input)) joined) :
    ops.KeepsRows stage config keyed (joined.items.map fun p => merge p.2) := by
  have arranged := build_arranges planned
  refine ⟨plan, joined, planned, ran, ?_⟩
  rw [List.forall₂_map_left_iff, List.forall₂_same]
  intro p hp
  have stages := stages_of_reached reached hp
  apply keeps_merge
  · rw [stages]
    exact arranged.once
  · rw [stages]
    exact arranged.all

/--
**A join does not show the order in which its inputs are declared.** Two configurations that require
the same inputs join to the same records, up to their order, whatever else they say. Each record
keeps its row: it has one member for each input and no others, so no element of the row is lost or
replaced. Only if merging is registered to fail there are no records, for neither of them.
-/
theorem joinInputs_perm (ops : Operators) (stage : Name) (keyed : Table Keyed)
    (config config' : JoinConfig) (same : ∀ n, n ∈ config.required ↔ n ∈ config'.required)
    (valid : ∃ plan, JoinPlan.build stage config keyed.keys = .ok plan)
    (valid' : ∃ plan, JoinPlan.build stage config' keyed.keys = .ok plan) :
    (ops.faults Operator.mergeJoinResults.tag stage = none →
      ∃ out out', (ops.joinInputs stage config keyed).result = .ok out ∧
        (ops.joinInputs stage config' keyed).result = .ok out' ∧ out.items.Perm out'.items ∧
        ops.KeepsRows stage config keyed out.items ∧
        ops.KeepsRows stage config' keyed out'.items) ∧
    ∀ f, ops.faults Operator.mergeJoinResults.tag stage = some f →
      (ops.joinInputs stage config keyed).result = .error (.collaborator stage f) ∧
        (ops.joinInputs stage config' keyed).result = .error (.collaborator stage f) := by
  obtain ⟨plan, planned⟩ := valid
  obtain ⟨plan', planned'⟩ := valid'
  obtain ⟨joined, ran, reached⟩ := ops.executeJoin_planned planned
  obtain ⟨joined', ran', reached'⟩ := ops.executeJoin_planned planned'
  have result := joinInputs_result planned ran
  have result' := joinInputs_result planned' ran'
  constructor
  · intro sound
    rw [sound] at result result'
    refine ⟨_, _, result, result', ?_, keepsRows_merged planned ran reached,
      keepsRows_merged planned' ran' reached'⟩
    have arranged := build_arranges planned
    have arranged' := build_arranges planned'
    have inputs : (plan.steps.map (·.input)).Perm (plan'.steps.map (·.input)) := by
      rw [List.perm_ext_iff_of_nodup arranged.once arranged'.once]
      intro n
      rw [arranged.all, arranged'.all]
    apply merged_perm
    intro key
    exact (reached key).merge_perm (reached' key) same arranged.once inputs
  · intro f fails
    rw [fails] at result result'
    exact ⟨result, result'⟩

/-- Two inputs with two records each under a key, and one that lacks the key. -/
def pairedInputs : Table Keyed :=
  [("a", .of [("x", .null), ("x", .bool true)]), ("b", .of [("x", .ofNat 1), ("x", .ofNat 2)]),
    ("c", .of [("y", .null)])]

theorem joinInputs_perm_redeclared :
    ∃ out out', (empty.joinInputs "j" ⟨["a", "b"], [], some 2⟩ pairedInputs).result = .ok out ∧
      (empty.joinInputs "j" ⟨["b", "a", "b"], ["c"], none⟩ pairedInputs).result = .ok out' ∧
      out.items.length = 4 ∧ out.items.Perm out'.items := by
  have planned : JoinPlan.build "j" ⟨["a", "b"], [], some 2⟩ pairedInputs.keys =
      .ok ⟨"j", [⟨"a", .seed⟩, ⟨"b", .inner⟩, ⟨"c", .leftOuter⟩], some 2, false⟩ := by
    decide +kernel
  have planned' : JoinPlan.build "j" ⟨["b", "a", "b"], ["c"], none⟩ pairedInputs.keys =
      .ok ⟨"j", [⟨"b", .seed⟩, ⟨"a", .inner⟩, ⟨"c", .leftOuter⟩], none, false⟩ := by
    decide +kernel
  have same (n : Name) : n ∈ ["a", "b"] ↔ n ∈ ["b", "a", "b"] := by
    simp only [List.mem_cons, List.not_mem_nil]
    grind
  have four : (empty.joinInputs "j" ⟨["a", "b"], [], some 2⟩ pairedInputs).result.toOption.map
      (·.items.length) = some 4 := by
    decide +kernel
  obtain ⟨out, out', ran, ran', perm, -⟩ := (joinInputs_perm empty "j" pairedInputs _ _ same
    ⟨_, planned⟩ ⟨_, planned'⟩).1 rfl
  rw [ran] at four
  exact ⟨out, out', ran, ran', Option.some.inj four, perm⟩

end Operators

end Stageflow
