import Stageflow.Proofs.NestedLoops
import Stageflow.Proofs.Plans

/-!
# Joined rows

The rows that a plan leaves under a key, by the records that its inputs have under that key:

* `under_join`: a step joins the rows of each key apart from those of the others;
* `Reached`: after some inputs, the rows under a key are the product of what these inputs offer;
* `executeJoin_rows_eq_product`: so are the rows of the whole plan, over all of its inputs.

An input offers its records or, without one, a marker that it is absent. The markers never make
rows by themselves: a key has none if a required input lacks it, or if all inputs do.
-/

namespace Stageflow

namespace Rows

/-! ## The rows under one key -/

/-- The rows under a key, in their order. -/
def under (key : String) (rows : List (String × JoinRow)) : List JoinRow :=
  (rows.filter (·.1 = key)).map (·.2)

@[simp] theorem under_nil (key : String) : under key [] = [] := rfl

@[simp] theorem under_cons (key : String) (p : String × JoinRow) (rows : List (String × JoinRow)) :
    under key (p :: rows) = if p.1 = key then p.2 :: under key rows else under key rows := by
  by_cases h : p.1 = key <;> simp [under, h]

@[simp] theorem under_append (key : String) (xs ys : List (String × JoinRow)) :
    under key (xs ++ ys) = under key xs ++ under key ys := by
  simp [under]

theorem under_map (key k : String) (xs : List Json) (f : Json → JoinRow) :
    under key (xs.map fun r => (k, f r)) = if k = key then xs.map f else [] := by
  induction xs with
  | nil => simp
  | cons x xs ih => by_cases h : k = key <;> simp_all

theorem under_seedAll (key : String) (input : Name) (keyed : Keyed) :
    under key (seedAll input keyed).items = (matching keyed.items key).map (seed input) := by
  simp [under, seedAll, matching, Dataset.of, List.filter_map, Function.comp_def]

/-- The rows that a row under a key becomes. -/
def extensions (records : List Json) (type : JoinType) (flatten : Flatten) (row : JoinRow) :
    List JoinRow :=
  match records with
  | [] => if type = .inner then [] else [flatten (some row) none]
  | _ => records.map fun r => flatten (some row) (some r)

theorem under_nestedRow (key : String) (right : List (String × Json)) (type : JoinType)
    (flatten : Flatten) (left : String × JoinRow) :
    under key (nestedRow right type flatten left) =
      if left.1 = key then extensions (matching right key) type flatten left.2 else [] := by
  unfold nestedRow extensions
  by_cases same : left.1 = key
  · rw [same]
    cases h : matching right key with
    | nil => by_cases inner : type = .inner <;> simp [inner]
    | cons r rs => simpa using under_map key key (r :: rs) fun r => flatten (some left.2) (some r)
  · cases h : matching right left.1 with
    | nil => by_cases inner : type = .inner <;> simp [inner, same]
    | cons r rs =>
      simpa [same] using under_map key left.1 (r :: rs) fun r => flatten (some left.2) (some r)

theorem under_flatMap_nestedRow (key : String) (right : List (String × Json)) (type : JoinType)
    (flatten : Flatten) (left : List (String × JoinRow)) :
    under key (left.flatMap (nestedRow right type flatten)) =
      (under key left).flatMap (extensions (matching right key) type flatten) := by
  induction left with
  | nil => rfl
  | cons p left ih =>
    rw [List.flatMap_cons, under_append, under_nestedRow, under_cons, ih]
    split <;> simp

theorem under_rightOnly (key : String) (left : List (String × JoinRow))
    (right : List (String × Json)) (flatten : Flatten) :
    under key (rightOnly left right flatten) =
      if under key left = [] then (matching right key).map fun r => flatten none (some r)
      else [] := by
  have known : under key left = [] ↔ left.any (·.1 = key) = false := by
    simp [under, List.filter_eq_nil_iff]
  have shape : under key (rightOnly left right flatten) =
      ((right.filter fun p => !left.any (·.1 = p.1)).filter (·.1 = key)).map
        fun p => flatten none (some p.2) := by
    simp [under, rightOnly, List.filter_map, Function.comp_def]
  rw [shape, List.filter_filter]
  split
  · next missing =>
    have same (p : String × Json) :
        (decide (p.1 = key) && !left.any (·.1 = p.1)) = decide (p.1 = key) := by
      by_cases h : p.1 = key
      · simp only [h, known.mp missing, decide_true, Bool.not_false, Bool.and_self]
      · simp [h]
    simp only [same, matching, List.map_map, Function.comp_def]
  · next present =>
    refine List.map_eq_nil_iff.mpr (List.filter_eq_nil_iff.mpr fun p _ taken => ?_)
    obtain ⟨same, absent⟩ := Bool.and_eq_true_iff.mp taken
    rw [decide_eq_true_eq] at same
    exact present (known.mpr (by simpa [same] using absent))

/-! ## What inputs offer together -/

/-- What an input offers for rows: its records, or a marker that it is absent. -/
def offered (input : Name) (records : List Json) : List JoinElement :=
  match records with
  | [] => [.absent input]
  | _ => records.map (.present input)

/-- One element of each list, in lexicographic order: the last list varies first. -/
def product : List (List JoinElement) → List JoinRow
  | [] => [[]]
  | choices :: rest => choices.flatMap fun e => (product rest).map (e :: ·)

theorem offered_nil (input : Name) : offered input [] = [.absent input] := rfl

theorem offered_of_ne_nil {input : Name} {records : List Json} (h : records ≠ []) :
    offered input records = records.map (.present input) := by
  obtain ⟨r, rs, rfl⟩ := List.exists_cons_of_ne_nil h
  rfl

theorem offered_ne_nil (input : Name) (records : List Json) : offered input records ≠ [] := by
  cases records <;> simp [offered]

theorem product_append (lists : List (List JoinElement)) (choices : List JoinElement) :
    product (lists ++ [choices]) =
      (product lists).flatMap fun row => choices.map fun e => row ++ [e] := by
  induction lists with
  | nil => simp [product, List.map_eq_flatMap]
  | cons first lists ih =>
    simp only [List.cons_append, product, ih, List.map_flatMap, List.flatMap_assoc,
      List.flatMap_map, List.map_map, Function.comp_def]

theorem product_ne_nil {lists : List (List JoinElement)} (h : ∀ choices ∈ lists, choices ≠ []) :
    product lists ≠ [] := by
  induction lists with
  | nil => simp [product]
  | cons first lists ih =>
    obtain ⟨e, he⟩ := List.exists_mem_of_ne_nil first (h first List.mem_cons_self)
    obtain ⟨row, hrow⟩ := List.exists_mem_of_ne_nil _
      (ih fun choices hc => h choices (List.mem_cons_of_mem first hc))
    intro empty
    have none := List.flatMap_eq_nil_iff.mp empty e he
    exact absurd (List.map_eq_nil_iff.mp none) (List.ne_nil_of_mem hrow)

variable (required : List Name) (records : Name → List Json)

/-- Whether inputs make no row: a required one lacks records or, if none is required, all do. -/
def Unmatched (inputs : List Name) : Prop :=
  (∃ i ∈ inputs, i ∈ required ∧ records i = []) ∨ (required = [] ∧ ∀ i ∈ inputs, records i = [])

/-- The rows are all that the inputs offer together, or none if the inputs are unmatched. -/
structure Filled (inputs : List Name) (rows : List JoinRow) : Prop where
  unmatched : Unmatched required records inputs → rows = []
  matched : ¬ Unmatched required records inputs →
    rows = product (inputs.map fun i => offered i (records i))

variable {required records} {inputs : List Name} {rows : List JoinRow} {i : Name}

theorem product_absent (lacking : ∀ i ∈ inputs, records i = []) :
    product (inputs.map fun i => offered i (records i)) = [inputs.map .absent] := by
  induction inputs with
  | nil => rfl
  | cons i inputs ih =>
    have rest := ih fun j hj => lacking j (List.mem_cons_of_mem i hj)
    rw [List.map_cons, lacking i List.mem_cons_self, offered_nil, product, rest]
    rfl

theorem filled_seed (h : i ∈ required ∨ required = []) :
    Filled required records [i] ((records i).map (seed i)) := by
  have lacking : Unmatched required records [i] ↔ records i = [] := by
    simp only [Unmatched, List.mem_singleton]
    grind
  refine ⟨fun none => by rw [lacking.mp none, List.map_nil], fun some => ?_⟩
  have present : records i ≠ [] := fun none => some (lacking.mpr none)
  simp only [List.map_cons, List.map_nil, product, offered_of_ne_nil present, List.flatMap_map,
    ← List.map_eq_flatMap]
  rfl

/-- A row is extended by each element that the next input offers. -/
theorem extensions_eq {type : JoinType} {flatten : Flatten} {row : JoinRow}
    (extend : ∀ r, flatten (some row) r = row ++ [element i r])
    (h : type ≠ .inner ∨ records i ≠ []) :
    extensions (records i) type flatten row = (offered i (records i)).map fun e => row ++ [e] := by
  unfold extensions
  cases shape : records i with
  | nil =>
    have outer : type ≠ .inner := h.resolve_right fun present => present shape
    simp [outer, extend, offered_nil, element, JoinElement.absent]
  | cons r rs => simp [extend, offered, element, JoinElement.present]

theorem product_next (rows_eq : rows = product (inputs.map fun i => offered i (records i)))
    {next : JoinRow → List JoinRow}
    (extend : ∀ row, next row = (offered i (records i)).map fun e => row ++ [e]) :
    rows.flatMap next = product ((inputs ++ [i]).map fun i => offered i (records i)) := by
  rw [List.map_append, List.map_singleton, product_append, ← rows_eq]
  exact List.flatMap_congr fun row _ => extend row

theorem Filled.inner (h : Filled required records inputs rows) (hi : i ∈ required) :
    Filled required records (inputs ++ [i])
      (rows.flatMap (extensions (records i) .inner (flattenInner i))) := by
  have some_required : required ≠ [] := List.ne_nil_of_mem hi
  have lacking : Unmatched required records (inputs ++ [i]) ↔
      Unmatched required records inputs ∨ records i = [] := by
    simp only [Unmatched, List.mem_append, List.mem_singleton, some_required, false_and, or_false]
    grind
  refine ⟨fun none => ?_, fun some => ?_⟩
  · rcases lacking.mp none with before | here
    · rw [h.unmatched before, List.flatMap_nil]
    · simp [extensions, here]
  · obtain ⟨before, here⟩ := not_or.mp (lacking.not.mp some)
    exact product_next (h.matched before) fun row => extensions_eq (fun _ => rfl) (.inr here)

theorem Filled.leftOuter (h : Filled required records inputs rows) (some_required : required ≠ [])
    (hi : i ∉ required) :
    Filled required records (inputs ++ [i])
      (rows.flatMap (extensions (records i) .leftOuter (flattenInner i))) := by
  have same : Unmatched required records (inputs ++ [i]) ↔ Unmatched required records inputs := by
    simp only [Unmatched, List.mem_append, List.mem_singleton, some_required, false_and, or_false]
    grind
  refine ⟨fun none => ?_, fun some => ?_⟩
  · rw [h.unmatched (same.mp none), List.flatMap_nil]
  · exact product_next (h.matched (same.not.mp some)) fun row =>
      extensions_eq (fun _ => rfl) (.inl (by decide))

theorem Filled.fullOuter (h : Filled required records inputs rows) (none_required : required = []) :
    Filled required records (inputs ++ [i])
      (rows.flatMap (extensions (records i) .fullOuter (flattenFullOuter i inputs)) ++
        if rows = [] then (records i).map fun r => flattenFullOuter i inputs none (some r)
        else []) := by
  have before : Unmatched required records inputs ↔ ∀ j ∈ inputs, records j = [] := by
    simp [Unmatched, none_required]
  have after : Unmatched required records (inputs ++ [i]) ↔
      (∀ j ∈ inputs, records j = []) ∧ records i = [] := by
    simp only [Unmatched, none_required, List.mem_append, List.mem_singleton]
    grind
  by_cases lacking : ∀ j ∈ inputs, records j = []
  · -- Nothing stands on the left, so the records of this input are rows behind absent markers.
    rw [h.unmatched (before.mpr lacking), List.flatMap_nil, List.nil_append, if_pos rfl]
    refine ⟨fun none => by rw [(after.mp none).2, List.map_nil], fun some => ?_⟩
    have here : records i ≠ [] := fun none => some (after.mpr ⟨lacking, none⟩)
    rw [List.map_append, List.map_singleton, product_append, product_absent lacking,
      offered_of_ne_nil here]
    simp [flattenFullOuter, element, JoinElement.present]
  · have rows_eq := h.matched (before.not.mpr lacking)
    have some_rows : rows ≠ [] := by
      rw [rows_eq]
      exact product_ne_nil fun choices hc => by
        obtain ⟨j, -, rfl⟩ := List.mem_map.mp hc
        exact offered_ne_nil j _
    rw [if_neg some_rows, List.append_nil]
    refine ⟨fun none => absurd (after.mp none).1 lacking, fun _ => ?_⟩
    exact product_next rows_eq fun row => extensions_eq (fun _ => rfl) (.inl (by decide))

/-- The records of an input under a key. -/
def recordsOf (keyed : Table Keyed) (key : String) (input : Name) : List Json :=
  (keyed.get? input).elim [] fun d => matching d.items key

theorem recordsOf_eq {keyed : Table Keyed} {d : Keyed} (found : keyed.get? i = some d)
    (key : String) : recordsOf keyed key i = matching d.items key := by
  simp [recordsOf, found]

theorem under_join (default : Nat) (left : Joined) (right : Keyed) (type : JoinType)
    (partitions : Option Nat) (flatten : Flatten) (key : String) :
    under key (join default left right type partitions flatten).items =
      (under key left.items).flatMap (extensions (matching right.items key) type flatten) ++
        if type = .fullOuter then
          if under key left.items = [] then
            (matching right.items key).map fun r => flatten none (some r)
          else []
        else [] := by
  rw [join_items, under_append, under_flatMap_nestedRow]
  split
  · rw [under_rightOnly]
  · rfl

end Rows

namespace JoinPlan

/-- How an input after the first enters, if some inputs are required. -/
def Fits (required : List Name) (step : JoinStep) : Prop :=
  match step.kind with
  | .seed => False
  | .inner => step.input ∈ required
  | .leftOuter => required ≠ [] ∧ step.input ∉ required
  | .fullOuter => required = []

theorem fits_of_kind {required : List Name} {step : JoinStep}
    (kind : step.kind = laterKind required step.input) : Fits required step := by
  unfold Fits
  rw [kind, laterKind]
  by_cases inner : step.input ∈ required
  · simp [inner]
  · by_cases none : required = [] <;> simp [inner, none]

/-- A plan takes every connected input, the required ones by their own kinds. -/
theorem build_ok {stage : Name} {config : JoinConfig} {inputs : List Name} {plan : JoinPlan}
    (h : build stage config inputs = .ok plan) :
    (∀ i, i ∈ plan.steps.map (·.input) ↔ i ∈ inputs) ∧ (∀ i ∈ config.required, i ∈ inputs) ∧
      ∃ first rest, plan.steps = first :: rest ∧
        (first.input ∈ config.required ∨ config.required = []) ∧
        ∀ step ∈ rest, Fits config.required step := by
  have arranged := build_arranges h
  obtain ⟨first, rest, shape⟩ := List.exists_cons_of_ne_nil arranged.some_step
  refine ⟨arranged.all, fun i hi => arranged.declared i (.inl hi), first, rest, shape, ?_, ?_⟩
  · obtain ⟨required, others, inputs_eq, mem_required, -⟩ := arranged.order
    rw [shape, List.map_cons] at inputs_eq
    cases required with
    | nil =>
      right
      exact List.eq_nil_iff_forall_not_mem.mpr fun n hn =>
        List.not_mem_nil ((mem_required n).mpr hn)
    | cons i required =>
      left
      obtain ⟨same, -⟩ := List.cons.inj inputs_eq
      exact same ▸ (mem_required i).mp List.mem_cons_self
  · intro step hs
    obtain ⟨i, listed⟩ := List.mem_iff_getElem?.mp hs
    have later : plan.steps[i + 1]? = some step := by rw [shape, List.getElem?_cons_succ, listed]
    exact fits_of_kind (arranged.kinds (i + 1) step later)

end JoinPlan

namespace Operators

open Rows JoinPlan

variable (ops : Operators) (plan : JoinPlan) {keyed : Table Keyed} {required : List Name}

/-- The rows so far, under every key, are those that the inputs so far offer. -/
def Reached (required : List Name) (keyed : Table Keyed) (inputs : List Name)
    (rows : Joined) : Prop :=
  ∀ key, Filled required (recordsOf keyed key) inputs (under key rows.items)

theorem joinStep_reached {previous : List Name} {rows : Joined} {step : JoinStep} {d : Keyed}
    (found : keyed.get? step.input = some d) (fits : Fits required step)
    (h : Reached required keyed previous rows) :
    ∃ next,
      (ops.joinStep plan previous (some rows) step d : Journaled FlowError _).result = .ok next ∧
        Reached required keyed (previous ++ [step.input]) next := by
  obtain ⟨input, kind⟩ := step
  cases kind with
  | seed => exact absurd fits id
  | inner =>
    refine ⟨_, rfl, fun key => ?_⟩
    have filled := (h key).inner fits
    rw [recordsOf_eq found] at filled
    simpa [under_join] using filled
  | leftOuter =>
    refine ⟨_, rfl, fun key => ?_⟩
    have filled := (h key).leftOuter fits.1 fits.2
    rw [recordsOf_eq found] at filled
    simpa [under_join] using filled
  | fullOuter =>
    refine ⟨_, rfl, fun key => ?_⟩
    have filled := (h key).fullOuter (i := input) fits
    rw [recordsOf_eq found] at filled
    simpa [under_join] using filled

theorem executeSteps_reached {steps : List JoinStep} {previous : List Name} {rows : Joined}
    (found : ∀ step ∈ steps, ∃ d, keyed.get? step.input = some d)
    (fits : ∀ step ∈ steps, Fits required step) (h : Reached required keyed previous rows) :
    ∃ out, (ops.executeSteps plan keyed steps previous (some rows)).result = .ok out ∧
      Reached required keyed (previous ++ steps.map (·.input)) out := by
  induction steps generalizing previous rows with
  | nil => exact ⟨rows, rfl, by simpa using h⟩
  | cons step steps ih =>
    obtain ⟨d, hd⟩ := found step List.mem_cons_self
    obtain ⟨next, stepped, reached⟩ :=
      ops.joinStep_reached plan hd (fits step List.mem_cons_self) h
    obtain ⟨out, ran, final⟩ := ih (fun s hs => found s (List.mem_cons_of_mem _ hs))
      (fun s hs => fits s (List.mem_cons_of_mem _ hs)) reached
    refine ⟨out, ?_, by simpa using final⟩
    rw [executeSteps, hd]
    exact Journaled.bind_ok_iff.mpr ⟨next, stepped, ran⟩

variable {plan}

theorem executeJoin_reached {first : JoinStep} {rest : List JoinStep}
    (shape : plan.steps = first :: rest) (enters : first.input ∈ required ∨ required = [])
    (found : ∀ step ∈ plan.steps, ∃ d, keyed.get? step.input = some d)
    (fits : ∀ step ∈ rest, Fits required step) :
    ∃ out, (ops.executeJoin plan keyed).result = .ok out ∧
      Reached required keyed (plan.steps.map (·.input)) out := by
  rw [shape] at found
  obtain ⟨d, hd⟩ := found first List.mem_cons_self
  have seeded : Reached required keyed [first.input] (seedAll first.input d) := by
    intro key
    have filled : Filled required (recordsOf keyed key) _ _ := filled_seed enters
    rwa [recordsOf_eq hd, ← under_seedAll] at filled
  obtain ⟨out, ran, final⟩ := ops.executeSteps_reached plan
    (fun s hs => found s (List.mem_cons_of_mem _ hs)) fits seeded
  refine ⟨out, ?_, by simpa [shape] using final⟩
  rw [executeJoin, shape, executeSteps, hd]
  exact Journaled.bind_ok_iff.mpr ⟨_, rfl, ran⟩

/-- A required input lacks the key or, if nothing is required, every input lacks it. -/
def Lacking (config : JoinConfig) (keyed : Table Keyed) (key : String) : Prop :=
  (∃ i ∈ config.required, recordsOf keyed key i = []) ∨
    (config.required = [] ∧ ∀ i ∈ keyed.keys, recordsOf keyed key i = [])

/--
**A plan runs to the product of its inputs.** The rows under a key are one element of each input in
the order of the steps: each of its records or, without one, the marker that it is absent. A key has
no rows only if a required input lacks it or, where none is required, every input does.
-/
theorem executeJoin_rows_eq_product (stage : Name) (config : JoinConfig) (keyed : Table Keyed)
    (plan : JoinPlan) (planned : JoinPlan.build stage config keyed.keys = .ok plan) :
    ∃ joined, (ops.executeJoin plan keyed).result = .ok joined ∧ ∀ key,
      (Lacking config keyed key → under key joined.items = []) ∧
      (¬ Lacking config keyed key → under key joined.items = product
        (plan.steps.map fun step => offered step.input (recordsOf keyed key step.input))) := by
  obtain ⟨inputs, declared, first, rest, shape, enters, fits⟩ := build_ok planned
  have found (step : JoinStep) (hs : step ∈ plan.steps) : ∃ d, keyed.get? step.input = some d :=
    Table.get?_eq_some_of_mem_keys ((inputs step.input).mp (List.mem_map_of_mem hs))
  obtain ⟨joined, ran, reached⟩ := ops.executeJoin_reached shape enters found fits
  refine ⟨joined, ran, fun key => ?_⟩
  have lacking : Unmatched config.required (recordsOf keyed key) (plan.steps.map (·.input)) ↔
      Lacking config keyed key := by
    simp only [Unmatched, Lacking, inputs]
    have := declared
    grind
  refine ⟨fun none => (reached key).unmatched (lacking.mpr none), fun some => ?_⟩
  simpa [Function.comp_def] using (reached key).matched (lacking.not.mpr some)

/-- Three inputs: the second has no records, and only the last has the key `y`. -/
def unevenInputs : Table Keyed :=
  [("a", .of [("x", .null), ("x", .bool true)]), ("b", .of []),
    ("c", .of [("x", .bool false), ("y", .null)])]

theorem executeJoin_rows_marks_absent :
    let plan : JoinPlan :=
      ⟨"j", [⟨"a", .seed⟩, ⟨"b", .fullOuter⟩, ⟨"c", .fullOuter⟩], some 2, true⟩
    JoinPlan.build "j" ⟨[], [], some 2⟩ unevenInputs.keys = .ok plan ∧
      ∃ joined, (empty.executeJoin plan unevenInputs).result = .ok joined ∧
        under "y" joined.items = [[.absent "a", .absent "b", .present "c" .null]] ∧
        under "z" joined.items = [] := by
  intro plan
  have planned : JoinPlan.build "j" ⟨[], [], some 2⟩ unevenInputs.keys = .ok plan := by
    decide +kernel
  obtain ⟨joined, ran, rows⟩ :=
    executeJoin_rows_eq_product empty "j" ⟨[], [], some 2⟩ unevenInputs plan planned
  refine ⟨planned, joined, ran, (rows "y").2 ?_, (rows "z").1 ?_⟩
  · simp [Lacking, unevenInputs, recordsOf, Table.keys, Table.get?, matching, Dataset.of]
  · simp [Lacking, unevenInputs, recordsOf, Table.keys, Table.get?, matching, Dataset.of]

end Operators

end Stageflow
