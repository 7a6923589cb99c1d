import Mathlib.Algebra.BigOperators.Group.List.Basic
import Mathlib.Algebra.BigOperators.Ring.List
import Mathlib.Data.Set.Card
import Stageflow.Proofs.Entries

/-!
# Ways through a phase

A phase of sources, transformations and sinks that all pass their records on. A record comes to a
sink once by each way that leads there from a source that has it:

* `PhaseSpec.ncard_ways`: the ways to a stage are counted by the last producer on them;
* `count_output`: so are the records that a stage has in its output;
* `sink_counts_ways`: a sink has got each record as often as there are ways for it.
-/

namespace Stageflow

namespace PhaseSpec

variable {spec : PhaseSpec} {a b m n : Name} {between : List Name}

/-- Some stage of that name transforms records. -/
def Transforms (spec : PhaseSpec) (n : Name) : Prop :=
  ∃ s ∈ spec.stages, s.name = n ∧ s.kind = .transform

/-- The ways from one stage to another, each as the list of the transformations in between. -/
def ways (spec : PhaseSpec) (a b : Name) : Set (List Name) :=
  {between | (a :: (between ++ [b])).IsChain (fun m n => (m, n) ∈ spec.connections) ∧
    ∀ n ∈ between, spec.Transforms n}

/-- What stands in between on the ways from a stage whose last producer is `m`. -/
def waysBy (spec : PhaseSpec) (a m : Name) : Set (List Name) :=
  {between | between = [] ∧ m = a ∨
    spec.Transforms m ∧ ∃ front ∈ spec.ways a m, front ++ [m] = between}

theorem mem_ways : between ∈ spec.ways a b ↔
    ∃ m, (m, b) ∈ spec.connections ∧ between ∈ spec.waysBy a m := by
  rcases List.eq_nil_or_concat between with rfl | ⟨front, m, rfl⟩
  · simp [ways, waysBy]
  · have chain : (a :: (front ++ [m] ++ [b])).IsChain (fun m n => (m, n) ∈ spec.connections) ↔
        (a :: (front ++ [m])).IsChain (fun m n => (m, n) ∈ spec.connections) ∧
          (m, b) ∈ spec.connections := by
      have shape : a :: (front ++ [m] ++ [b]) = (a :: front) ++ m :: [b] := by simp
      rw [shape, List.isChain_split]
      simp
    rw [List.concat_eq_append, ways, Set.mem_ofPred_eq, chain]
    constructor
    · rintro ⟨⟨front_chain, last⟩, inner⟩
      have front_inner : ∀ n ∈ front, spec.Transforms n := fun n hn => inner n (by simp [hn])
      exact ⟨m, last, .inr ⟨inner m (by simp), front, ⟨front_chain, front_inner⟩, rfl⟩⟩
    · rintro ⟨m', last, ⟨empty, -⟩ | ⟨transforms, front', ⟨front_chain, front_inner⟩, same⟩⟩
      · simp at empty
      · obtain ⟨rfl, last_same⟩ := List.append_inj' same rfl
        obtain rfl := List.singleton_injective last_same
        refine ⟨⟨front_chain, last⟩, fun n hn => ?_⟩
        rcases List.mem_append.mp hn with earlier | here
        · exact front_inner n earlier
        · exact List.mem_singleton.mp here ▸ transforms

theorem waysBy_apart {between : List Name} (other : m ≠ n) (by_m : between ∈ spec.waysBy a m) :
    between ∉ spec.waysBy a n := by
  intro by_n
  rcases by_m with ⟨rfl, rfl⟩ | ⟨-, front, -, rfl⟩
  · rcases by_n with ⟨-, rfl⟩ | ⟨-, front, -, same⟩
    · exact other rfl
    · simp at same
  · rcases by_n with ⟨same, -⟩ | ⟨-, front', -, same⟩
    · simp at same
    · exact other (List.singleton_injective (List.append_inj' same rfl).2).symm

theorem waysBy_self (no_transform : ¬ spec.Transforms a) : spec.waysBy a a = {[]} := by
  ext between
  simp [waysBy, no_transform]

theorem waysBy_transform (transforms : spec.Transforms m) (other : m ≠ a) :
    spec.waysBy a m = (· ++ [m]) '' spec.ways a m := by
  ext between
  simp [waysBy, transforms, other]

theorem waysBy_other (no_transform : ¬ spec.Transforms m) (other : m ≠ a) :
    spec.waysBy a m = ∅ := by
  ext between
  simp [waysBy, no_transform, other]

theorem finite_waysBy (finite : (spec.ways a m).Finite) : (spec.waysBy a m).Finite := by
  have all : spec.waysBy a m ⊆ {[]} ∪ (· ++ [m]) '' spec.ways a m := by
    rintro between (⟨rfl, -⟩ | ⟨-, front, way, rfl⟩)
    · simp
    · exact .inr ⟨front, way, rfl⟩
  exact ((Set.finite_singleton []).union (finite.image _)).subset all

/-- The ways to a stage are counted by the last producer on them. -/
theorem ncard_ways {producers : List Name} (distinct : producers.Nodup)
    (linked : ∀ m, m ∈ producers ↔ (m, b) ∈ spec.connections)
    (finite : ∀ m ∈ producers, (spec.ways a m).Finite) :
    (spec.ways a b).Finite ∧
      (spec.ways a b).ncard = (producers.map fun m => (spec.waysBy a m).ncard).sum := by
  have all : spec.ways a b = {between | ∃ m ∈ producers, between ∈ spec.waysBy a m} := by
    ext between
    simp [mem_ways, linked]
  rw [all]
  clear all linked
  induction producers with
  | nil => simp
  | cons m producers ih =>
    obtain ⟨fresh, distinct⟩ := List.nodup_cons.mp distinct
    obtain ⟨first, later⟩ := List.forall_mem_cons.mp finite
    obtain ⟨rest, count⟩ := ih distinct later
    have split : {between | ∃ n ∈ m :: producers, between ∈ spec.waysBy a n} =
        spec.waysBy a m ∪ {between | ∃ n ∈ producers, between ∈ spec.waysBy a n} := by
      ext between
      simp
    have apart : Disjoint (spec.waysBy a m)
        {between | ∃ n ∈ producers, between ∈ spec.waysBy a n} := by
      refine Set.disjoint_left.mpr fun between here there => ?_
      obtain ⟨n, hn, by_n⟩ := there
      have other : m ≠ n := fun same => fresh (same ▸ hn)
      exact waysBy_apart other here by_n
    rw [split, List.map_cons, List.sum_cons, ← count]
    exact ⟨(finite_waysBy first).union rest, Set.ncard_union_eq apart (finite_waysBy first) rest⟩

/-- The sources of a declaration. -/
def batchSources (spec : PhaseSpec) : List Name :=
  (spec.stages.filter fun s => s.kind = .batchSource).map (·.name)

end PhaseSpec

/-- The records that are registered for a source. -/
def Operators.registered (ops : Operators) (source : Name) : List Json :=
  ((ops.sources.get? source).getD []).filterMap (Tagged.outputOn none)

/-- The records that a stage has on its main channel. -/
def Registry.mainRecords (r : Registry) (n : Name) : List Json :=
  (r.outputOf n none).elim [] (·.items)

open Journaled

namespace Walk

variable {w : Walk} {spec : PhaseSpec} {s : Stage} {r : Registry} {n m : Name} {g : Graph}
  {out : Scheduled}

theorem mainRecords_external (accepted : w.phase.Accepted) (shape : w.phase.graph = some g)
    (ran : w.schedule.result = .ok out) (external : w.phase.stage? n = none) :
    out.registry.mainRecords n = [] := by
  simp [Registry.mainRecords, Registry.outputOf, schedule_external accepted shape ran external]

/-- A walk over sources, transformations and sinks that pass every record on to every reader. -/
structure PassesOn (w : Walk) (spec : PhaseSpec) : Prop where
  read : Phase.ofSpec spec = .ok w.phase
  kinds : ∀ s ∈ spec.stages, s.kind = .batchSource ∨ s.kind = .transform ∨ s.kind = .sink
  unported : ∀ s ∈ spec.stages, s.ports = []
  identity : ∀ s ∈ spec.stages, w.operators.transforms.get? s.name = none

namespace PassesOn

theorem accepted (h : w.PassesOn spec) : w.phase.Accepted := Phase.accepted_ofSpec h.read

theorem builtOf (h : w.PassesOn spec) :
    ∃ g, w.phase.graph = some g ∧ g.edges = distinct spec.connections ∧
      Phase.BuiltOf spec.stages (some g) w.phase := by
  obtain ⟨g, sorted, built⟩ := Phase.ofSpec_ok_iff.mp h.read
  have built := Phase.build_ok built
  exact ⟨g, built.graph_eq, (Graph.build_ok sorted).2.1, built⟩

theorem stage? (h : w.PassesOn spec) :
    w.phase.stage? n = some s ↔ s ∈ spec.stages ∧ s.name = n := by
  obtain ⟨g, -, -, built⟩ := h.builtOf
  exact built.stage?_eq_some n s

theorem mem_inputs (h : w.PassesOn spec) : m ∈ w.phase.inputs n ↔ (m, n) ∈ spec.connections := by
  obtain ⟨g, shape, edges, -⟩ := h.builtOf
  simp [Phase.mem_inputs, shape, Graph.Linked, edges, mem_distinct]

/-- The stage of a name is a source or a transformation if the name is that of one. -/
theorem kind_of (h : w.PassesOn spec) (found : w.phase.stage? n = some s) :
    (n ∈ spec.batchSources ↔ s.kind = .batchSource) ∧
      (spec.Transforms n ↔ s.kind = .transform) := by
  have one (t : Stage) (ht : t ∈ spec.stages) (same : t.name = n) : t = s :=
    Option.some.inj ((h.stage?.mpr ⟨ht, same⟩).symm.trans found)
  obtain ⟨hs, named⟩ := h.stage?.mp found
  constructor
  · rw [PhaseSpec.batchSources, List.mem_map]
    constructor
    · rintro ⟨t, ht, same⟩
      obtain ⟨listed, kind⟩ := List.mem_filter.mp ht
      obtain rfl := one t listed same
      simpa using kind
    · intro kind
      exact ⟨s, List.mem_filter.mpr ⟨hs, by simpa using kind⟩, named⟩
  · constructor
    · rintro ⟨t, ht, same, kind⟩
      obtain rfl := one t ht same
      exact kind
    · intro kind
      exact ⟨s, hs, named, kind⟩

theorem batchSources_nodup (h : w.PassesOn spec) : spec.batchSources.Nodup := by
  obtain ⟨g, -, -, built⟩ := h.builtOf
  exact (List.filter_sublist.map _).nodup built.distinct

/-- What a stage reads at the end of a walk are the outputs of its producers. -/
theorem gathered_eq (h : w.PassesOn spec) (shape : w.phase.graph = some g)
    (ran : w.schedule.result = .ok out) :
    w.gathered s out.registry = (w.phase.inputs s.name).flatMap out.registry.mainRecords := by
  unfold gathered gather
  rw [flatMap_filterMap]
  refine List.flatMap_congr fun n reads => ?_
  cases found : w.phase.stage? n with
  | none => simp [mainRecords_external h.accepted shape ran found]
  | some t =>
    have unported : t.ports = [] := h.unported t (h.stage?.mp found).1
    have whole : portBetween t s = none := by simp [portBetween, Stage.portFor, unported]
    cases records : out.registry.outputOf n none <;> simp [whole, records, Registry.mainRecords]

end PassesOn

/-! ## What comes by the ways -/

/-- How often a record comes out of a stage by the ways to it. -/
noncomputable def byWays [DecidableEq Json] (w : Walk) (spec : PhaseSpec) (record : Json)
    (n : Name) : Nat :=
  (spec.batchSources.map fun b =>
    (w.operators.registered b).count record * (spec.waysBy b n).ncard).sum

namespace PassesOn

theorem finite_ways (h : w.PassesOn spec) (shape : w.phase.graph = some g) (b : Name) :
    ∀ n ∈ g.order, (spec.ways b n).Finite := by
  refine h.accepted.inputs_induction shape fun n _ ih => ?_
  exact (PhaseSpec.ncard_ways (w.phase.inputs_nodup n) (fun m => h.mem_inputs) ih).1

theorem ncard_ways (h : w.PassesOn spec) (shape : w.phase.graph = some g) (listed : n ∈ g.order)
    (b : Name) :
    (spec.ways b n).ncard = ((w.phase.inputs n).map fun m => (spec.waysBy b m).ncard).sum := by
  have finite (m : Name) (reads : m ∈ w.phase.inputs n) : (spec.ways b m).Finite :=
    h.finite_ways shape b m (h.accepted.mem_order_of_inputs shape listed reads)
  exact (PhaseSpec.ncard_ways (w.phase.inputs_nodup n) (fun m => h.mem_inputs) finite).2

variable [DecidableEq Json] {record : Json}

/-- If what comes out of its producers comes by the ways to them, so does what a stage reads. -/
theorem count_gathered (h : w.PassesOn spec) (shape : w.phase.graph = some g)
    (ran : w.schedule.result = .ok out) (listed : s.name ∈ g.order)
    (producers : ∀ m ∈ w.phase.inputs s.name,
      (out.registry.mainRecords m).count record = w.byWays spec record m) :
    (w.gathered s out.registry).count record =
      (spec.batchSources.map fun b =>
        (w.operators.registered b).count record * (spec.ways b s.name).ncard).sum := by
  calc (w.gathered s out.registry).count record
      = ((w.phase.inputs s.name).map fun m => (out.registry.mainRecords m).count record).sum := by
        rw [h.gathered_eq shape ran, List.count_flatMap]
        rfl
    _ = ((w.phase.inputs s.name).map (w.byWays spec record)).sum := by
        rw [List.map_congr_left producers]
    _ = (spec.batchSources.map fun b => ((w.phase.inputs s.name).map fun m =>
          (w.operators.registered b).count record * (spec.waysBy b m).ncard).sum).sum := by
        have exchange := Multiset.sum_map_sum_map (w.phase.inputs s.name : Multiset Name)
          (spec.batchSources : Multiset Name) (f := fun m b =>
            (w.operators.registered b).count record * (spec.waysBy b m).ncard)
        simp only [Multiset.map_coe, Multiset.sum_coe] at exchange
        exact exchange
    _ = _ := by
        refine congrArg _ (List.map_congr_left fun b _ => ?_)
        rw [List.sum_map_mul_left, h.ncard_ways shape listed]

/-- Nothing comes out of a stage that is no source and does not transform. -/
theorem byWays_other (no_source : n ∉ spec.batchSources) (no_transform : ¬ spec.Transforms n) :
    w.byWays spec record n = 0 := by
  refine List.sum_eq_zero fun k hk => ?_
  obtain ⟨b, hb, rfl⟩ := List.mem_map.mp hk
  have other : n ≠ b := fun same => no_source (same ▸ hb)
  simp [PhaseSpec.waysBy_other no_transform other]

/-- What comes out of a source is what is registered for it. -/
theorem byWays_source (h : w.PassesOn spec) (source : n ∈ spec.batchSources)
    (no_transform : ¬ spec.Transforms n) :
    w.byWays spec record n = (w.operators.registered n).count record := by
  have others (b : Name) (other : b ≠ n) (_ : b ∈ spec.batchSources) :
      (w.operators.registered b).count record * (spec.waysBy b n).ncard = 0 := by
    simp [PhaseSpec.waysBy_other no_transform other.symm]
  unfold byWays
  rw [List.sum_map_eq_nsmul_single n _ others,
    List.count_eq_one_of_mem h.batchSources_nodup source, PhaseSpec.waysBy_self no_transform]
  simp

/-- What comes out of a transformation has come to it. -/
theorem byWays_transform (transforms : spec.Transforms n) (no_source : n ∉ spec.batchSources) :
    w.byWays spec record n =
      (spec.batchSources.map fun b =>
        (w.operators.registered b).count record * (spec.ways b n).ncard).sum := by
  refine congrArg _ (List.map_congr_left fun b hb => ?_)
  have other : n ≠ b := fun same => no_source (same ▸ hb)
  rw [PhaseSpec.waysBy_transform transforms other,
    Set.ncard_image_of_injective _ (List.append_left_injective [n])]

omit [DecidableEq Json] in
theorem mainRecords_stream (h : w.PassesOn spec) (found : w.phase.stage? n = some s)
    {elements : List Tagged}
    (entry : r.get? n = some ((Content.stream elements).visited w.phase s).emitted) :
    r.mainRecords n = elements.filterMap (Tagged.outputOn none) := by
  have unported := h.unported s (h.stage?.mp found).1
  have whole : s.portNames = [] := Stage.portNames_eq_nil.mpr unported
  simp [Registry.mainRecords, Registry.outputOf, entry, Content.visited, publish,
    Routing.channels, Routing.outputOf, whole, StageOutput.main?]

omit [DecidableEq Json] in
theorem transformed_eq (h : w.PassesOn spec) (found : w.phase.stage? n = some s)
    (records : List Json) : w.operators.transformed s.name records = records.map .plain := by
  simp [Operators.transformed, h.identity s (h.stage?.mp found).1]

/-- What comes out of a stage comes by the ways to it. -/
theorem count_output (h : w.PassesOn spec) (shape : w.phase.graph = some g)
    (ran : w.schedule.result = .ok out) :
    ∀ n ∈ g.order, (out.registry.mainRecords n).count record = w.byWays spec record n := by
  refine h.accepted.inputs_induction shape fun n listed ih => ?_
  -- Stages of other phases and sinks have no output, and no way goes on from them.
  cases found : w.phase.stage? n with
  | none =>
    have unlisted (s : Stage) (hs : s ∈ spec.stages) : s.name ≠ n := by
      intro named
      cases found.symm.trans (h.stage?.mpr ⟨hs, named⟩)
    have no_source : n ∉ spec.batchSources := by
      intro source
      obtain ⟨s, hs, named⟩ := List.mem_map.mp source
      exact unlisted s (List.mem_filter.mp hs).1 named
    have no_transform : ¬ spec.Transforms n := fun ⟨s, hs, named, _⟩ => unlisted s hs named
    rw [mainRecords_external h.accepted shape ran found, byWays_other no_source no_transform,
      List.count_nil]
  | some s =>
    obtain ⟨-, c, made, entry, -⟩ := schedule_content h.accepted shape ran listed found
    obtain ⟨source, transform⟩ := h.kind_of found
    obtain ⟨hs, rfl⟩ := h.stage?.mp found
    rcases h.kinds s hs with kind | kind | kind
    · obtain ⟨elements, registered, rfl⟩ : ∃ elements,
          w.operators.sources.get? s.name = some elements ∧ .stream elements = c := by
        simpa [content?, kind] using made
      rw [byWays_source h (source.mpr kind) (by simp [transform, kind]),
        h.mainRecords_stream found entry]
      simp [Operators.registered, registered]
    · obtain rfl : .stream (w.operators.transformed s.name (w.gathered s out.registry)) = c := by
        simpa [content?, kind] using made
      rw [byWays_transform (transform.mpr kind) (by simp [source, kind]),
        h.mainRecords_stream found entry, h.transformed_eq found,
        ← h.count_gathered shape ran listed ih]
      simp [List.filterMap_map, Function.comp_def, Tagged.plain, Tagged.outputOn]
    · obtain rfl : .write (.write s.name (w.gathered s out.registry)
          (w.operators.sinkFailures.get? s.name)) = c := by
        simpa [content?, kind] using made
      rw [byWays_other (by simp [source, kind]) (by simp [transform, kind])]
      have silent : out.registry.mainRecords s.name = [] := by
        simp [Registry.mainRecords, Registry.outputOf, entry, Content.visited, defer,
          Emitted.empty, StageOutput.main?]
      rw [silent, List.count_nil]

end PassesOn

/-- The task that a visit puts off is the only one for its stage. -/
theorem filter_tasks (accepted : w.phase.Accepted) (shape : w.phase.graph = some g)
    (ran : w.schedule.result = .ok out) {t : SinkTask} (listed : n ∈ g.order)
    (task : w.tasksOf out.registry n = [t]) : out.tasks.filter (·.stage = t.stage) = [t] := by
  have ht : t ∈ out.tasks := by
    rw [(schedule_explained accepted shape ran).tasks, List.mem_flatMap]
    exact ⟨n, listed, by simp [task]⟩
  exact (schedule_tasks accepted shape ran).apart.filter_stage ht

/--
**A record comes to a sink by each way once.** In a phase of sources, transformations and sinks that
pass every record on, a walk that succeeds puts off one task for each sink. It carries a record as
often as there are ways to the sink from sources, each with a time that the record is registered.
-/
theorem sink_counts_ways (w : Walk) (spec : PhaseSpec) (passes : w.PassesOn spec) (out : Scheduled)
    (ran : w.schedule.result = .ok out) (s : Stage) (declared : s ∈ spec.stages)
    (kind : s.kind = .sink) :
    (∀ b, (spec.ways b s.name).Finite) ∧
      ∃ t, out.tasks.filter (·.stage = s.name) = [t] ∧
        ∀ [DecidableEq Json] (record : Json), t.records.count record =
          (spec.batchSources.map fun b =>
            (w.operators.registered b).count record * (spec.ways b s.name).ncard).sum := by
  obtain ⟨g, shape, -, built⟩ := passes.builtOf
  have accepted := passes.accepted
  have found : w.phase.stage? s.name = some s := passes.stage?.mpr ⟨declared, rfl⟩
  have listed : s.name ∈ g.order := by
    obtain ⟨g', sorted, built'⟩ := Phase.ofSpec_ok_iff.mp passes.read
    obtain rfl := Option.some.inj (shape.symm.trans (Phase.build_ok built').graph_eq)
    exact (Graph.mem_order sorted).mpr (.inl (List.mem_map_of_mem declared))
  obtain ⟨-, c, made, -, task⟩ := schedule_content accepted shape ran listed found
  obtain rfl : .write (.write s.name (w.gathered s out.registry)
      (w.operators.sinkFailures.get? s.name)) = c := by
    simpa [content?, kind] using made
  have alone := filter_tasks accepted shape ran listed task
  rw [SinkTask.write_stage] at alone
  refine ⟨fun b => passes.finite_ways shape b s.name listed, _, alone, fun record => ?_⟩
  rw [SinkTask.write_records]
  refine passes.count_gathered shape ran listed fun m reads => ?_
  have earlier := accepted.mem_order_of_inputs shape listed reads
  exact passes.count_output shape ran m earlier

/-- A source that two transformations pass on to one sink. -/
def diamond : PhaseSpec where
  stages :=
    [.plain "a" .batchSource, .plain "t" .transform, .plain "u" .transform, .plain "k" .sink]
  connections := [("a", "t"), ("a", "u"), ("t", "k"), ("u", "k")]

/-- The phase of these stages. -/
def diamondPhase : Phase where
  stages :=
    [("a", .plain "a" .batchSource), ("k", .plain "k" .sink), ("t", .plain "t" .transform),
      ("u", .plain "u" .transform)]
  graph := some ⟨["a", "t", "u", "k"], diamond.connections, ["a", "u", "t", "k"]⟩

/-- A walk over it, with a record in the source. -/
def diamondWalk : Walk :=
  { bare diamondPhase with
    operators := { Operators.empty with sources := [("a", [.plain .null])] } }

theorem diamond_passesOn : diamondWalk.PassesOn diamond where
  read := by cbv
  kinds := by decide
  unported := by decide
  identity _ _ := rfl

/-- The sink has got the record twice, so there are two ways. -/
theorem sink_counts_ways_diamond :
    ∃ out t, diamondWalk.schedule.result = .ok out ∧ out.tasks.filter (·.stage = "k") = [t] ∧
      t.records = [.null, .null] ∧ (diamond.ways "a" "k").ncard = 2 := by
  have ran : diamondWalk.schedule.result = .ok ⟨_, [.write "k" [.null, .null] none]⟩ := rfl
  obtain ⟨-, t, alone, counts⟩ := sink_counts_ways diamondWalk diamond diamond_passesOn _ ran
    (.plain "k" .sink) (by decide) rfl
  obtain rfl : .write "k" [.null, .null] none = t := List.singleton_injective alone
  refine ⟨_, _, ran, alone, rfl, ?_⟩
  have := Classical.decEq Json
  have registered : diamondWalk.operators.registered "a" = [.null] := rfl
  have sources : diamond.batchSources = ["a"] := rfl
  have records : (SinkTask.write "k" [.null, .null] none).records = [.null, .null] := rfl
  have two := counts .null
  rw [records, sources, List.map_singleton, List.sum_singleton, registered] at two
  simpa [Stage.plain] using two.symm

end Walk

end Stageflow
