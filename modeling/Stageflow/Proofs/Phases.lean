import Stageflow.Phase
import Stageflow.Proofs.Order

/-!
# Accepted phases

What a phase that was accepted guarantees to a walk:

* `Accepted.name_eq`: a stage is found under its own name;
* `Accepted.producers_first`: its order has the producers of a stage before it;
* `Accepted.routed`: a reader of records finds a port if the stage it reads has any.
-/

namespace Stageflow.Phase

open Stageflow.Graph (Linked mem_producers mem_readers)

variable {stages : List Stage} {graph : Option Graph} {p : Phase} {n m : Name} {s t : Stage}

theorem repeated?_eq_none {ss : List Stage} {before : List Name} :
    repeated? ss before = none ↔ (ss.map (·.name)).Nodup ∧ ∀ s ∈ ss, s.name ∉ before := by
  induction ss generalizing before with
  | nil => simp [repeated?]
  | cons s ss ih =>
    unfold repeated?
    split
    · next again => simp [again]
    · next fresh =>
      rw [ih, List.map_cons, List.nodup_cons, List.mem_map]
      grind

/-- Stages with distinct names are found under them. -/
theorem stage?_ofList (distinct : (stages.map (·.name)).Nodup) :
    stage? ⟨Table.ofList (stages.map fun s => (s.name, s)), graph⟩ n = some s ↔
      s ∈ stages ∧ s.name = n := by
  have pairs : ((stages.map fun s => (s.name, s)).map (·.1)).Nodup := by
    simpa [Function.comp_def] using distinct
  rw [stage?, Table.get?_ofList pairs, List.mem_map]
  constructor
  · rintro ⟨s', hs, same⟩
    obtain ⟨rfl, rfl⟩ := Prod.mk.inj same
    exact ⟨hs, rfl⟩
  · rintro ⟨hs, rfl⟩
    exact ⟨s, hs, rfl⟩

/-- What is known of a phase that was built of some stages. -/
structure BuiltOf (stages : List Stage) (graph : Option Graph) (p : Phase) : Prop where
  graph_eq : p.graph = graph
  distinct : (stages.map (·.name)).Nodup
  stage?_eq_some : ∀ n s, p.stage? n = some s ↔ s ∈ stages ∧ s.name = n
  routed : ∀ n t, p.stage? n = some t → p.unrouted t = []

theorem build_ok (h : build stages graph = .ok p) : BuiltOf stages graph p := by
  unfold build at h
  split at h
  · cases h
  · next unrepeated =>
    dsimp only at h
    split at h
    · cases h
    · next routes =>
      obtain rfl := Except.ok.inj h
      have names : (stages.map (·.name)).Nodup := (repeated?_eq_none.mp unrepeated).1
      refine ⟨rfl, names, fun n s => stage?_ofList names, fun n t found => ?_⟩
      have none := List.findSome?_eq_none_iff.mp routes t (Table.mem_values_of_get? found)
      simpa using none

/-- A phase that was built, over a graph that was built if there is one. -/
def Accepted (p : Phase) : Prop :=
  ∃ stages graph, build stages graph = .ok p ∧
    ∀ g, graph = some g → ∃ names connections, Graph.build names connections = .ok g

theorem ofSpec_ok_iff {spec : PhaseSpec} :
    ofSpec spec = .ok p ↔
      ∃ g, Graph.build (spec.stages.map (·.name)) spec.connections = .ok g ∧
        build spec.stages (some g) = .ok p := by
  unfold ofSpec
  cases Graph.build (spec.stages.map (·.name)) spec.connections with
  | error e => simp [bind, Except.bind]
  | ok g => simp [bind, Except.bind]

theorem accepted_ofSpec {spec : PhaseSpec} (h : ofSpec spec = .ok p) : p.Accepted := by
  obtain ⟨g, built, accepted⟩ := ofSpec_ok_iff.mp h
  refine ⟨spec.stages, some g, accepted, fun g' same => ?_⟩
  obtain rfl := Option.some.inj same
  exact ⟨_, _, built⟩

theorem unrouted_eq_nil :
    p.unrouted t = [] ↔ t.ports ≠ [] →
      ∀ n ∈ p.outputs t.name, ∀ s, p.stage? n = some s → readsMain t s = false := by
  unfold unrouted
  by_cases bare : t.ports = []
  · simp [bare]
  · rw [if_neg (by simpa using bare), List.filter_eq_nil_iff]
    simp only [ne_eq, bare, not_false_eq_true, true_imp_iff]
    refine forall₂_congr fun n _ => ?_
    cases p.stage? n <;> simp

theorem mem_inputs : m ∈ p.inputs n ↔ ∃ g, p.graph = some g ∧ Linked g.edges m n := by
  cases h : p.graph with
  | none => simp [inputs, h]
  | some g => simp [inputs, h, Graph.inputs, Names.mem_sorted, mem_producers]

theorem mem_outputs : m ∈ p.outputs n ↔ ∃ g, p.graph = some g ∧ Linked g.edges n m := by
  cases h : p.graph with
  | none => simp [outputs, h]
  | some g => simp [outputs, h, Graph.outputs, Names.mem_sorted, mem_readers]

theorem mem_outputs_iff : n ∈ p.outputs m ↔ m ∈ p.inputs n := by
  rw [mem_outputs, mem_inputs]

theorem inputs_nodup (p : Phase) (n : Name) : (p.inputs n).Nodup := by
  cases h : p.graph with
  | none => simp [inputs, h]
  | some g => simpa [inputs, h, Graph.inputs] using Names.sorted_nodup (Graph.producers g.edges n)

theorem inputs_ascending (p : Phase) (n : Name) : (p.inputs n).Pairwise (· < ·) := by
  cases h : p.graph with
  | none => simp [inputs, h]
  | some g => simpa [inputs, h, Graph.inputs] using Names.sorted_ascending _

namespace Accepted

theorem name_eq (h : p.Accepted) (found : p.stage? n = some s) : s.name = n := by
  obtain ⟨stages, graph, built, -⟩ := h
  exact (((build_ok built).stage?_eq_some n s).mp found).2

theorem ordered (h : p.Accepted) {g : Graph} (shape : p.graph = some g) : g.Ordered := by
  obtain ⟨stages, graph, built, graphs⟩ := h
  obtain ⟨names, connections, sorted⟩ := graphs g ((build_ok built).graph_eq.symm.trans shape)
  exact (Graph.build_ok sorted).2.2

theorem producers_first (h : p.Accepted) {g : Graph} (shape : p.graph = some g)
    {before after : List Name} (split : g.order = before ++ n :: after) (hm : m ∈ p.inputs n) :
    m ∈ before := by
  obtain ⟨g', same, linked⟩ := mem_inputs.mp hm
  obtain rfl := Option.some.inj (same.symm.trans shape)
  exact (h.ordered shape).forward before n after split m linked

theorem mem_order_of_inputs (h : p.Accepted) {g : Graph} (shape : p.graph = some g)
    (listed : n ∈ g.order) (reads : m ∈ p.inputs n) : m ∈ g.order := by
  obtain ⟨before, after, split⟩ := List.append_of_mem listed
  rw [split]
  exact List.mem_append_left _ (h.producers_first shape split reads)

/-- What holds of a stage if it holds of all that the stage reads holds of every node. -/
theorem inputs_induction (h : p.Accepted) {g : Graph} (shape : p.graph = some g)
    {P : Name → Prop} (step : ∀ n ∈ g.order, (∀ m ∈ p.inputs n, P m) → P n) :
    ∀ n ∈ g.order, P n := by
  intro n
  induction place : g.order.idxOf n using Nat.strong_induction_on generalizing n with
  | _ i ih =>
    intro listed
    refine step n listed fun m reads => ?_
    have earlier := h.mem_order_of_inputs shape listed reads
    obtain ⟨g', same, linked⟩ := mem_inputs.mp reads
    obtain rfl := Option.some.inj (same.symm.trans shape)
    exact ih _ (place ▸ (h.ordered shape).idxOf_lt linked listed) m rfl earlier

theorem routed (h : p.Accepted) (producer : p.stage? m = some t) (reader : p.stage? n = some s)
    (reads : m ∈ p.inputs n) (some_port : t.ports ≠ []) : readsMain t s = false := by
  obtain ⟨stages, graph, built, -⟩ := id h
  have none := (build_ok built).routed m t producer
  rw [unrouted_eq_nil, h.name_eq producer] at none
  exact none some_port n (mem_outputs_iff.mpr reads) s reader

end Accepted

end Stageflow.Phase
