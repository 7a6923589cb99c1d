import Stageflow.Proofs.Races

/-!
# Listing order

A declaration lists its stages and connections in some order, and may repeat connections. Neither
shows in a walk: `schedule_listing` compares the walks over two declarations of one phase.

The phases of such declarations are `Alike`: they may differ in the order of their graphs, which
only says when a stage is visited.
-/

namespace Stageflow

namespace Graph

variable {g g' : Graph}

/-- Two graphs with the same nodes and connections. -/
structure Same (g g' : Graph) : Prop where
  nodes : ∀ n, n ∈ g.nodes ↔ n ∈ g'.nodes
  linked : ∀ a b, Linked g.edges a b ↔ Linked g'.edges a b

namespace Same

theorem inputs (h : Same g g') (n : Name) : g.inputs n = g'.inputs n :=
  Names.sorted_congr fun a => by rw [mem_producers, mem_producers, h.linked]

theorem outputs (h : Same g g') (n : Name) : g.outputs n = g'.outputs n :=
  Names.sorted_congr fun a => by rw [mem_readers, mem_readers, h.linked]

theorem contains (h : Same g g') (n : Name) : g.contains n = g'.contains n := by
  simp only [Graph.contains, h.nodes]

theorem caches (h : Same g g') (n : Name) : g.caches n = g'.caches n := by
  have inputs : g.inputs = g'.inputs := funext h.inputs
  have outputs : g.outputs = g'.outputs := funext h.outputs
  unfold Graph.caches cacheReason inDegree
  rw [inputs, outputs]

theorem order_perm (h : Same g g') (ordered : g.Ordered) (ordered' : g'.Ordered) :
    g.order.Perm g'.order := by
  refine (List.perm_ext_iff_of_nodup ordered.nodup ordered'.nodup).mpr fun n => ?_
  rw [ordered.covers, ordered'.covers, h.nodes]

end Same

theorem build_same {stages stages' : List Name} {connections connections' : List Edge}
    (built : build stages connections = .ok g) (built' : build stages' connections' = .ok g')
    (same_stages : ∀ n, n ∈ stages ↔ n ∈ stages')
    (same_connections : ∀ e, e ∈ connections ↔ e ∈ connections') : Same g g' := by
  obtain ⟨nodes, edges, -⟩ := build_ok built
  obtain ⟨nodes', edges', -⟩ := build_ok built'
  refine ⟨fun n => ?_, fun a b => ?_⟩
  · simp only [nodes, nodes', mem_nodesOf, Linked, same_stages, same_connections]
  · simp only [edges, edges', Linked, mem_distinct, same_connections]

end Graph

namespace Phase

variable {p q : Phase}

/-- Two phases that no visit can tell apart. -/
structure Alike (p q : Phase) : Prop where
  stage? : ∀ n, p.stage? n = q.stage? n
  inputs : ∀ n, p.inputs n = q.inputs n
  outputs : ∀ n, p.outputs n = q.outputs n
  isSource : ∀ n, p.isSource n = q.isSource n
  isSink : ∀ n, p.isSink n = q.isSink n
  caches : ∀ n, p.caches n = q.caches n

theorem Alike.symm (h : Alike p q) : Alike q p where
  stage? n := (h.stage? n).symm
  inputs n := (h.inputs n).symm
  outputs n := (h.outputs n).symm
  isSource n := (h.isSource n).symm
  isSink n := (h.isSink n).symm
  caches n := (h.caches n).symm

theorem alike_of_same {g g' : Graph} (shape : p.graph = some g) (shape' : q.graph = some g')
    (same : Graph.Same g g') (stages : ∀ n, p.stage? n = q.stage? n) : Alike p q where
  stage? := stages
  inputs n := by simp [inputs, shape, shape', same.inputs]
  outputs n := by simp [outputs, shape, shape', same.outputs]
  isSource n := by simp [isSource, shape, shape', same.contains, Graph.inDegree, same.inputs]
  isSink n := by simp [isSink, shape, shape', same.contains, Graph.outDegree, same.outputs]
  caches n := by simp [caches, shape, shape', same.caches]

theorem stage?_congr {stages stages' : List Stage} {graph graph' : Option Graph}
    (built : BuiltOf stages graph p) (built' : BuiltOf stages' graph' q)
    (same : ∀ s, s ∈ stages ↔ s ∈ stages') (n : Name) : p.stage? n = q.stage? n :=
  Option.ext fun s => by rw [built.stage?_eq_some, built'.stage?_eq_some, same]

end Phase

namespace Walk

open Phase

/-- The same walk over another phase. -/
def on (w : Walk) (p : Phase) : Walk := { w with phase := p }

variable (w : Walk) {p q : Phase}

theorem keyInputs_on (s : Stage) (inputs : List (Name × Dataset Json)) :
    (w.on p).keyInputs s inputs = w.keyInputs s inputs := by
  induction inputs with
  | nil => rfl
  | cons i inputs ih =>
    unfold keyInputs
    rw [ih]
    rfl

theorem joinInputs_on (s : Stage) (inputs : List (Name × Dataset Json)) :
    (w.on p).joinInputs s inputs = w.joinInputs s inputs := by
  unfold joinInputs
  rw [keyInputs_on]
  rfl

theorem routed_alike (h : Alike p q) (s : Stage) : (w.on p).routed s = (w.on q).routed s := by
  funext combined
  simp only [routed, route, Taps.ofStage, Taps.hasReader, on, h.stage?, h.outputs, h.caches]

theorem computed_alike (h : Alike p q) (s : Stage) : (w.on p).computed s = (w.on q).computed s := by
  unfold computed
  simp only [on, h.caches]

theorem readSource_alike (h : Alike p q) (s : Stage) :
    (w.on p).readSource s = (w.on q).readSource s := by
  have boundary : (w.on p).phase.isSource s.name = (w.on q).phase.isSource s.name :=
    h.isSource s.name
  unfold readSource checkSource
  rw [boundary, w.routed_alike h]
  rfl

theorem producersInPhase_alike (h : Alike p q) (n : Name) :
    producersInPhase p n = producersInPhase q n := by
  simp only [producersInPhase, h.inputs, h.stage?]

theorem gather_alike (h : Alike p q) (s : Stage) (r : Registry) : gather p s r = gather q s r := by
  simp only [gather, h.inputs, h.stage?]

theorem visitWith_alike (h : Alike p q) (s : Stage) (inputs : List (Name × Dataset Json))
    (input : Dataset Json) :
    (w.on p).visitWith s inputs input = (w.on q).visitWith s inputs input := by
  have boundary : (w.on p).phase.isSink s.name = (w.on q).phase.isSink s.name := h.isSink s.name
  unfold visitWith
  rw [boundary, joinInputs_on, joinInputs_on, w.routed_alike h, w.computed_alike h]
  rfl

theorem visit_alike (h : Alike p q) (s : Stage) (r : Registry) :
    (w.on p).visit s r = (w.on q).visit s r := by
  have inputs : (w.on p).phase.inputs s.name = (w.on q).phase.inputs s.name := h.inputs s.name
  have producers : producersInPhase (w.on p).phase s.name =
      producersInPhase (w.on q).phase s.name := producersInPhase_alike h s.name
  have gathered : gather (w.on p).phase s r = gather (w.on q).phase s r := gather_alike h s r
  unfold visit transformErrors publishAlerts
  rw [inputs, producers, gathered, w.routed_alike h, w.readSource_alike h]
  simp only [w.visitWith_alike h]
  rfl

variable {w} {g g' : Graph} {out : Scheduled}

/-- What a walk over one phase has left, a walk over a phase alike leaves as well. -/
theorem schedule_alike (alike : Alike p q) (accepted : p.Accepted) (accepted' : q.Accepted)
    (shape : p.graph = some g) (shape' : q.graph = some g') (orders : g.order.Perm g'.order)
    (ran : (w.on p).schedule.result = .ok out) :
    ∃ out', (w.on q).schedule.result = .ok out' ∧
      (∀ n, out.registry.get? n = out'.registry.get? n) ∧
      out.registry.stages.Perm out'.registry.stages ∧ out.tasks.Perm out'.tasks := by
  have left := schedule_explained (w := w.on p) accepted shape ran
  have solves : (w.on q).Solves g'.order out.registry := by
    intro n hn s found
    rw [← visit_alike w alike]
    exact left.solves n (orders.mem_iff.mpr hn) s ((alike.stage? n).trans found)
  have walkable : Walkable q g'.order := walkable_order accepted' shape'
  obtain ⟨out', walked, agree⟩ := visitAll_of_solves (w := w.on q) walkable
    (List.nil_append g'.order).symm (explained_nil _) solves (by simp)
  have ran' : (w.on q).schedule.result = .ok out' := schedule_ok.mpr ⟨g', shape', walked⟩
  have right := schedule_explained (w := w.on q) accepted' shape' ran'
  have stages : out.registry.stages.Perm out'.registry.stages := by
    rw [left.stages, right.stages]
    simp only [on, alike.stage?]
    exact orders.filter _
  have entries (n : Name) : out.registry.get? n = out'.registry.get? n := by
    by_cases listed : n ∈ out'.registry.stages
    · obtain ⟨visited, known⟩ := List.mem_filter.mp (right.stages ▸ listed)
      exact (agree n visited known).symm
    · have unlisted : n ∉ out.registry.stages := fun hn => listed (stages.mem_iff.mp hn)
      rw [Registry.get?_eq_none.mpr listed, Registry.get?_eq_none.mpr unlisted]
  have tasks : (w.on p).tasksOf out.registry = (w.on q).tasksOf out'.registry := by
    funext n
    have same (s : Stage) : (w.on p).visit s out.registry = (w.on q).visit s out'.registry := by
      rw [visit_alike w alike]
      exact visit_congr fun m _ _ => entries m
    have found : (w.on p).phase.stage? n = (w.on q).phase.stage? n := alike.stage? n
    simp only [tasksOf, found, same]
  refine ⟨out', ran', entries, stages, ?_⟩
  rw [left.tasks, right.tasks, tasks]
  exact orders.flatMap_right _

/--
**The order of a listing does not matter.** Over two declarations of the same stages and connections
a walk succeeds on both or on neither, whatever its races. If it succeeds, it leaves the same
channels for every stage, visits the same stages and puts off the same tasks, in whatever order.
-/
theorem schedule_listing (w : Walk) (a b : PhaseSpec) (p q : Phase) (read : Phase.ofSpec a = .ok p)
    (read' : Phase.ofSpec b = .ok q) (same_stages : ∀ s, s ∈ a.stages ↔ s ∈ b.stages)
    (same_connections : ∀ e, e ∈ a.connections ↔ e ∈ b.connections) (race : Race) :
    ((∃ x, (w.on p).schedule.result = .ok x) ↔
        ∃ y, ((w.racing race).on q).schedule.result = .ok y) ∧
      ∀ x y, (w.on p).schedule.result = .ok x →
        ((w.racing race).on q).schedule.result = .ok y →
        (∀ n, x.registry.get? n = y.registry.get? n) ∧
        x.registry.stages.Perm y.registry.stages ∧ x.tasks.Perm y.tasks := by
  obtain ⟨g, sorted, built⟩ := ofSpec_ok_iff.mp read
  obtain ⟨g', sorted', built'⟩ := ofSpec_ok_iff.mp read'
  have shape : p.graph = some g := (Phase.build_ok built).graph_eq
  have shape' : q.graph = some g' := (Phase.build_ok built').graph_eq
  have same_names (n : Name) : n ∈ a.stages.map (·.name) ↔ n ∈ b.stages.map (·.name) := by
    simp only [List.mem_map, same_stages]
  have same : Graph.Same g g' := Graph.build_same sorted sorted' same_names same_connections
  have alike : Alike p q := alike_of_same shape shape' same
    (stage?_congr (Phase.build_ok built) (Phase.build_ok built') same_stages)
  have accepted := accepted_ofSpec read
  have accepted' := accepted_ofSpec read'
  have orders := same.order_perm (accepted.ordered shape) (accepted'.ordered shape')
  have raced (y : Scheduled) : ((w.racing race).on q).schedule.result = .ok y ↔
      (w.on q).schedule.result = .ok y := schedule_ok_racing (w.on q) race y
  simp only [raced]
  refine ⟨⟨?_, ?_⟩, fun x y ran ran' => ?_⟩
  · rintro ⟨x, ran⟩
    obtain ⟨y, ran', -⟩ := schedule_alike alike accepted accepted' shape shape' orders ran
    exact ⟨y, ran'⟩
  · rintro ⟨y, ran'⟩
    obtain ⟨x, ran, -⟩ :=
      schedule_alike alike.symm accepted' accepted shape' shape orders.symm ran'
    exact ⟨x, ran⟩
  · obtain ⟨y', again, agree⟩ := schedule_alike alike accepted accepted' shape shape' orders ran
    obtain rfl := Except.ok.inj (ran'.symm.trans again)
    exact agree

/-- Two sources and a sink that reads both. -/
def twoSources : PhaseSpec :=
  ⟨[.plain "a" .batchSource, .plain "b" .batchSource, .plain "s" .sink], [("a", "s"), ("b", "s")]⟩

/-- The same from behind, with a connection given twice. -/
def twoSourcesRelisted : PhaseSpec :=
  ⟨[.plain "s" .sink, .plain "b" .batchSource, .plain "a" .batchSource],
    [("b", "s"), ("a", "s"), ("b", "s")]⟩

/-- A walk in which each of the sources has a record. -/
def twoSourcesWalk : Walk where
  operators :=
    { Operators.empty with sources := [("a", [.plain .null]), ("b", [.plain (.bool true)])] }
  plugins := .empty
  phase := ⟨[], none⟩
  sourceKind := .batch
  macros := ⟨"n", ⟨0, 0⟩, []⟩
  hints := []
  race _ := 0

theorem schedule_listing_relisted :
    let stages : Table Stage :=
      [("a", .plain "a" .batchSource), ("b", .plain "b" .batchSource), ("s", .plain "s" .sink)]
    let edges : List Edge := [("a", "s"), ("b", "s")]
    let p : Phase := ⟨stages, some ⟨["a", "b", "s"], edges, ["b", "a", "s"]⟩⟩
    let q : Phase := ⟨stages, some ⟨["s", "b", "a"], edges.reverse, ["a", "b", "s"]⟩⟩
    Phase.ofSpec twoSources = .ok p ∧ Phase.ofSpec twoSourcesRelisted = .ok q ∧
      ∃ x y, (twoSourcesWalk.on p).schedule.result = .ok x ∧
        (twoSourcesWalk.on q).schedule.result = .ok y ∧
        x.registry.stages = ["b", "a", "s"] ∧ (∀ n, x.registry.get? n = y.registry.get? n) ∧
        x.tasks = [.write "s" [.null, .bool true] none] ∧ x.tasks.Perm y.tasks := by
  intro stages edges p q
  have read : Phase.ofSpec twoSources = .ok p := by cbv
  have read' : Phase.ofSpec twoSourcesRelisted = .ok q := by cbv
  have same_stages (s : Stage) : s ∈ twoSources.stages ↔ s ∈ twoSourcesRelisted.stages := by
    simp only [twoSources, twoSourcesRelisted, List.mem_cons, List.not_mem_nil, or_false]
    tauto
  have same_connections (e : Edge) :
      e ∈ twoSources.connections ↔ e ∈ twoSourcesRelisted.connections := by
    simp only [twoSources, twoSourcesRelisted, List.mem_cons, List.not_mem_nil, or_false]
    tauto
  obtain ⟨both, agree⟩ := schedule_listing twoSourcesWalk twoSources twoSourcesRelisted p q
    read read' same_stages same_connections twoSourcesWalk.race
  have ran : (twoSourcesWalk.on p).schedule.result =
      .ok ⟨[("b", .main ⟨[.bool true], true⟩), ("a", .main ⟨[.null], true⟩), ("s", .empty)],
        [.write "s" [.null, .bool true] none]⟩ := rfl
  obtain ⟨y, ran'⟩ := both.mp ⟨_, ran⟩
  obtain ⟨entries, -, tasks⟩ := agree _ y ran ran'
  exact ⟨read, read', _, y, ran, ran', rfl, entries, rfl, tasks⟩

end Walk

end Stageflow
