import Stageflow.Proofs.SideChannels

/-!
# A new reader

A stage is added to a phase, with connections into it and none out of it. The walk over the new
phase may go by another order, keep other datasets and tap other channels:

* `content?_congr`: what a visit makes depends on what its stage reads and has registered;
* `Extends.content_eq`: so the stages that were there before make what they made;
* `new_reader_keeps`: their channels hold the same records, and their writes are put off again.
-/

namespace Stageflow

/-! ## Registrations of one stage -/

theorem Operators.joinStep_congr {ε : Type} {ops ops' : Operators}
    (partitions : ops.defaultPartitions = ops'.defaultPartitions) :
    @joinStep ops ε = @joinStep ops' ε := by
  funext plan previous rows step keyed
  unfold joinStep join
  rw [partitions]

theorem Operators.executeJoin_congr {ops ops' : Operators}
    (partitions : ops.defaultPartitions = ops'.defaultPartitions) :
    ops.executeJoin = ops'.executeJoin := by
  funext plan keyed
  have run (steps : List JoinStep) (previous : List Name) (rows : Option Joined) :
      ops.executeSteps plan keyed steps previous rows =
        ops'.executeSteps plan keyed steps previous rows := by
    induction steps generalizing previous rows with
    | nil => rfl
    | cons step steps ih =>
      unfold executeSteps
      simp only [joinStep_congr partitions, ih]
  exact run plan.steps [] none

namespace Walk

/-- Two walks have the same registered for a stage. -/
structure SameAt (w w' : Walk) (n : Name) : Prop where
  sources : w.operators.sources.get? n = w'.operators.sources.get? n
  transforms : w.operators.transforms.get? n = w'.operators.transforms.get? n
  errorTransforms : w.operators.errorTransforms.get? n = w'.operators.errorTransforms.get? n
  aggregations : w.operators.aggregations.get? n = w'.operators.aggregations.get? n
  joinKeys : w.operators.joinKeys.get? n = w'.operators.joinKeys.get? n
  inputJoinKeys : w.operators.inputJoinKeys.get? n = w'.operators.inputJoinKeys.get? n
  sinkFailures : w.operators.sinkFailures.get? n = w'.operators.sinkFailures.get? n
  partitions : w.operators.defaultPartitions = w'.operators.defaultPartitions
  computes : w.plugins.computes.get? n = w'.plugins.computes.get? n
  windowers : w.plugins.windowers.get? n = w'.plugins.windowers.get? n
  sinks : w.plugins.sinks.get? n = w'.plugins.sinks.get? n
  joins : (w.plugins.joiners.get? n).map (·.config) = (w'.plugins.joiners.get? n).map (·.config)

namespace SameAt

variable {w w' : Walk} {n : Name}

theorem keyed? (same : w.SameAt w' n) (inputs : List (Name × List Json)) :
    w.operators.keyed? n inputs = w'.operators.keyed? n inputs := by
  induction inputs with
  | nil => rfl
  | cons x inputs ih =>
    unfold Operators.keyed? Operators.keyFunction?
    rw [same.inputJoinKeys, same.joinKeys, ih]

theorem joined? (same : w.SameAt w' n) (inputs : List (Name × List Json)) :
    (do
      let joiner ← w.plugins.joiners.get? n
      let keyed ← w.operators.keyed? n inputs
      (w.operators.joined? n joiner.config keyed).map Content.records) =
    (do
      let joiner ← w'.plugins.joiners.get? n
      let keyed ← w'.operators.keyed? n inputs
      (w'.operators.joined? n joiner.config keyed).map Content.records) := by
  have joins := same.joins
  rw [same.keyed?]
  unfold Operators.joined?
  rw [Operators.executeJoin_congr same.partitions]
  cases found : w.plugins.joiners.get? n <;> cases found' : w'.plugins.joiners.get? n <;> simp_all

theorem transformed (same : w.SameAt w' n) :
    w.operators.transformed n = w'.operators.transformed n := by
  funext records
  unfold Operators.transformed
  rw [same.transforms]

theorem errorsTransformed (same : w.SameAt w' n) :
    w.operators.errorsTransformed n = w'.operators.errorsTransformed n := by
  funext errors
  unfold Operators.errorsTransformed
  rw [same.errorTransforms]

theorem aggregated? (same : w.SameAt w' n) :
    w.operators.aggregated? n = w'.operators.aggregated? n := by
  funext records
  unfold Operators.aggregated?
  rw [same.aggregations]

end SameAt

variable {w w' : Walk} {s : Stage} {r r' : Registry} {n : Name}

theorem gathered_eq (s : Stage) (r : Registry) :
    w.gathered s r = (heard w.phase s r).flatMap (·.2) := by
  rw [gathered, heard, List.flatMap_map]

end Walk

/-! ## Channels whatever is kept of them -/

/-- The items that a content has for a side channel. -/
def Content.side {α : Type} (k : SideChannel α) : Content → Option (List α)
  | stream elements => some (elements.filterMap k.element?)
  | _ => none

/-- A side channel that is read has the same items in every phase. -/
theorem SideChannel.Routed.items {α : Type} {k : SideChannel α} (routed : k.Routed) {p : Phase}
    (accepted : p.Accepted) {s : Stage} (read : p.ReadBy s.name k.reader) (c : Content) :
    (k.of (c.visited p s).emitted).map (·.items) = c.side k := by
  rw [routed]
  cases c with
  | stream elements =>
    simp [Routing.tapped, accepted.hasReader_iff.mpr read, Content.side]
  | _ => rfl

namespace Phase

/-- One phase has the stages and connections of another, a new stage, and connections into it. -/
structure AddsReader (p q : Phase) (g g' : Graph) (n : Name) : Prop where
  new : p.stage? n = none
  unlisted : n ∉ g.nodes
  added : (q.stage? n).isSome
  stages : ∀ m, m ≠ n → q.stage? m = p.stage? m
  nodes : ∀ m ∈ g.nodes, m ∈ g'.nodes
  edges : ∀ e ∈ g.edges, e ∈ g'.edges
  linked : ∀ a b, (a, b) ∈ g'.edges → (a, b) ∈ g.edges ∨ b = n ∧ (p.stage? a).isSome

variable {p q : Phase} {g g' : Graph} {m n a : Name}

namespace AddsReader

theorem inputs (adds : AddsReader p q g g' n) (shape : p.graph = some g)
    (shape' : q.graph = some g') (other : m ≠ n) : q.inputs m = p.inputs m := by
  simp only [Phase.inputs, shape, shape', Option.elim_some, Graph.inputs]
  refine Names.sorted_congr fun a => ?_
  rw [Graph.mem_producers, Graph.mem_producers]
  constructor
  · intro later
    rcases adds.linked a m later with earlier | ⟨same, -⟩
    · exact earlier
    · exact absurd same other
  · exact fun earlier => adds.edges (a, m) earlier

end AddsReader

end Phase

/-! ## Two walks -/

open Phase

namespace Walk

variable {w w' : Walk} {s : Stage} {m n : Name} {g g' : Graph} {out out' : Scheduled}

/-- Two walks that succeed over phases of which one has a reader more, with the same registered for
all stages but this one. -/
structure Extends (w w' : Walk) (g g' : Graph) (n : Name) (out out' : Scheduled) : Prop where
  accepted : w.phase.Accepted
  accepted' : w'.phase.Accepted
  shape : w.phase.graph = some g
  shape' : w'.phase.graph = some g'
  adds : AddsReader w.phase w'.phase g g' n
  same : ∀ m, m ≠ n → w.SameAt w' m
  ran : w.schedule.result = .ok out
  ran' : w'.schedule.result = .ok out'

namespace Extends

theorem other (h : Extends w w' g g' n out out') (listed : m ∈ g.order) : m ≠ n := by
  rintro rfl
  exact h.adds.unlisted (((h.accepted.ordered h.shape).covers m).mp listed)

theorem listed (h : Extends w w' g g' n out out') (listed : m ∈ g.order) : m ∈ g'.order :=
  ((h.accepted'.ordered h.shape').covers m).mpr
    (h.adds.nodes m (((h.accepted.ordered h.shape).covers m).mp listed))

end Extends

end Walk

end Stageflow
