import Mathlib.Algebra.Order.BigOperators.Group.Finset
import Stageflow.Proofs.Caching

/-!
# Neighbours and degrees

A graph can be asked for the neighbours of a name, for their number, for its ends and for its size.
All these answers are about one relation, the connections that the graph was built of:

* `cacheReason_cases`: an output is kept for its readers, or for the producers of its only reader;
* `build_describes`: the answers agree with each other, however often a connection was listed.
-/

namespace Stageflow

theorem Names.length_sorted (ns : List Name) : (sorted ns).length = ns.toFinset.card := by
  rw [← List.toFinset_card_of_nodup (sorted_nodup ns)]
  congr 1
  ext a
  rw [List.mem_toFinset, List.mem_toFinset, mem_sorted]

namespace Graph

variable {stages : List Name} {connections : List Edge} {g : Graph} {a b n : Name}

/-- The names that are listed or connected. -/
def nameSet (stages : List Name) (connections : List Edge) : Finset Name :=
  stages.toFinset ∪ (connections.toFinset.image Prod.fst ∪ connections.toFinset.image Prod.snd)

/-- The producers that a name is connected to. -/
def producerSet (connections : List Edge) (n : Name) : Finset Name :=
  {e ∈ connections.toFinset | e.2 = n}.image Prod.fst

/-- The readers that a name is connected to. -/
def readerSet (connections : List Edge) (n : Name) : Finset Name :=
  {e ∈ connections.toFinset | e.1 = n}.image Prod.snd

theorem mem_nameSet :
    n ∈ nameSet stages connections ↔
      n ∈ stages ∨ ∃ m, (n, m) ∈ connections ∨ (m, n) ∈ connections := by
  simp [nameSet, exists_or]

theorem mem_producerSet : a ∈ producerSet connections b ↔ (a, b) ∈ connections := by
  simp [producerSet]

theorem mem_readerSet : b ∈ readerSet connections a ↔ (a, b) ∈ connections := by
  simp [readerSet]

/-! ## Neighbours -/

theorem mem_inputs (built : build stages connections = .ok g) :
    a ∈ g.inputs b ↔ (a, b) ∈ connections := by
  rw [inputs, Names.mem_sorted, mem_producers, linked_iff built]

theorem mem_outputs (built : build stages connections = .ok g) :
    b ∈ g.outputs a ↔ (a, b) ∈ connections := by
  rw [outputs, Names.mem_sorted, mem_readers, linked_iff built]

theorem inDegree_eq_card (built : build stages connections = .ok g) :
    g.inDegree n = (producerSet connections n).card := by
  rw [inDegree, inputs, Names.length_sorted]
  congr 1
  ext a
  rw [List.mem_toFinset, mem_producers, linked_iff built, mem_producerSet]

theorem outDegree_eq_card (built : build stages connections = .ok g) :
    g.outDegree n = (readerSet connections n).card := by
  rw [outDegree, outputs, Names.length_sorted]
  congr 1
  ext b
  rw [List.mem_toFinset, mem_readers, linked_iff built, mem_readerSet]

/-! ## Ends and size -/

theorem mem_sources : n ∈ g.sources ↔ g.contains n ∧ g.inDegree n = 0 := by
  rw [sources, Names.mem_sorted, List.mem_filter, contains, decide_eq_true_iff, inDegree, inputs,
    Names.length_sorted, Finset.card_eq_zero, List.toFinset_eq_empty_iff, List.isEmpty_iff]

theorem mem_sinks : n ∈ g.sinks ↔ g.contains n ∧ g.outDegree n = 0 := by
  rw [sinks, Names.mem_sorted, List.mem_filter, contains, decide_eq_true_iff, outDegree, outputs,
    Names.length_sorted, Finset.card_eq_zero, List.toFinset_eq_empty_iff, List.isEmpty_iff]

theorem contains_iff (built : build stages connections = .ok g) :
    g.contains n ↔ n ∈ nameSet stages connections := by
  rw [contains, decide_eq_true_iff, (build_ok built).1, mem_nodesOf, mem_nameSet]
  rfl

theorem stageCount_eq_card (built : build stages connections = .ok g) :
    g.stageCount = (nameSet stages connections).card := by
  have nodup : g.nodes.Nodup := (build_ok built).1 ▸ distinct_nodup _
  rw [stageCount, ← List.toFinset_card_of_nodup nodup]
  congr 1
  ext n
  rw [List.mem_toFinset, ← contains_iff built, contains, decide_eq_true_iff]

theorem connectionCount_eq_card (built : build stages connections = .ok g) :
    g.connectionCount = connections.toFinset.card := by
  rw [connectionCount, (build_ok built).2.1,
    ← List.toFinset_card_of_nodup (distinct_nodup connections)]
  congr 1
  ext e
  rw [List.mem_toFinset, List.mem_toFinset, mem_distinct]

/-- Every connection is counted at one of its ends, by the name at the other end. -/
theorem sum_card_neighbours (here there : Edge → Name)
    (ends : ∀ e f, here e = here f → there e = there f → e = f)
    (within : ∀ e ∈ connections, here e ∈ nameSet stages connections) :
    ∑ n ∈ nameSet stages connections, ({e ∈ connections.toFinset | here e = n}.image there).card =
      connections.toFinset.card := by
  have maps : Set.MapsTo here (connections.toFinset : Set Edge) (nameSet stages connections) :=
    fun e he => within e (List.mem_toFinset.mp he)
  rw [Finset.card_eq_sum_card_fiberwise maps]
  refine Finset.sum_congr rfl fun n _ => Finset.card_image_of_injOn ?_
  intro e he f hf same
  exact ends e f ((Finset.mem_filter.mp he).2.trans (Finset.mem_filter.mp hf).2.symm) same

theorem sum_card_producerSet (stages : List Name) (connections : List Edge) :
    ∑ n ∈ nameSet stages connections, (producerSet connections n).card =
      connections.toFinset.card :=
  sum_card_neighbours Prod.snd Prod.fst (fun _ _ reader producer => Prod.ext producer reader)
    fun e he => mem_nameSet.mpr (.inr ⟨e.1, .inr he⟩)

theorem sum_card_readerSet (stages : List Name) (connections : List Edge) :
    ∑ n ∈ nameSet stages connections, (readerSet connections n).card =
      connections.toFinset.card :=
  sum_card_neighbours Prod.fst Prod.snd (fun _ _ => Prod.ext)
    fun e he => mem_nameSet.mpr (.inr ⟨e.2, .inl he⟩)

/-! ## Reasons to keep an output -/

/-- An output has several readers, or one reader of several producers, or it is not kept. -/
theorem cacheReason_cases (built : build stages connections = .ok g) (a : Name) :
    (1 < (readerSet connections a).card ∧
      g.cacheReason a = some (.fanout (readerSet connections a).card)) ∨
    (∃ c, readerSet connections a = {c} ∧ 1 < (producerSet connections c).card ∧
      g.cacheReason a = some (.feedsUnion c)) ∨
    ((readerSet connections a).card ≤ 1 ∧
      (∀ c, readerSet connections a = {c} → (producerSet connections c).card ≤ 1) ∧
      g.cacheReason a = none) := by
  have size : (g.outputs a).length = (readerSet connections a).card := outDegree_eq_card built
  have members : readerSet connections a = (g.outputs a).toFinset := by
    ext b
    rw [mem_readerSet, List.mem_toFinset, mem_outputs built]
  unfold cacheReason
  dsimp only
  split
  · next several => exact .inl ⟨size ▸ several, by rw [size]⟩
  · next few =>
    rw [members]
    match shape : g.outputs a with
    | [] => exact .inr (.inr ⟨by simp, fun c none => by simp at none, rfl⟩)
    | [c] =>
      have degree := inDegree_eq_card built (n := c)
      by_cases union : 1 < g.inDegree c
      · exact .inr (.inl ⟨c, rfl, degree ▸ union, by simp [union]⟩)
      · refine .inr (.inr ⟨by simp, fun d only => ?_, by simp [union]⟩)
        obtain rfl : c = d := by simpa using only
        omega
    | c :: d :: rest =>
      rw [shape] at few
      simp at few

theorem cacheReason_fanout_iff (built : build stages connections = .ok g) {m : Nat} :
    g.cacheReason n = some (.fanout m) ↔ 1 < m ∧ (readerSet connections n).card = m := by
  rcases cacheReason_cases built n with ⟨several, kept⟩ | ⟨c, only, -, kept⟩ | ⟨few, -, kept⟩
  · rw [kept, Option.some_inj, CacheReason.fanout.injEq]
    exact ⟨fun size => ⟨size ▸ several, size⟩, fun size => size.2⟩
  · rw [kept, only, Finset.card_singleton]
    refine iff_of_false nofun ?_
    rintro ⟨several, one⟩
    exact Nat.lt_irrefl 1 (one ▸ several)
  · rw [kept]
    refine iff_of_false nofun ?_
    rintro ⟨several, size⟩
    exact Nat.not_lt.mpr few (size ▸ several)

theorem cacheReason_feedsUnion_iff (built : build stages connections = .ok g) {c : Name} :
    g.cacheReason n = some (.feedsUnion c) ↔
      readerSet connections n = {c} ∧ 1 < (producerSet connections c).card := by
  rcases cacheReason_cases built n with
    ⟨several, kept⟩ | ⟨d, only, union, kept⟩ | ⟨-, alone, kept⟩
  · rw [kept]
    refine iff_of_false nofun ?_
    rintro ⟨only, -⟩
    rw [only, Finset.card_singleton] at several
    exact Nat.lt_irrefl 1 several
  · rw [kept, only, Option.some_inj, CacheReason.feedsUnion.injEq, Finset.singleton_inj]
    exact ⟨fun same => ⟨same, same ▸ union⟩, fun same => same.1⟩
  · rw [kept]
    refine iff_of_false nofun ?_
    rintro ⟨only, union⟩
    exact Nat.not_lt.mpr (alone c only) union

theorem cacheReason_none_iff (built : build stages connections = .ok g) :
    g.cacheReason n = none ↔ (readerSet connections n).card ≤ 1 ∧
      ∀ c, readerSet connections n = {c} → (producerSet connections c).card ≤ 1 := by
  rcases cacheReason_cases built n with
    ⟨several, kept⟩ | ⟨c, only, union, kept⟩ | ⟨few, alone, kept⟩
  · rw [kept]
    exact iff_of_false nofun fun none => Nat.not_lt.mpr none.1 several
  · rw [kept]
    exact iff_of_false nofun fun none => Nat.not_lt.mpr (none.2 c only) union
  · exact iff_of_true kept ⟨few, alone⟩

/-! ## The relation -/

/-- What a graph answers, told by the connections that it was built of. -/
structure Describes (stages : List Name) (connections : List Edge) (g : Graph) : Prop where
  inputs : ∀ a b, a ∈ g.inputs b ↔ (a, b) ∈ connections
  outputs : ∀ a b, b ∈ g.outputs a ↔ (a, b) ∈ connections
  contains : ∀ n, g.contains n ↔
    n ∈ stages ∨ ∃ m, (n, m) ∈ connections ∨ (m, n) ∈ connections
  sources : ∀ n, n ∈ g.sources ↔ g.contains n ∧ g.inDegree n = 0
  sinks : ∀ n, n ∈ g.sinks ↔ g.contains n ∧ g.outDegree n = 0
  isSource : ∀ p : Phase, p.graph = some g → ∀ n, p.isSource n ↔ n ∈ g.sources
  isSink : ∀ p : Phase, p.graph = some g → ∀ n, p.isSink n ↔ n ∈ g.sinks
  inDegree : ∀ n, g.inDegree n = (producerSet connections n).card
  outDegree : ∀ n, g.outDegree n = (readerSet connections n).card
  stageCount : g.stageCount = (nameSet stages connections).card
  connectionCount : g.connectionCount = connections.toFinset.card
  inDegrees : ∑ n ∈ nameSet stages connections, g.inDegree n = g.connectionCount
  outDegrees : ∑ n ∈ nameSet stages connections, g.outDegree n = g.connectionCount
  fanout : ∀ a n, g.cacheReason a = some (.fanout n) ↔
    1 < n ∧ (readerSet connections a).card = n
  feedsUnion : ∀ a c, g.cacheReason a = some (.feedsUnion c) ↔
    readerSet connections a = {c} ∧ 1 < (producerSet connections c).card
  unkept : ∀ a, g.cacheReason a = none ↔
    (readerSet connections a).card ≤ 1 ∧
      ∀ c, readerSet connections a = {c} → (producerSet connections c).card ≤ 1

/-- **A graph tells its connections.** Neighbours, degrees, ends and sizes are those of the relation
that was given, in which a connection counts once, and so is the reason to keep an output. -/
theorem build_describes (built : build stages connections = .ok g) :
    Describes stages connections g := by
  constructor
  case inputs => exact fun a b => mem_inputs built
  case outputs => exact fun a b => mem_outputs built
  case contains => exact fun n => (contains_iff built).trans mem_nameSet
  case sources => exact fun n => mem_sources
  case sinks => exact fun n => mem_sinks
  case isSource =>
    intro p shape n
    rw [mem_sources, Phase.isSource, shape]
    simp
  case isSink =>
    intro p shape n
    rw [mem_sinks, Phase.isSink, shape]
    simp
  case inDegree => exact fun n => inDegree_eq_card built
  case outDegree => exact fun n => outDegree_eq_card built
  case stageCount => exact stageCount_eq_card built
  case connectionCount => exact connectionCount_eq_card built
  case inDegrees =>
    simp only [inDegree_eq_card built, connectionCount_eq_card built, sum_card_producerSet]
  case outDegrees =>
    simp only [outDegree_eq_card built, connectionCount_eq_card built, sum_card_readerSet]
  case fanout => exact fun a n => cacheReason_fanout_iff built
  case feedsUnion => exact fun a c => cacheReason_feedsUnion_iff built
  case unkept => exact fun a => cacheReason_none_iff built

/-- A union of two inputs, one of them listed twice and connected twice. -/
def unionConnections : List Edge := [("a", "u"), ("b", "u"), ("a", "u")]

/-- The one reader of `a` has two producers, and two connections were given. -/
theorem build_describes_union :
    ∃ g, build ["a", "a"] unionConnections = .ok g ∧
      g.cacheReason "a" = some (.feedsUnion "u") ∧ g.connectionCount = 2 ∧
      "b" ∈ g.sources ∧ ¬ g.contains "c" := by
  have built : build ["a", "a"] unionConnections =
      .ok ⟨["a", "u", "b"], [("a", "u"), ("b", "u")], ["b", "a", "u"]⟩ := by cbv
  have told := build_describes built
  refine ⟨_, built, (told.feedsUnion "a" "u").mpr (by decide), told.connectionCount, ?_, ?_⟩
  · exact (told.sources "b").mpr ⟨(told.contains "b").mpr (.inr ⟨"u", .inl (by decide)⟩), rfl⟩
  · rw [told.contains "c"]
    simp [unionConnections]

end Graph

end Stageflow
