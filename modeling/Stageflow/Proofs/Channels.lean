import Stageflow.Proofs.Visits

/-!
# Channels between stages

Whether a stage that reads records gets those of a producer. Three places have to agree: the check
of a phase, what a visit publishes, and what a reader looks for.

* `visit_published`: what the visits of each kind publish, by the ports of the stage;
* `Phase.Accepted.portBetween`: which channel a reader looks for in an accepted phase;
* `gather_count`: a reader gets one channel of a producer, or none.

They do not agree on kinds with a single output. These publish a main channel although they may
declare ports, and a reader with a port finds nothing.
-/

namespace Stageflow

/-- Kinds that publish one main channel, whatever ports their stages declare. -/
def StageKind.singleOutput : StageKind → Bool
  | compute | windower | joiner => true
  | _ => false

/-- Kinds that read records. -/
def StageKind.readsRecords : StageKind → Bool
  | errorTransform | alertPublisher | action => false
  | _ => true

theorem StageKind.readsRecords_of_other {k : StageKind} (some_errors : k ≠ errorTransform)
    (some_alerts : k ≠ alertPublisher) (some_action : k ≠ action) : k.readsRecords := by
  cases k <;> first | rfl | contradiction

namespace Stage

variable {s : Stage}

theorem portNames_eq_nil : s.portNames = [] ↔ s.ports = [] := by
  simp only [List.eq_nil_iff_forall_not_mem, portNames, Names.mem_sorted, Table.values,
    List.mem_map]
  grind

theorem mem_portNames_of_portFor {reader port : Name} (h : s.portFor reader = some port) :
    port ∈ s.portNames :=
  Names.mem_sorted.mpr (Table.mem_values_of_get? h)

end Stage

open Journaled

/-! ## What a visit publishes -/

/-- What a stage may publish: nothing, one channel for all readers, or one for each port. -/
inductive Published (s : Stage) : StageOutput → Prop
  | nothing : Published s .empty
  | whole (d : Dataset Json) (fits : s.ports = [] ∨ s.kind.singleOutput) : Published s (.main d)
  | split (t : Table (Dataset Json)) (some_port : s.ports ≠ []) (several : ¬ s.kind.singleOutput)
      (keys : t.keys = s.portNames) : Published s (.ports t)

namespace Routing

variable {ε : Type} {s : Stage} {combined : Dataset Tagged} {keep : Bool}

theorem portChannels_keys {ports : List Name} {t : Table (Dataset Json)}
    (h : (portChannels s combined keep ports : Journaled ε _).result = .ok t) :
    t.keys = ports := by
  induction ports generalizing t with
  | nil =>
    obtain rfl := Except.ok.inj h
    rfl
  | cons port ports ih =>
    obtain ⟨channel, -, rest⟩ := bind_ok_iff.mp h
    obtain ⟨t', made, last⟩ := bind_ok_iff.mp rest
    obtain rfl := Except.ok.inj last
    rw [Table.keys, List.map_cons, ← Table.keys, ih made]

theorem outputChannels_published {output : StageOutput} (several : ¬ s.kind.singleOutput)
    (h : (outputChannels s combined keep : Journaled ε _).result = .ok output) :
    Published s output := by
  unfold outputChannels at h
  split at h
  · next none =>
    obtain ⟨channel, -, last⟩ := bind_ok_iff.mp h
    obtain rfl := Except.ok.inj last
    exact .whole _ (.inl (Stage.portNames_eq_nil.mp none))
  · next some_port =>
    obtain ⟨channels, made, last⟩ := bind_ok_iff.mp h
    obtain rfl := Except.ok.inj last
    exact .split _ (Stage.portNames_eq_nil.not.mp some_port) several (portChannels_keys made)

end Routing

namespace Walk

variable {w : Walk} {s t : Stage} {r : Registry} {v : Visited} {n : Name}

theorem routed_published {combined : Dataset Tagged} (several : ¬ s.kind.singleOutput)
    (ran : (w.routed s combined).result = .ok v) : Published s v.emitted.output := by
  obtain ⟨e, made, rfl⟩ := map_ok_iff.mp ran
  obtain ⟨errors, -, rest⟩ := bind_ok_iff.mp made
  obtain ⟨alerts, -, rest⟩ := bind_ok_iff.mp rest
  obtain ⟨output, split, last⟩ := bind_ok_iff.mp rest
  obtain rfl := Except.ok.inj last
  exact Routing.outputChannels_published several split

/-- A source is a connector, or a stage of the kind that the run reads. -/
theorem checkSource_kind {u : Unit} (h : w.checkSource s = .ok u) :
    s.kind = .connector ∨ s.kind.sourceKind = some w.sourceKind := by
  unfold checkSource at h
  split at h
  · next boundary => exact .inl boundary.1
  · split at h
    · next kind reads =>
      split at h
      · next same => exact .inr (same ▸ reads)
      · cases h
    · cases h

theorem checkSource_ok {u : Unit} (h : w.checkSource s = .ok u) : ¬ s.kind.singleOutput := by
  rcases checkSource_kind h with boundary | reads
  · simp [boundary, StageKind.singleOutput]
  · cases kind : s.kind <;> simp_all [StageKind.sourceKind, StageKind.singleOutput]

theorem readSource_published (ran : (w.readSource s).result = .ok v) :
    Published s v.emitted.output := by
  obtain ⟨u, source, rest⟩ := bind_ok_iff.mp ran
  obtain ⟨combined, -, last⟩ := bind_ok_iff.mp rest
  exact routed_published (checkSource_ok source) last

theorem transformErrors_published (kind : s.kind = .errorTransform)
    (ran : (w.transformErrors s r).result = .ok v) : Published s v.emitted.output := by
  obtain ⟨producers, -, rest⟩ := bind_ok_iff.mp ran
  split at rest
  · obtain rfl := Except.ok.inj rest
    exact .nothing
  · obtain ⟨combined, -, last⟩ := bind_ok_iff.mp rest
    exact routed_published (by simp [kind, StageKind.singleOutput]) last

theorem publishAlerts_published (ran : (w.publishAlerts s r).result = .ok v) :
    Published s v.emitted.output := by
  obtain ⟨producers, -, rest⟩ := bind_ok_iff.mp ran
  split at rest
  · obtain rfl := Except.ok.inj rest
    exact .nothing
  · obtain ⟨-, -, last⟩ := bind_ok_iff.mp rest
    obtain rfl := Except.ok.inj last
    exact .nothing

theorem joinInputs_published {inputs : List (Name × Dataset Json)} (kind : s.kind.singleOutput)
    (ran : (w.joinInputs s inputs).result = .ok v) : Published s v.emitted.output := by
  obtain ⟨joiner, -, rest⟩ := bind_ok_iff.mp ran
  obtain ⟨-, -, rest⟩ := bind_ok_iff.mp rest
  obtain ⟨-, -, rest⟩ := bind_ok_iff.mp rest
  obtain ⟨keyed, -, rest⟩ := bind_ok_iff.mp rest
  obtain ⟨joined, -, last⟩ := bind_ok_iff.mp rest
  obtain rfl := Except.ok.inj last
  exact .whole _ (.inr kind)

theorem computed_published {operator : Operator} {input : Dataset Json}
    {f : List Json → Except Failure (List Json)} (kind : s.kind.singleOutput)
    (ran : (w.computed s operator input f).result = .ok v) : Published s v.emitted.output := by
  obtain ⟨out, -, last⟩ := bind_ok_iff.mp ran
  obtain rfl := Except.ok.inj last
  exact .whole _ (.inr kind)

theorem store_published {input : Dataset Json} (ran : (w.store s input).result = .ok v) :
    Published s v.emitted.output := by
  obtain ⟨-, -, last⟩ := bind_ok_iff.mp ran
  obtain rfl := Except.ok.inj last
  exact .nothing

theorem storeByPlugin_published {input : Dataset Json}
    (ran : (w.storeByPlugin s input).result = .ok v) : Published s v.emitted.output := by
  obtain ⟨plugin, -, rest⟩ := bind_ok_iff.mp ran
  obtain ⟨-, -, last⟩ := bind_ok_iff.mp rest
  obtain rfl := Except.ok.inj last
  exact .nothing

theorem visitWith_published {inputs : List (Name × Dataset Json)} {input : Dataset Json}
    (ran : (w.visitWith s inputs input).result = .ok v) : Published s v.emitted.output := by
  unfold visitWith at ran
  cases kind : s.kind with
  | joiner => rw [kind] at ran; exact joinInputs_published (by rw [kind]; rfl) ran
  | sink => rw [kind] at ran; exact store_published ran
  | connector =>
    rw [kind] at ran
    dsimp only at ran
    split at ran
    · exact store_published ran
    · cases ran
  | pluginSink => rw [kind] at ran; exact storeByPlugin_published ran
  | transform | splitterTransform | aggregator =>
    rw [kind] at ran
    obtain ⟨combined, -, last⟩ := bind_ok_iff.mp ran
    exact routed_published (by simp [kind, StageKind.singleOutput]) last
  | compute | windower =>
    rw [kind] at ran
    obtain ⟨plugin, -, last⟩ := bind_ok_iff.mp ran
    exact computed_published (by rw [kind]; rfl) last
  | batchSource | streamingSource | errorTransform | alertPublisher | action =>
    rw [kind] at ran
    cases ran

/-- What a visit publishes goes to the ports of its stage, unless its kind has a single output. -/
theorem visit_published (ran : (w.visit s r).result = .ok v) : Published s v.emitted.output := by
  unfold visit at ran
  split at ran
  · next kind => exact transformErrors_published kind ran
  · exact publishAlerts_published ran
  · split at ran
    · obtain rfl := Except.ok.inj ran
      exact .nothing
    · cases ran
  · dsimp only at ran
    split at ran
    · exact readSource_published ran
    · exact visitWith_published ran

end Walk

/-! ## What a reader looks for -/

namespace Phase

variable {p : Phase} {s t : Stage} {n : Name}

/-- A reader of records in an accepted phase looks for a port if the producer has any. -/
theorem Accepted.portBetween (h : p.Accepted) (reader : p.stage? s.name = some s)
    (producer : p.stage? n = some t) (linked : n ∈ p.inputs s.name) (reads : s.kind.readsRecords) :
    (t.ports = [] ∧ Walk.portBetween t s = none) ∨
      (t.ports ≠ [] ∧ ∃ port ∈ t.portNames, Walk.portBetween t s = some port) := by
  by_cases none : t.ports = []
  · exact .inl ⟨none, by simp [Walk.portBetween, Stage.portFor, none]⟩
  · refine .inr ⟨none, ?_⟩
    have routed := h.routed producer reader linked none
    unfold readsMain at routed
    have boundless : s.kind ≠ .connector := fun same => by simp [same] at routed
    have named : (t.kind == .connector || (t.portFor s.name).isNone) = false := by
      cases kind : s.kind <;> simp_all [StageKind.readsRecords]
    obtain ⟨inside, some_port⟩ := Bool.or_eq_false_iff.mp named
    obtain ⟨port, found⟩ := Option.isSome_iff_exists.mp (by simpa using some_port)
    refine ⟨port, Stage.mem_portNames_of_portFor found, ?_⟩
    rw [Walk.portBetween, if_neg (by simp_all), found]

end Phase

namespace Walk

variable {w : Walk} {s t : Stage} {r : Registry} {n : Name} {e : Emitted}

/-- The channel of a producer that a stage looks for, if the producer has it. -/
def channel? (p : Phase) (s : Stage) (r : Registry) (n : Name) : Option (Dataset Json) :=
  (p.stage? n).bind fun t => r.outputOf n (portBetween t s)

theorem producers_gather (p : Phase) (s : Stage) (r : Registry) :
    (gather p s r).map (·.1) = (p.inputs s.name).filter fun n => (channel? p s r n).isSome := by
  rw [gather, List.map_filterMap, ← List.filterMap_eq_filter]
  congr 1
  funext n
  cases found : p.stage? n with
  | none => simp [Option.guard, channel?, found]
  | some t =>
    cases here : r.outputOf n (portBetween t s) <;> simp [Option.guard, channel?, found, here]

/-- The walk comes to a stage, with the registry of the stages before it. -/
def Reaches (w : Walk) (s : Stage) (r : Registry) : Prop :=
  ∃ g before n after tasks, w.phase.graph = some g ∧ g.order = before ++ n :: after ∧
    w.phase.stage? n = some s ∧ (w.visitAll before ⟨[], []⟩).result = .ok ⟨r, tasks⟩

theorem Reaches.stage?_eq_some (accepted : w.phase.Accepted) (h : w.Reaches s r) :
    w.phase.stage? s.name = some s := by
  obtain ⟨g, before, n, after, tasks, -, -, found, -⟩ := h
  rwa [accepted.name_eq found]

/-- Whatever a producer has published when a reader is visited fits its ports. -/
theorem Reaches.published (accepted : w.phase.Accepted) (h : w.Reaches s r)
    (linked : n ∈ w.phase.inputs s.name) (producer : w.phase.stage? n = some t)
    (entry : r.get? n = some e) : Published t e.output := by
  obtain ⟨g, before, m, after, tasks, shape, split, found, ran⟩ := h
  have walkable := walkable_order accepted shape
  rw [accepted.name_eq found] at linked
  have ahead : n ∈ before := walkable.producers_first before m after split n linked
  rw [split] at walkable
  have explained := visitAll_explained walkable.upTo rfl (explained_nil w) ran
  obtain ⟨v, visited, emitted⟩ := explained.solves n ahead t producer
  obtain rfl := Option.some.inj (entry.symm.trans emitted)
  exact visit_published visited

/-- The channel that a reader looks for is there unless the producer ignores its ports. -/
theorem channel?_isSome (accepted : w.phase.Accepted) (reader : w.phase.stage? s.name = some s)
    (producer : w.phase.stage? n = some t) (linked : n ∈ w.phase.inputs s.name)
    (reads : s.kind.readsRecords) (entry : r.get? n = some e) (some_output : e.output ≠ .empty)
    (published : Published t e.output) :
    (channel? w.phase s r n).isSome ↔ ¬ (t.ports ≠ [] ∧ t.kind.singleOutput) := by
  have channel : channel? w.phase s r n = r.outputOf n (portBetween t s) := by
    simp [channel?, producer]
  rw [channel, Registry.outputOf, entry, Option.bind_some]
  obtain ⟨output, errors, alerts⟩ := e
  dsimp only at published some_output ⊢
  rcases accepted.portBetween reader producer linked reads with
    ⟨none, main⟩ | ⟨ported, port, listed, named⟩
  · rw [main]
    cases published with
    | nothing => exact absurd rfl some_output
    | whole d => simp [StageOutput.main?, none]
    | split t some_port => exact absurd none some_port
  · rw [named]
    cases published with
    | nothing => exact absurd rfl some_output
    | whole d fits =>
      have single : t.kind.singleOutput := fits.resolve_left ported
      simp [StageOutput.port?, ported, single]
    | split channels _ several keys =>
      obtain ⟨d, found⟩ := Table.get?_eq_some_of_mem_keys (keys ▸ listed)
      simp [StageOutput.port?, found, several]

/--
**A reader hears a producer unless its kind ignores ports.** Of each producer in the phase that has
published anything, a stage that reads records takes exactly one channel; it takes none of those
that declare ports although their kind has a single output.
-/
theorem gather_count (w : Walk) (accepted : w.phase.Accepted) (s t : Stage) (r : Registry)
    (n : Name) (e : Emitted) (reached : w.Reaches s r) (reads : s.kind.readsRecords)
    (linked : n ∈ w.phase.inputs s.name) (producer : w.phase.stage? n = some t)
    (entry : r.get? n = some e) (some_output : e.output ≠ .empty) :
    ((gather w.phase s r).map (·.1)).count n =
      if t.ports ≠ [] ∧ t.kind.singleOutput then 0 else 1 := by
  have published := reached.published accepted linked producer entry
  have heard := channel?_isSome accepted (reached.stage?_eq_some accepted) producer linked reads
    entry some_output published
  rw [producers_gather]
  have once : ((w.phase.inputs s.name).filter fun n => (channel? w.phase s r n).isSome).Nodup :=
    (w.phase.inputs_nodup s.name).filter _
  have taken : n ∈ (w.phase.inputs s.name).filter (fun n => (channel? w.phase s r n).isSome) ↔
      ¬ (t.ports ≠ [] ∧ t.kind.singleOutput) := by
    rw [List.mem_filter, and_iff_right linked]
    exact heard
  rw [once.count]
  by_cases ignores : t.ports ≠ [] ∧ t.kind.singleOutput
  · rw [if_neg fun hn => taken.mp hn ignores, if_pos ignores]
  · rw [if_pos (taken.mpr ignores), if_neg ignores]

/-- A sink that reads a source, and a compute stage with a port for it. -/
def portedCompute : PhaseSpec where
  stages :=
    [.plain "a" .batchSource, .plain "b" .batchSource, ⟨"c", .compute, [("k", "p")]⟩,
      .plain "k" .sink]
  connections := [("a", "c"), ("c", "k"), ("b", "k")]

/-- A walk over these stages, with a record in each source and a plugin that changes nothing. -/
def portedComputeWalk : Walk where
  operators :=
    { Operators.empty with sources := [("a", [.plain .null]), ("b", [.plain (.bool true)])] }
  plugins := { Plugins.empty with computes := [("c", .ok)] }
  phase :=
    ⟨[("a", .plain "a" .batchSource), ("b", .plain "b" .batchSource),
        ("c", ⟨"c", .compute, [("k", "p")]⟩), ("k", .plain "k" .sink)],
      some ⟨["a", "b", "c", "k"], portedCompute.connections, ["b", "a", "c", "k"]⟩⟩
  sourceKind := .batch
  macros := ⟨"n", ⟨0, 0⟩, []⟩
  hints := []
  race _ := 0

/-- What this walk has published before it comes to the sink. -/
def portedComputeEntries : Registry :=
  [("b", .main ⟨[.bool true], true⟩), ("a", .main (.of [.null])), ("c", .main ⟨[.null], true⟩)]

theorem portedCompute_read : Phase.ofSpec portedCompute = .ok portedComputeWalk.phase := by
  have sorted : Graph.build ["a", "b", "c", "k"] portedCompute.connections =
      .ok ⟨["a", "b", "c", "k"], portedCompute.connections, ["b", "a", "c", "k"]⟩ := by cbv
  exact Phase.ofSpec_ok_iff.mpr ⟨_, sorted, rfl⟩

theorem portedCompute_accepted : portedComputeWalk.phase.Accepted :=
  Phase.accepted_ofSpec portedCompute_read

theorem portedCompute_reaches :
    portedComputeWalk.Reaches (.plain "k" .sink) portedComputeEntries :=
  ⟨_, ["b", "a", "c"], "k", [], [], rfl, rfl, rfl, rfl⟩

/-- The sink hears the source and not the compute stage. -/
theorem gather_count_ported :
    let heard := (gather portedComputeWalk.phase (.plain "k" .sink) portedComputeEntries).map (·.1)
    heard.count "b" = 1 ∧ heard.count "c" = 0 := by
  have source : "b" ∈ portedComputeWalk.phase.inputs "k" := by decide +kernel
  have compute : "c" ∈ portedComputeWalk.phase.inputs "k" := by decide +kernel
  exact ⟨gather_count portedComputeWalk portedCompute_accepted (.plain "k" .sink)
      (.plain "b" .batchSource) portedComputeEntries "b" (.main ⟨[.bool true], true⟩)
      portedCompute_reaches rfl source rfl rfl (by rintro ⟨⟩),
    gather_count portedComputeWalk portedCompute_accepted (.plain "k" .sink)
      ⟨"c", .compute, [("k", "p")]⟩ portedComputeEntries "c" (.main ⟨[.null], true⟩)
      portedCompute_reaches rfl compute rfl rfl (by rintro ⟨⟩)⟩

/-- A phase is accepted although its sink takes no channel of a stage that has published one. -/
theorem reader_misses_ported_compute :
    let sink := Stage.plain "k" .sink
    portedComputeWalk.phase.Accepted ∧ portedComputeWalk.Reaches sink portedComputeEntries ∧
      sink.kind.readsRecords ∧ "c" ∈ portedComputeWalk.phase.inputs sink.name ∧
      (portedComputeWalk.phase.stage? "c").isSome ∧
      portedComputeEntries.get? "c" = some (.main ⟨[.null], true⟩) ∧
      "c" ∉ (gather portedComputeWalk.phase sink portedComputeEntries).map (·.1) := by
  refine ⟨portedCompute_accepted, portedCompute_reaches, rfl, ?_, rfl, rfl, ?_⟩
  · decide +kernel
  · decide +kernel

end Walk

end Stageflow
