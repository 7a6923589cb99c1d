import Stageflow.Proofs.Phases

/-!
# Declared phases

Which declarations of a phase are accepted, and how the others are refused. A cycle is reported
before anything else, and neither the order of a declaration nor a connection declared twice shows
in whether it is accepted.
-/

namespace Stageflow

open Stageflow.Graph (Linked Acyclic)

/-- A reader that has something to read from a stage with ports: a side channel or a port. -/
def Stage.Serves (t s : Stage) : Prop :=
  s.kind = .errorTransform ∨ s.kind = .alertPublisher ∨
    t.kind ≠ .connector ∧ s.kind ≠ .connector ∧ ∃ port, t.portFor s.name = some port

/-- What a declaration must keep to be accepted. -/
structure PhaseSpec.WellFormed (spec : PhaseSpec) : Prop where
  acyclic : Acyclic spec.connections
  distinct : (spec.stages.map (·.name)).Nodup
  served : ∀ t ∈ spec.stages, ∀ s ∈ spec.stages,
    (t.name, s.name) ∈ spec.connections → t.ports ≠ [] → t.Serves s

namespace PhaseSpec

variable {spec spec' : PhaseSpec}

/-- Two declarations of the same stages and connections, in any order. -/
structure SameAs (spec spec' : PhaseSpec) : Prop where
  stages : spec.stages.Perm spec'.stages
  connections : ∀ e, e ∈ spec.connections ↔ e ∈ spec'.connections

theorem SameAs.symm (h : spec.SameAs spec') : spec'.SameAs spec :=
  ⟨h.stages.symm, fun e => (h.connections e).symm⟩

theorem acyclic_congr {es es' : List Edge} (h : ∀ e, e ∈ es ↔ e ∈ es') :
    Acyclic es ↔ Acyclic es' := by
  have same : Linked es = Linked es' := by
    funext a b
    exact propext (h (a, b))
  rw [Acyclic, Acyclic, same]

theorem SameAs.wellFormed (h : spec.SameAs spec') (good : spec.WellFormed) : spec'.WellFormed := by
  refine ⟨(acyclic_congr h.connections).mp good.acyclic,
    ((h.stages.map _).nodup_iff).mp good.distinct, ?_⟩
  intro t ht s hs linked
  exact good.served t (h.stages.mem_iff.mpr ht) s (h.stages.mem_iff.mpr hs)
    ((h.connections _).mpr linked)

end PhaseSpec

namespace Phase

variable {stages : List Stage} {graph : Option Graph} {p : Phase} {s t : Stage}

theorem readsMain_eq_false : readsMain t s = false ↔ t.Serves s := by
  unfold Stage.Serves readsMain
  rw [← Option.isSome_iff_exists]
  cases s.kind <;> simp

/-- A phase is built of stages with distinct names if every reader is served. -/
theorem build_ok_iff {g : Graph} :
    (∃ p, build stages (some g) = .ok p) ↔
      (stages.map (·.name)).Nodup ∧
        ∀ t ∈ stages, ∀ s ∈ stages, Linked g.edges t.name s.name → t.ports ≠ [] → t.Serves s := by
  constructor
  · rintro ⟨p, built⟩
    obtain ⟨shape, distinct, found, routed⟩ := build_ok built
    refine ⟨distinct, fun t ht s hs linked some_port => ?_⟩
    have all := unrouted_eq_nil.mp (routed _ t ((found _ t).mpr ⟨ht, rfl⟩)) some_port
    apply readsMain_eq_false.mp
    exact all s.name (mem_outputs.mpr ⟨g, shape, linked⟩) s ((found _ s).mpr ⟨hs, rfl⟩)
  · rintro ⟨distinct, served⟩
    let p : Phase := ⟨Table.ofList (stages.map fun s => (s.name, s)), some g⟩
    have found (n : Name) (s : Stage) : p.stage? n = some s ↔ s ∈ stages ∧ s.name = n :=
      stage?_ofList distinct
    have unrepeated : repeated? stages [] = none :=
      repeated?_eq_none.mpr ⟨distinct, fun _ _ => List.not_mem_nil⟩
    have routes : p.unrouted? = none := by
      refine List.findSome?_eq_none_iff.mpr fun t ht => ?_
      obtain ⟨⟨n, t⟩, there, rfl⟩ := List.mem_map.mp ht
      obtain ⟨ht, -⟩ := (found n t).mp ((Table.ofList_ascending _).get?_of_mem there)
      have none : p.unrouted t = [] := by
        refine unrouted_eq_nil.mpr fun some_port n hn s named => ?_
        obtain ⟨g', same, linked⟩ := mem_outputs.mp hn
        obtain rfl := Option.some.inj same
        obtain ⟨hs, rfl⟩ := (found n s).mp named
        exact readsMain_eq_false.mpr (served t ht s hs linked some_port)
      rw [none]
      rfl
    refine ⟨p, ?_⟩
    unfold build
    split
    · next again => cases unrepeated.symm.trans again
    · dsimp only
      split
      · next stuck => cases routes.symm.trans stuck
      · rfl

theorem build_error {e : FlowError} (h : build stages graph = .error e) :
    ∃ why, e = .config why := by
  unfold build at h
  split at h
  · exact ⟨_, (Except.error.inj h).symm⟩
  · dsimp only at h
    split at h
    · exact ⟨_, (Except.error.inj h).symm⟩
    · cases h

variable {spec : PhaseSpec}

/-- A declaration without a cycle is answered by its stages. -/
theorem ofSpec_of_acyclic (acyclic : Acyclic spec.connections) :
    ∃ g, ofSpec spec = build spec.stages (some g) ∧
      ∀ a b, Linked g.edges a b ↔ (a, b) ∈ spec.connections := by
  cases sorted : Graph.build (spec.stages.map (·.name)) spec.connections with
  | error e =>
    obtain ⟨n, -, cycle⟩ := Graph.build_error sorted
    exact absurd cycle (acyclic n)
  | ok g =>
    refine ⟨g, by rw [ofSpec, sorted]; rfl, fun a b => ?_⟩
    rw [Linked, (Graph.build_ok sorted).2.1, mem_distinct]

/-- A cycle is reported before the stages are looked at. -/
theorem ofSpec_of_cycle (cyclic : ¬ Acyclic spec.connections) :
    ∃ n, ofSpec spec = .error (.cycle n) := by
  cases sorted : Graph.build (spec.stages.map (·.name)) spec.connections with
  | ok g => exact absurd (Graph.acyclic_of_build_ok sorted) cyclic
  | error e =>
    obtain ⟨n, rfl, -⟩ := Graph.build_error sorted
    exact ⟨n, by rw [ofSpec, sorted]; rfl⟩

theorem ofSpec_accepts_iff : (∃ p, ofSpec spec = .ok p) ↔ spec.WellFormed := by
  by_cases acyclic : Acyclic spec.connections
  · obtain ⟨g, answer, linked⟩ := ofSpec_of_acyclic acyclic
    rw [answer, build_ok_iff]
    simp only [linked]
    exact ⟨fun ⟨distinct, served⟩ => ⟨acyclic, distinct, served⟩,
      fun good => ⟨good.distinct, good.served⟩⟩
  · obtain ⟨n, refused⟩ := ofSpec_of_cycle acyclic
    rw [refused]
    exact ⟨fun ⟨_, accepted⟩ => (nomatch accepted), fun good => absurd good.acyclic acyclic⟩

theorem ofSpec_cycle_iff : (∃ n, ofSpec spec = .error (.cycle n)) ↔ ¬ Acyclic spec.connections := by
  refine ⟨?_, ofSpec_of_cycle⟩
  rintro ⟨n, refused⟩ acyclic
  obtain ⟨g, answer, -⟩ := ofSpec_of_acyclic acyclic
  obtain ⟨why, other⟩ := build_error (answer.symm.trans refused)
  cases other

theorem ofSpec_config_iff :
    (∃ why, ofSpec spec = .error (.config why)) ↔
      Acyclic spec.connections ∧ ¬ spec.WellFormed := by
  rw [← ofSpec_accepts_iff]
  by_cases acyclic : Acyclic spec.connections
  · obtain ⟨g, answer, -⟩ := ofSpec_of_acyclic acyclic
    rw [answer]
    cases built : build spec.stages (some g) with
    | ok p => simp
    | error e =>
      obtain ⟨why, rfl⟩ := build_error built
      simp [acyclic]
  · obtain ⟨n, refused⟩ := ofSpec_of_cycle acyclic
    simp [refused, acyclic]

/-- **Accepted declarations.** A declaration is accepted if it is well formed; a cycle is reported
whatever else is wrong, and all other declarations are refused as badly configured. Neither the
order of stages and connections nor repeated connections change which of the three it is. -/
theorem ofSpec_answers (spec : PhaseSpec) :
    ((∃ p, ofSpec spec = .ok p) ↔ spec.WellFormed) ∧
    ((∃ n, ofSpec spec = .error (.cycle n)) ↔ ¬ Acyclic spec.connections) ∧
    ((∃ why, ofSpec spec = .error (.config why)) ↔
      Acyclic spec.connections ∧ ¬ spec.WellFormed) ∧
    ∀ spec', spec.SameAs spec' →
      ((∃ p, ofSpec spec' = .ok p) ↔ ∃ p, ofSpec spec = .ok p) ∧
      ((∃ n, ofSpec spec' = .error (.cycle n)) ↔ ∃ n, ofSpec spec = .error (.cycle n)) ∧
      ((∃ why, ofSpec spec' = .error (.config why)) ↔
        ∃ why, ofSpec spec = .error (.config why)) := by
  refine ⟨ofSpec_accepts_iff, ofSpec_cycle_iff, ofSpec_config_iff, fun spec' same => ?_⟩
  have acyclic := PhaseSpec.acyclic_congr same.connections
  have good : spec'.WellFormed ↔ spec.WellFormed := ⟨same.symm.wellFormed, same.wellFormed⟩
  simp only [ofSpec_accepts_iff, ofSpec_cycle_iff, ofSpec_config_iff, acyclic, good, and_self]

/-- A stage with two ports, a reader for each and a reader of its errors. -/
def twoPorts : PhaseSpec :=
  ⟨[⟨"t", .transform, [("a", "left"), ("b", "right")]⟩, .plain "a" .sink, .plain "b" .sink,
      .plain "e" .errorTransform],
    [("t", "a"), ("t", "b"), ("t", "e")]⟩

/-- The same from behind, with a connection given twice. -/
def twoPortsRelisted : PhaseSpec :=
  ⟨twoPorts.stages.reverse, [("t", "e"), ("t", "b"), ("t", "a"), ("t", "b")]⟩

theorem ofSpec_answers_twoPorts :
    twoPorts.WellFormed ∧ twoPorts.SameAs twoPortsRelisted ∧
      ∃ p, ofSpec twoPortsRelisted = .ok p := by
  obtain ⟨accepts, -, -, relists⟩ := ofSpec_answers twoPorts
  have sorted : Graph.build ["t", "a", "b", "e"] twoPorts.connections =
      .ok ⟨["t", "a", "b", "e"], twoPorts.connections, ["t", "e", "b", "a"]⟩ := by cbv
  have accepted : ∃ p, ofSpec twoPorts = .ok p := ⟨_, ofSpec_ok_iff.mpr ⟨_, sorted, rfl⟩⟩
  have same : twoPorts.SameAs twoPortsRelisted := by
    refine ⟨(List.reverse_perm _).symm, fun e => ?_⟩
    simp only [twoPorts, twoPortsRelisted, List.mem_cons, List.not_mem_nil, or_false]
    tauto
  exact ⟨accepts.mp accepted, same, (relists _ same).1.mpr accepted⟩

end Phase

end Stageflow
