import Stageflow.Proofs.Publications

/-!
# How visits and walks fail

A stage is refused for its place in the phase before anything is called for it, so that which of
these errors a visit comes to is told by its kind, its connections and the channels it gathers. All
other failures are those of a join plan, or blame what was called. A walk fails with the first visit
that does.
-/

namespace Stageflow

namespace Phase

variable {p : Phase} {g : Graph} {n : Name}

theorem inputs_isEmpty (shape : p.graph = some g) :
    (p.inputs n).isEmpty = true ↔ g.inDegree n = 0 := by
  rw [inputs, shape, Option.elim_some, List.isEmpty_iff, Graph.inDegree, List.length_eq_zero_iff]

theorem isSource_iff (shape : p.graph = some g) (listed : g.contains n) :
    p.isSource n = true ↔ g.inDegree n = 0 := by
  simp [isSource, shape, listed]

theorem isSink_iff (shape : p.graph = some g) (listed : g.contains n) :
    p.isSink n = true ↔ g.outDegree n = 0 := by
  simp [isSink, shape, listed]

end Phase

namespace Walk

open Journaled

variable {w : Walk} {g : Graph} {s : Stage} {r : Registry} {e : FlowError}

/-- The stages that have nothing to read and are no sources. -/
inductive LacksInput (w : Walk) (g : Graph) (s : Stage) (r : Registry) : Prop
  /-- A reader of side channels has no producer in its phase. -/
  | sideChannels (kind : s.kind = .errorTransform ∨ s.kind = .alertPublisher)
      (apart : ∀ n ∈ g.inputs s.name, w.phase.stage? n = none)
  /-- A reader of records has gathered nothing; a connector that reads nothing is a source. -/
  | records
      (kind : s.kind ∉ ([.errorTransform, .alertPublisher, .action, .batchSource,
        .streamingSource] : List StageKind))
      (unread : gather w.phase s r = [])
      (inside : ¬ (s.kind = .connector ∧ g.inDegree s.name = 0))

/-- The stages whose kind does not fit their place. -/
inductive Misplaced (w : Walk) (g : Graph) (s : Stage) (r : Registry) : Prop
  | linkedAction (kind : s.kind = .action) (linked : g.inDegree s.name ≠ 0)
  /-- A source has gathered a channel. -/
  | fedSource (kind : s.kind = .batchSource ∨ s.kind = .streamingSource)
      (read : gather w.phase s r ≠ [])
  /-- A source is none of this run. -/
  | otherSource (kind : s.kind = .batchSource ∨ s.kind = .streamingSource)
      (unread : gather w.phase s r = []) (other : s.kind.sourceKind ≠ some w.sourceKind)
  /-- A connector with readers has gathered a channel. -/
  | fedConnector (kind : s.kind = .connector) (read : gather w.phase s r ≠ [])
      (inside : g.outDegree s.name ≠ 0)

theorem reads_and_no_source {k : StageKind} :
    k ∉ ([.errorTransform, .alertPublisher, .action, .batchSource, .streamingSource] :
      List StageKind) ↔ k.readsRecords ∧ k.sourceKind = none := by
  cases k <;> decide

/-- The kinds that may be refused although they have some input. -/
theorem kind_of_refused (reads : s.kind.readsRecords) (read : gather w.phase s r ≠ [])
    (refusal : w.admits s r = .error e) :
    s.kind = .joiner ∨ s.kind = .connector ∨ s.kind = .batchSource ∨ s.kind = .streamingSource := by
  by_contra other
  have admitted : w.admits s r = .ok () := by
    apply admits_of_read read
    cases kind : s.kind <;> simp_all [StageKind.readsRecords]
  rw [admitted] at refusal
  cases refusal

section Place

variable (shape : w.phase.graph = some g) (listed : g.contains s.name)
include shape

theorem admits_sideReader (kind : s.kind = .errorTransform ∨ s.kind = .alertPublisher) :
    w.admits s r =
      if ∀ n ∈ g.inputs s.name, w.phase.stage? n = none then .error (.noInput s.name)
      else .ok () := by
  have inputs : w.phase.inputs s.name = g.inputs s.name := by rw [Phase.inputs, shape]; rfl
  rw [admits_side kind, producersInPhase, inputs]
  by_cases apart : ∀ n ∈ g.inputs s.name, w.phase.stage? n = none
  · have none : (g.inputs s.name).filter (fun n => (w.phase.stage? n).isSome) = [] := by
      simpa [List.filter_eq_nil_iff] using apart
    rw [if_pos apart, none]
    rfl
  · have some_producer : (g.inputs s.name).filter (fun n => (w.phase.stage? n).isSome) ≠ [] := by
      simpa [List.filter_eq_nil_iff] using apart
    rw [if_neg apart]
    split
    · next none => exact absurd none some_producer
    · rfl

theorem admits_action (kind : s.kind = .action) :
    w.admits s r = if g.inDegree s.name = 0 then .ok () else .error (unsupported s) := by
  simp only [admits_of_action kind, Phase.inputs_isEmpty shape]

include listed

theorem checkSource_other (kind : s.kind.sourceKind = none) :
    w.checkSource s =
      if s.kind = .connector ∧ g.inDegree s.name = 0 then .ok () else .error (.noInput s.name) := by
  simp only [checkSource, kind, Phase.isSource_iff shape listed]

omit shape listed in
theorem checkSource_source (kind : s.kind = .batchSource ∨ s.kind = .streamingSource) :
    w.checkSource s =
      if s.kind.sourceKind = some w.sourceKind then .ok () else .error (unsupported s) := by
  unfold checkSource
  rcases kind with kind | kind <;> simp [kind, StageKind.sourceKind]

theorem admits_of_lacksInput (lacks : w.LacksInput g s r) :
    w.admits s r = .error (.noInput s.name) := by
  cases lacks with
  | sideChannels kind apart => rw [admits_sideReader shape kind, if_pos apart]
  | records kind unread inside =>
    obtain ⟨reads, no_source⟩ := reads_and_no_source.mp kind
    rw [admits_of_unread reads unread, checkSource_other shape listed no_source, if_neg inside]

theorem admits_of_misplaced (misplaced : w.Misplaced g s r) :
    w.admits s r = .error (unsupported s) := by
  cases misplaced with
  | linkedAction kind linked => rw [admits_action shape kind, if_neg linked]
  | fedSource kind read => exact admits_fedSource kind read
  | otherSource kind unread other =>
    have reads : s.kind.readsRecords := by rcases kind with kind | kind <;> rw [kind] <;> rfl
    rw [admits_of_unread reads unread, checkSource_source kind, if_neg other]
  | fedConnector kind read inside =>
    have no_sink := (Phase.isSink_iff shape listed).not.mpr inside
    rw [admits_fedConnector kind read, if_neg no_sink]

/-- The errors with which a stage is refused that has gathered nothing. -/
theorem admits_error_unread (reads : s.kind.readsRecords) (unread : gather w.phase s r = [])
    (refusal : w.admits s r = .error e) :
    (e = .noInput s.name ∧ w.LacksInput g s r) ∨ (e = unsupported s ∧ w.Misplaced g s r) := by
  rw [admits_of_unread reads unread] at refusal
  cases source : s.kind.sourceKind with
  | none =>
    rw [checkSource_other shape listed source] at refusal
    split at refusal
    · cases refusal
    · next inside =>
      obtain rfl := Except.error.inj refusal
      exact .inl ⟨rfl, .records (reads_and_no_source.mpr ⟨reads, source⟩) unread inside⟩
  | some run =>
    have kind : s.kind = .batchSource ∨ s.kind = .streamingSource := by
      cases at_kind : s.kind <;> simp_all [StageKind.sourceKind]
    rw [checkSource_source kind] at refusal
    split at refusal
    · cases refusal
    · next other =>
      obtain rfl := Except.error.inj refusal
      exact .inr ⟨rfl, .otherSource kind unread other⟩

omit shape listed in
/-- A joiner with some input is refused for a declared input that it lacks. -/
theorem admits_error_joiner (kind : s.kind = .joiner) (read : gather w.phase s r ≠ [])
    (refusal : w.admits s r = .error e) : ∃ input, e = .joinInputMissing s.name input := by
  unfold admits at refusal
  rw [kind] at refusal
  dsimp only at refusal
  split at refusal <;> try contradiction
  split at refusal
  · next joiner _ =>
    cases planned : JoinPlan.build s.name joiner.config ((gather w.phase s r).map (·.1)) with
    | ok plan => simp [planned, Except.map] at refusal
    | error e' =>
      obtain rfl : e' = e := by simpa [planned, Except.map] using refusal
      exact JoinPlan.build_error (by simpa using read) planned
  · cases refusal

/-- The errors with which a stage is refused. -/
theorem admits_error (refusal : w.admits s r = .error e) :
    (e = .noInput s.name ∧ w.LacksInput g s r) ∨ (e = unsupported s ∧ w.Misplaced g s r) ∨
      (s.kind = .joiner ∧ gather w.phase s r ≠ [] ∧
        ∃ input, e = .joinInputMissing s.name input) := by
  by_cases side : s.kind = .errorTransform ∨ s.kind = .alertPublisher
  · rw [admits_sideReader shape side] at refusal
    split at refusal
    · next apart =>
      obtain rfl := Except.error.inj refusal
      exact .inl ⟨rfl, .sideChannels side apart⟩
    · cases refusal
  by_cases action : s.kind = .action
  · rw [admits_action shape action] at refusal
    split at refusal
    · cases refusal
    · next linked =>
      obtain rfl := Except.error.inj refusal
      exact .inr (.inl ⟨rfl, .linkedAction action linked⟩)
  obtain ⟨some_errors, some_alerts⟩ := not_or.mp side
  have reads := StageKind.readsRecords_of_other some_errors some_alerts action
  by_cases unread : gather w.phase s r = []
  · rcases admits_error_unread shape listed reads unread refusal with lacks | misplaced
    · exact .inl lacks
    · exact .inr (.inl misplaced)
  rcases kind_of_refused reads unread refusal with joiner | connector | source
  · exact .inr (.inr ⟨joiner, unread, admits_error_joiner joiner unread refusal⟩)
  · rw [admits_fedConnector connector unread] at refusal
    split at refusal
    · cases refusal
    · next no_sink =>
      obtain rfl := Except.error.inj refusal
      have inside := (Phase.isSink_iff shape listed).not.mp no_sink
      exact .inr (.inl ⟨rfl, .fedConnector connector unread inside⟩)
  · rw [admits_fedSource source unread] at refusal
    obtain rfl := Except.error.inj refusal
    exact .inr (.inl ⟨rfl, .fedSource source unread⟩)

end Place

theorem producersInPhase_refused (kind : s.kind = .errorTransform ∨ s.kind = .alertPublisher)
    (refusal : w.admits s r = .error e) : producersInPhase w.phase s.name = .error e := by
  rw [admits_side kind] at refusal
  cases found : producersInPhase w.phase s.name with
  | ok producers =>
    rw [found] at refusal
    cases refusal
  | error e' =>
    rw [found] at refusal
    exact congrArg Except.error (Except.error.inj refusal)

theorem visitWith_refused {inputs : List (Name × Dataset Json)} {input : Dataset Json}
    (reads : s.kind.readsRecords) (read : gather w.phase s r ≠ []) (other : s.kind ≠ .joiner)
    (refusal : w.admits s r = .error e) : (w.visitWith s inputs input).result = .error e := by
  unfold visitWith
  rcases kind_of_refused reads read refusal with joiner | connector | source
  · exact absurd joiner other
  · rw [admits_fedConnector connector read] at refusal
    rw [connector]
    dsimp only
    split at refusal
    · cases refusal
    · next no_sink =>
      rw [if_neg no_sink]
      exact congrArg Except.error (Except.error.inj refusal)
  · rw [admits_fedSource source read] at refusal
    rcases source with kind | kind <;> rw [kind] <;>
      exact congrArg Except.error (Except.error.inj refusal)

/-- A refusal for the place of a stage comes before anything is called. -/
theorem visit_refused (refusal : w.admits s r = .error e)
    (placed : s.kind ≠ .joiner ∨ gather w.phase s r = []) : (w.visit s r).result = .error e := by
  unfold visit
  split
  · next kind =>
    rw [transformErrors, producersInPhase_refused (.inl kind) refusal]
    rfl
  · next kind =>
    rw [publishAlerts, producersInPhase_refused (.inr kind) refusal]
    rfl
  · next kind =>
    rw [admits_of_action kind] at refusal
    split at refusal
    · cases refusal
    · next linked =>
      rw [if_neg linked]
      exact congrArg Except.error (Except.error.inj refusal)
  · next some_errors some_alerts some_action =>
    have reads := StageKind.readsRecords_of_other some_errors some_alerts some_action
    dsimp only
    split
    · next none =>
      have unread := List.map_eq_nil_iff.mp (Dataset.unionAll_eq_none.mp none)
      rw [admits_of_unread reads unread] at refusal
      rw [readSource, refusal]
      rfl
    · next input some_input =>
      have read : gather w.phase s r ≠ [] := by
        intro empty
        simp [empty, Dataset.unionAll] at some_input
      exact visitWith_refused reads read (placed.resolve_right read) refusal

/-! ## The first failure -/

/-- With which errors a visit fails. -/
structure FailsByPlace (w : Walk) (g : Graph) (s : Stage) (r : Registry)
    (result : Except FlowError Visited) : Prop where
  noInput : ∀ n, result = .error (.noInput n) ↔ n = s.name ∧ w.LacksInput g s r
  unsupported : ∀ n kind, result = .error (.unsupportedStage n kind) ↔
    n = s.name ∧ kind = s.kind.tag ∧ w.Misplaced g s r
  inputMissing : ∀ n input, result = .error (.joinInputMissing n input) →
    n = s.name ∧ s.kind = .joiner
  planned : ∀ n, result ≠ .error (.noJoinInputs n)
  /-- There are no other errors but failures of what was called for the stage. -/
  blamed : ∀ e, result = .error e →
    (∃ n, e = .noInput n) ∨ (∃ n kind, e = .unsupportedStage n kind) ∨
      (∃ n input, e = .joinInputMissing n input) ∨ ∃ f, e = .collaborator s.name f

/-- A walk goes along its order and ends with the first visit that fails, if there is one. -/
structure EndsAtFailure (w : Walk) (g : Graph) : Prop where
  along : (w.visits g.order []).map (·.1.name) <+:
    g.order.filter fun n => (w.phase.stage? n).isSome
  failed : ∀ e, w.schedule.result = .error e ↔
    ∃ completed s r, w.visits g.order [] = completed ++ [(s, r)] ∧ w.AllCompleted completed ∧
      (w.visit s r).result = .error e
  served : (∃ out, w.schedule.result = .ok out) ↔ w.AllCompleted (w.visits g.order [])
  /-- A walk without a failure has visited every stage of the order. -/
  all : w.AllCompleted (w.visits g.order []) → (w.visits g.order []).map (·.1.name) =
    g.order.filter fun n => (w.phase.stage? n).isSome

/-- All errors that a visit may fail with. -/
inductive FailsWith (w : Walk) (g : Graph) (s : Stage) (r : Registry) : FlowError → Prop
  | noInput (lacks : w.LacksInput g s r) : FailsWith w g s r (.noInput s.name)
  | unsupported (misplaced : w.Misplaced g s r) :
      FailsWith w g s r (.unsupportedStage s.name s.kind.tag)
  | inputMissing (kind : s.kind = .joiner) (input : Name) :
      FailsWith w g s r (.joinInputMissing s.name input)
  | blamed (f : Failure) : FailsWith w g s r (.collaborator s.name f)

theorem visit_error (shape : w.phase.graph = some g) (listed : g.contains s.name)
    (failed : (w.visit s r).result = .error e) : w.FailsWith g s r e := by
  have outcome := visit_outcome w s r
  rw [failed] at outcome
  cases outcome with
  | blamed f => exact .blamed f
  | refused refusal =>
    rcases admits_error shape listed refusal with
      ⟨rfl, lacks⟩ | ⟨rfl, misplaced⟩ | ⟨kind, -, input, rfl⟩
    · exact .noInput lacks
    · exact .unsupported misplaced
    · exact .inputMissing kind input

theorem visit_of_lacksInput (shape : w.phase.graph = some g) (listed : g.contains s.name)
    (lacks : w.LacksInput g s r) : (w.visit s r).result = .error (.noInput s.name) := by
  apply visit_refused (admits_of_lacksInput shape listed lacks)
  cases lacks with
  | sideChannels kind _ => rcases kind with kind | kind <;> simp [kind]
  | records _ unread _ => exact .inr unread

theorem visit_of_misplaced (shape : w.phase.graph = some g) (listed : g.contains s.name)
    (misplaced : w.Misplaced g s r) : (w.visit s r).result = .error (unsupported s) := by
  apply visit_refused (admits_of_misplaced shape listed misplaced)
  cases misplaced with
  | otherSource _ unread _ => exact .inr unread
  | linkedAction kind _ | fedConnector kind _ _ => simp [kind]
  | fedSource kind _ => rcases kind with kind | kind <;> simp [kind]

theorem visit_failsByPlace (shape : w.phase.graph = some g) (listed : g.contains s.name) :
    w.FailsByPlace g s r (w.visit s r).result := by
  constructor
  case noInput =>
    intro n
    constructor
    · intro failed
      cases visit_error shape listed failed with
      | noInput lacks => exact ⟨rfl, lacks⟩
    · rintro ⟨rfl, lacks⟩
      exact visit_of_lacksInput shape listed lacks
  case unsupported =>
    intro n kind
    constructor
    · intro failed
      cases visit_error shape listed failed with
      | unsupported misplaced => exact ⟨rfl, rfl, misplaced⟩
    · rintro ⟨rfl, rfl, misplaced⟩
      exact visit_of_misplaced shape listed misplaced
  case inputMissing =>
    intro n input failed
    cases visit_error shape listed failed with
    | inputMissing kind _ => exact ⟨rfl, kind⟩
  case planned =>
    intro n failed
    cases visit_error shape listed failed
  case blamed =>
    intro e failed
    cases visit_error shape listed failed with
    | noInput _ => exact .inl ⟨_, rfl⟩
    | unsupported _ => exact .inr (.inl ⟨_, _, rfl⟩)
    | inputMissing _ input => exact .inr (.inr (.inl ⟨_, input, rfl⟩))
    | blamed f => exact .inr (.inr (.inr ⟨f, rfl⟩))

theorem schedule_endsAtFailure (accepted : w.phase.Accepted) (shape : w.phase.graph = some g) :
    w.EndsAtFailure g := by
  obtain ⟨completed, ends⟩ := w.visitAll_ends g.order ⟨[], []⟩
  rw [← schedule_eq shape] at ends
  have served : (∃ out, w.schedule.result = .ok out) ↔ w.AllCompleted (w.visits g.order []) := by
    constructor
    · rintro ⟨out, ran⟩
      rw [ran] at ends
      cases ends with
      | served each all => rwa [all]
    · intro each
      generalize w.schedule.result = result at ends
      cases ends with
      | @served out _ _ => exact ⟨out, rfl⟩
      | @failed s r e _ last failure =>
        obtain ⟨v, ran⟩ := each (s, r) (by rw [last]; exact List.mem_concat_self)
        cases ran.symm.trans failure
  constructor
  case along => exact visits_prefix (fun _ _ => accepted.name_eq) g.order []
  case served => exact served
  case failed =>
    intro e
    constructor
    · intro stopped
      rw [stopped] at ends
      cases ends with
      | @failed s r _ each last failure => exact ⟨completed, s, r, last, each, failure⟩
    · rintro ⟨before, s, r, last, -, failure⟩
      generalize w.schedule.result = result at ends
      cases ends with
      | @served _ each all =>
        obtain ⟨v, ran⟩ := each (s, r) (by rw [← all, last]; exact List.mem_concat_self)
        cases ran.symm.trans failure
      | @failed t q _ _ last' failure' =>
        obtain ⟨-, same⟩ := List.append_inj' (last'.symm.trans last) rfl
        obtain ⟨rfl, rfl⟩ := Prod.mk.inj (List.singleton_inj.mp same)
        exact congrArg Except.error (Except.error.inj (failure'.symm.trans failure))
  case all =>
    intro each
    obtain ⟨out, ran⟩ := served.mpr each
    rw [← schedule_stages accepted shape ran]
    exact (schedule_explained accepted shape ran).stages

/--
**Failures by place.** Which stages are refused for want of input, and which as unsupported, is told
by their kinds, the graph and the channels they gather. A declared input is missed by joiners only,
a join always has inputs, and every other failure blames what was called for the stage. A walk ends
with the first visit in its order that fails, and succeeds if none does.
-/
theorem fails_by_place (w : Walk) (accepted : w.phase.Accepted) (g : Graph)
    (shape : w.phase.graph = some g) :
    (∀ s r, w.Reaches s r → w.FailsByPlace g s r (w.visit s r).result) ∧ w.EndsAtFailure g := by
  refine ⟨fun s r reached => ?_, schedule_endsAtFailure accepted shape⟩
  apply visit_failsByPlace shape
  obtain ⟨g', before, n, after, tasks, shape', split, found, -⟩ := reached
  obtain rfl := Option.some.inj (shape.symm.trans shape')
  have listed : n ∈ g.order := by simp [split]
  rw [accepted.name_eq found]
  exact decide_eq_true (((accepted.ordered shape).covers n).mp listed)

/-- A source, and a sink that is fed by another phase only. -/
def fedElsewhere : PhaseSpec :=
  ⟨[.plain "x" .sink, .plain "a" .batchSource], [("o", "x"), ("a", "y")]⟩

/-- A walk over it, with a record in the source. -/
def fedElsewhereWalk : Walk :=
  { bare
      { stages := [("a", .plain "a" .batchSource), ("x", .plain "x" .sink)]
        graph := some ⟨["x", "a", "o", "y"], fedElsewhere.connections, ["o", "a", "y", "x"]⟩ } with
    operators := { Operators.empty with sources := [("a", [.plain .null])] } }

/-- The source is visited, and then the walk ends at the sink, which gathers nothing. -/
theorem fails_by_place_fedElsewhere :
    let g : Graph := ⟨["x", "a", "o", "y"], fedElsewhere.connections, ["o", "a", "y", "x"]⟩
    Phase.ofSpec fedElsewhere = .ok fedElsewhereWalk.phase ∧
      fedElsewhereWalk.schedule.result = .error (.noInput "x") ∧
      fedElsewhereWalk.LacksInput g (.plain "x" .sink)
        [("a", .main ⟨[.null], false⟩)] := by
  intro g
  have read : Phase.ofSpec fedElsewhere = .ok fedElsewhereWalk.phase := by cbv
  obtain ⟨by_place, ends⟩ := fails_by_place fedElsewhereWalk (Phase.accepted_ofSpec read) g rfl
  have visits : fedElsewhereWalk.visits g.order [] = [(.plain "a" .batchSource, [])] ++
      [(.plain "x" .sink, [("a", .main ⟨[.null], false⟩)])] := rfl
  have failure : (fedElsewhereWalk.visit (.plain "x" .sink)
      [("a", .main ⟨[.null], false⟩)]).result = .error (.noInput "x") := rfl
  have completed : fedElsewhereWalk.AllCompleted [(.plain "a" .batchSource, [])] := by
    intro x hx
    obtain rfl := List.mem_singleton.mp hx
    exact ⟨_, rfl⟩
  have reached := reaches_of_mem_visits (w := fedElsewhereWalk) (g := g) rfl
    (visits ▸ List.mem_concat_self)
  exact ⟨read, (ends.failed _).mpr ⟨_, _, _, visits, completed, failure⟩,
    ((by_place _ _ reached).noInput _).mp failure |>.2⟩

end Walk

end Stageflow
