import Stageflow.Proofs.Entries

/-!
# Outlines

What is left of a walk when the items of its datasets are taken away: which stages it visits, which
channels they have, which of these are kept, and for which stages it puts off a write.

* `content_outline`: the outline of a content goes by what the stage finds, not by the items;
* `visit_agree`: visits that find channels of the same outline leave such channels again;
* `schedule_outline`: so walks over one phase have one outline, whatever is registered.
-/

namespace Stageflow

/-! ## What is left without items -/

/-- A dataset without its items. -/
def Dataset.outline {α : Type} (d : Dataset α) : Dataset α := ⟨[], d.cached⟩

def StageOutput.outline : StageOutput → StageOutput
  | empty => empty
  | main d => main d.outline
  | ports t => ports (t.mapValues Dataset.outline)

def Emitted.outline (e : Emitted) : Emitted :=
  ⟨e.output.outline, e.errors.map Dataset.outline, e.alerts.map Dataset.outline⟩

/-- The visited stages in their order, each with its channels but without their items. -/
def Registry.outline (r : Registry) : Registry := Table.mapValues Emitted.outline r

namespace Registry

variable {r : Registry} {n : Name}

theorem get?_outline : r.outline.get? n = (r.get? n).map Emitted.outline :=
  Table.get?_mapValues Emitted.outline r n

theorem outputOf_outline {port : Option Name} :
    r.outline.outputOf n port = (r.outputOf n port).map Dataset.outline := by
  unfold outputOf
  rw [get?_outline]
  cases r.get? n with
  | none => rfl
  | some e =>
    obtain ⟨output, errors, alerts⟩ := e
    cases output <;> cases port <;>
      simp [Emitted.outline, StageOutput.outline, StageOutput.main?, StageOutput.port?,
        Table.get?_mapValues]

theorem errorsOf_outline : r.outline.errorsOf n = (r.errorsOf n).map Dataset.outline := by
  unfold errorsOf
  rw [get?_outline]
  cases r.get? n <;> rfl

theorem outline_record {e : Emitted} :
    (r.record n e).outline = r.outline.record n e.outline := by
  simp [outline, record, Table.mapValues]

end Registry

theorem Routing.tapped_outline {α : Type} (on keep : Bool) (items : List α) :
    (tapped on keep items).map Dataset.outline = tapped on keep [] := by
  cases on <;> rfl

theorem Routing.outputOf_outline (s : Stage) (keep : Bool) (elements : List Tagged) :
    (outputOf s keep elements).outline = outputOf s keep [] := by
  unfold outputOf
  split
  · rfl
  · simp [StageOutput.outline, Table.mapValues, Dataset.outline]

/-- A content without its items. -/
def Content.outline : Content → Content
  | nothing => nothing
  | stream _ => stream []
  | records _ => records []
  | write t => write ⟨t.stage, [], [], .done, false⟩

theorem Content.visited_outline (p : Phase) (s : Stage) (c : Content) :
    (c.visited p s).emitted.outline = (c.outline.visited p s).emitted ∧
      (c.visited p s).deferred.map (·.stage) = (c.outline.visited p s).deferred.map (·.stage) := by
  cases c with
  | nothing | records | write => exact ⟨rfl, rfl⟩
  | stream elements =>
    refine ⟨?_, rfl⟩
    simp [visited, outline, Walk.publish, Routing.channels, Emitted.outline,
      Routing.outputOf_outline, Routing.tapped_outline]

open Journaled

namespace Walk

variable {w w' : Walk} {s : Stage} {r r' : Registry} {n : Name} {c : Content}

theorem gather_outline (p : Phase) (s : Stage) (r : Registry) :
    gather p s r.outline = (gather p s r).map fun x => (x.1, x.2.outline) := by
  unfold gather
  rw [List.map_filterMap]
  refine List.filterMap_congr fun n _ => ?_
  cases p.stage? n with
  | none => rfl
  | some t => cases records : r.outputOf n (portBetween t s) <;>
      simp [Registry.outputOf_outline, records]

theorem sideRead_outline (p : Phase) (s : Stage) (r : Registry) :
    sideRead p s r.outline.errorsOf = (sideRead p s r.errorsOf).map Dataset.outline := by
  unfold sideRead
  rw [List.map_filterMap]
  exact List.filterMap_congr fun n _ => Registry.errorsOf_outline

/-- The outline of what a visit makes. -/
def outline (p : Phase) (s : Stage) (r : Registry) : Content :=
  match s.kind with
  | .errorTransform => if (sideRead p s r.errorsOf).isEmpty then .nothing else .stream []
  | .alertPublisher | .action => .nothing
  | .connector =>
    if (gather p s r).isEmpty then .stream [] else .write ⟨s.name, [], [], .done, false⟩
  | .sink | .pluginSink => .write ⟨s.name, [], [], .done, false⟩
  | .batchSource | .streamingSource | .transform | .splitterTransform | .aggregator => .stream []
  | .compute | .windower | .joiner => .records []

theorem content_outline (made : w.content? s r = some c) : c.outline = outline w.phase s r := by
  unfold content? at made
  unfold outline
  cases kind : s.kind <;> simp only [kind] at made ⊢
  case errorTransform =>
    cases read : sideRead w.phase s r.errorsOf with
    | nil =>
      obtain rfl := Option.some.inj (read ▸ made)
      rfl
    | cons d ds =>
      obtain rfl := Option.some.inj (read ▸ made)
      rfl
  case connector =>
    by_cases read : gather w.phase s r = []
    · rw [if_pos read] at made
      obtain ⟨elements, -, rfl⟩ := Option.map_eq_some_iff.mp made
      simp [read, Content.outline]
    · rw [if_neg read] at made
      obtain rfl := Option.some.inj made
      simp [read, Content.outline]
  case batchSource | streamingSource | aggregator =>
    obtain ⟨elements, -, rfl⟩ := Option.map_eq_some_iff.mp made
    rfl
  case transform | splitterTransform | alertPublisher | action =>
    obtain rfl := Option.some.inj made
    rfl
  case sink =>
    obtain rfl := Option.some.inj made
    simp [Content.outline]
  case pluginSink =>
    obtain ⟨plugin, -, last⟩ := Option.bind_eq_some_iff.mp made
    obtain rfl := Option.some.inj last
    rfl
  case compute | windower =>
    obtain ⟨f, -, last⟩ := Option.bind_eq_some_iff.mp made
    obtain ⟨records, -, rfl⟩ := Option.map_eq_some_iff.mp last
    rfl
  case joiner =>
    obtain ⟨joiner, -, rest⟩ := Option.bind_eq_some_iff.mp made
    obtain ⟨keyed, -, last⟩ := Option.bind_eq_some_iff.mp rest
    obtain ⟨records, -, rfl⟩ := Option.map_eq_some_iff.mp last
    rfl

theorem outline_outline (p : Phase) (s : Stage) (r : Registry) :
    outline p s r.outline = outline p s r := by
  unfold outline
  rw [gather_outline, sideRead_outline]
  simp

/-! ## Two visits -/

/-- Two walks over one phase. All that is registered may differ but the plans of joins. -/
structure SamePlan (w w' : Walk) : Prop where
  phase : w.phase = w'.phase
  sourceKind : w.sourceKind = w'.sourceKind
  joins : ∀ n j j', w.plugins.joiners.get? n = some j → w'.plugins.joiners.get? n = some j' →
    j.config = j'.config

/-- Two results are alike, or one of them blames what was called. -/
inductive Agree {α : Type} (like : α → α → Prop) : Except FlowError α → Except FlowError α → Prop
  | ended {a a'} (same : like a a') : Agree like (.ok a) (.ok a')
  | failed (e) : Agree like (.error e) (.error e)
  | blamed_left (stage f y) : Agree like (.error (.collaborator stage f)) y
  | blamed_right (stage f x) : Agree like x (.error (.collaborator stage f))

theorem Agree.bind {α β : Type} {like : α → α → Prop} {like' : β → β → Prop} {x x' : Step α}
    {f f' : α → Step β} (first : Agree like x.result x'.result)
    (next : ∀ a a', like a a' → Agree like' (f a).result (f' a').result) :
    Agree like' (x >>= f).result (x' >>= f').result := by
  generalize one : x.result = a at first
  generalize two : x'.result = a' at first
  cases first with
  | ended same =>
    rw [bind_of_ok f one, bind_of_ok f' two]
    exact next _ _ same
  | failed e =>
    rw [bind_of_error f one, bind_of_error f' two]
    exact .failed e
  | blamed_left stage failure =>
    rw [bind_of_error f one]
    exact .blamed_left stage failure _
  | blamed_right stage failure =>
    rw [bind_of_error f' two]
    exact .blamed_right stage failure _

/-- A joiner that has an input is registered. -/
def HasJoiner (w : Walk) (s : Stage) (r : Registry) : Prop :=
  s.kind = .joiner → gather w.phase s r ≠ [] → ∃ j, w.plugins.joiners.get? s.name = some j

theorem hasJoiner_of_content (made : w.content? s r = some c) : w.HasJoiner s r := by
  intro kind _
  unfold content? at made
  rw [kind] at made
  obtain ⟨joiner, found, -⟩ := Option.bind_eq_some_iff.mp made
  exact ⟨joiner, found⟩

theorem hasJoiner_of_refusal {e : FlowError} (refusal : w.admits s r = .error e) :
    w.HasJoiner s r := by
  intro kind read
  cases found : w.plugins.joiners.get? s.name with
  | some j => exact ⟨j, rfl⟩
  | none =>
    unfold admits at refusal
    rw [kind] at refusal
    split at refusal <;> simp_all

theorem checkSource_agree (plan : SamePlan w w') : w.checkSource s = w'.checkSource s := by
  unfold checkSource
  rw [plan.phase, plan.sourceKind]

theorem gather_agree (plan : SamePlan w w') (same : r.outline = r'.outline) :
    (gather w.phase s r).map (·.1) = (gather w'.phase s r').map (·.1) := by
  have names (p : Phase) (r : Registry) :
      (gather p s r).map (·.1) = (gather p s r.outline).map (·.1) := by
    simp [gather_outline, Function.comp_def]
  rw [names, same, plan.phase, ← names]

theorem admits_agree (plan : SamePlan w w') (same : r.outline = r'.outline)
    (joiner : w.HasJoiner s r) (joiner' : w'.HasJoiner s r') : w.admits s r = w'.admits s r' := by
  have names := gather_agree (s := s) plan same
  have source := checkSource_agree (s := s) plan
  unfold admits
  unfold HasJoiner at joiner joiner'
  rw [plan.phase] at names joiner ⊢
  cases read : gather w'.phase s r with
  | nil =>
    have read' : gather w'.phase s r' = [] := by simpa [read] using names.symm
    rw [read', source]
  | cons x xs =>
    obtain ⟨x', xs', read'⟩ : ∃ x' xs', gather w'.phase s r' = x' :: xs' :=
      List.exists_cons_of_ne_nil fun none => by simp [read, none] at names
    rw [read, read'] at names
    rw [read] at joiner
    rw [read'] at joiner' ⊢
    cases kind : s.kind with
    | joiner =>
      obtain ⟨j, found⟩ := joiner kind (List.cons_ne_nil x xs)
      obtain ⟨j', found'⟩ := joiner' kind (List.cons_ne_nil x' xs')
      simp only [found, found', names, plan.joins s.name j j' found found']
    | _ => rfl

/-- What two visits leave has one outline. -/
def VisitedAlike (v v' : Visited) : Prop :=
  v.emitted.outline = v'.emitted.outline ∧ v.deferred.map (·.stage) = v'.deferred.map (·.stage)

/-- Visits that find channels of one outline leave such channels again. -/
theorem visit_agree (plan : SamePlan w w') (same : r.outline = r'.outline) :
    Agree VisitedAlike (w.visit s r).result (w'.visit s r').result := by
  generalize one : (w.visit s r).result = x
  generalize two : (w'.visit s r').result = y
  -- Unless one of them is blamed, the conditions of both visits are known to agree.
  have outcome : Outcome w s r x := one ▸ visit_outcome w s r
  have outcome' : Outcome w' s r' y := two ▸ visit_outcome w' s r'
  cases outcome with
  | blamed f => exact .blamed_left s.name f y
  | @shown c admitted made =>
    have joiner := hasJoiner_of_content made
    cases outcome' with
    | blamed f => exact .blamed_right s.name f _
    | refused refusal =>
      have agree := admits_agree plan same joiner (hasJoiner_of_refusal refusal)
      cases admitted.symm.trans (agree.trans refusal)
    | @shown c' admitted' made' =>
      have outlines : c.outline = c'.outline := by
        rw [content_outline made, content_outline made', ← outline_outline, same,
          outline_outline, plan.phase]
      obtain ⟨channels, task⟩ := Content.visited_outline w.phase s c
      obtain ⟨channels', task'⟩ := Content.visited_outline w'.phase s c'
      refine .ended ⟨?_, ?_⟩
      · rw [channels, channels', outlines, plan.phase]
      · rw [task, task', outlines, plan.phase]
  | @refused e refusal =>
    have joiner := hasJoiner_of_refusal refusal
    cases outcome' with
    | blamed f => exact .blamed_right s.name f _
    | shown admitted made =>
      have agree := admits_agree plan same joiner (hasJoiner_of_content made)
      cases refusal.symm.trans (agree.trans admitted)
    | @refused e' refusal' =>
      have agree := admits_agree plan same joiner (hasJoiner_of_refusal refusal')
      obtain rfl : e = e' := Except.error.inj (refusal.symm.trans (agree.trans refusal'))
      exact .failed e

/-! ## Two walks -/

/-- What two walks leave has one outline. -/
def ScheduledAlike (out out' : Scheduled) : Prop :=
  out.registry.outline = out'.registry.outline ∧ out.tasks.map (·.stage) = out'.tasks.map (·.stage)

theorem visitAll_agree (plan : SamePlan w w') {ns : List Name} {done done' : Scheduled}
    (alike : ScheduledAlike done done') :
    Agree ScheduledAlike (w.visitAll ns done).result (w'.visitAll ns done').result := by
  induction ns generalizing done done' with
  | nil => exact .ended alike
  | cons n ns ih =>
    cases found : w.phase.stage? n with
    | none =>
      rw [visitAll_external found, visitAll_external (plan.phase ▸ found)]
      exact ih alike
    | some s =>
      rw [visitAll_stage found, visitAll_stage (plan.phase ▸ found)]
      obtain ⟨entries, tasks⟩ := alike
      refine (visit_agree plan entries).bind fun v v' same => ih ?_
      obtain ⟨channels, task⟩ := same
      constructor
      · rw [Registry.outline_record, Registry.outline_record, entries, channels]
      · rw [List.map_append, List.map_append, tasks, ← Option.toList_map, ← Option.toList_map, task]

/--
**The outline of a walk does not depend on the data.** Let two walks go over one phase, with any
registrations that plan joins alike. If neither blames what it has called, then both fail with the
same error, or both succeed: with the same stages visited in the same order, the same channels of
each, the same of them kept, and writes put off for the same stages.
-/
theorem schedule_outline (w w' : Walk) (plan : SamePlan w w')
    (calm : ∀ stage f, w.schedule.result ≠ .error (.collaborator stage f))
    (calm' : ∀ stage f, w'.schedule.result ≠ .error (.collaborator stage f)) :
    (∃ e, w.schedule.result = .error e ∧ w'.schedule.result = .error e) ∨
      ∃ out out', w.schedule.result = .ok out ∧ w'.schedule.result = .ok out' ∧
        out.registry.outline = out'.registry.outline ∧
        out.tasks.map (·.stage) = out'.tasks.map (·.stage) := by
  have agree : Agree ScheduledAlike w.schedule.result w'.schedule.result := by
    unfold schedule
    rw [plan.phase]
    cases w'.phase.requireGraph with
    | error e => exact .failed e
    | ok g => exact visitAll_agree plan ⟨rfl, rfl⟩
  generalize one : w.schedule.result = x at agree calm
  generalize two : w'.schedule.result = y at agree calm'
  cases agree with
  | ended same => exact .inr ⟨_, _, rfl, rfl, same⟩
  | failed e => exact .inl ⟨e, rfl, rfl⟩
  | blamed_left stage f => exact absurd rfl (calm stage f)
  | blamed_right stage f => exact absurd rfl (calm' stage f)

/-- The same walk with other records in the sources and another function for the compute stage. -/
def recomputedWalk : Walk :=
  { portedComputeWalk with
    operators :=
      { Operators.empty with sources := [("a", []), ("b", [.plain .null, .plain .null])] }
    plugins := { Plugins.empty with computes := [("c", RecordFunction.count.run)] } }

/-- Both walks publish the channels of the same stages and put off a write for the same sink. -/
theorem schedule_outline_recomputed :
    ∃ out out', portedComputeWalk.schedule.result = .ok out ∧
      recomputedWalk.schedule.result = .ok out' ∧ out.registry.outline = out'.registry.outline ∧
      out.tasks.map (·.stage) = ["k"] ∧ out'.tasks.map (·.stage) = ["k"] := by
  have ran : portedComputeWalk.schedule.result = .ok ⟨_, _⟩ := rfl
  have ran' : recomputedWalk.schedule.result = .ok ⟨_, _⟩ := rfl
  have plan : SamePlan portedComputeWalk recomputedWalk :=
    ⟨rfl, rfl, fun _ _ _ none => nomatch none⟩
  rcases schedule_outline portedComputeWalk recomputedWalk plan
    (fun _ _ failed => nomatch ran.symm.trans failed)
    (fun _ _ failed => nomatch ran'.symm.trans failed) with
    ⟨e, failed, -⟩ | ⟨out, out', one, two, entries, tasks⟩
  · cases ran.symm.trans failed
  · obtain rfl := Except.ok.inj (ran.symm.trans one)
    exact ⟨_, out', ran, two, entries, rfl, tasks.symm⟩

end Walk

end Stageflow
