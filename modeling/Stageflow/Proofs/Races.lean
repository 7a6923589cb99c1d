import Stageflow.Proofs.Contents

/-!
# Races

Records get their keys in parallel. If several records of a call fail, a race between them decides
which failure is reported. Nothing else of a walk depends on the race:

* `visit_racing` and `schedule_racing`: with another race a walk leaves the same events, and it
  succeeds with the same result or fails with an error that may differ in the record it reports;
* `Walk.SameFault` are errors of which a race may report either: failures of two records for which
  one visit calls one key function;
* `Operators.Uniform`: where every key function has one failure for all records, races do not show.
-/

namespace Stageflow

/-! ## Steps that end alike -/

namespace Journaled

variable {ε α β : Type} {rel rel' : ε → ε → Prop} {x y : Journaled ε α}

/-- Two steps leave the same events, and end with the same value or with related errors. -/
inductive EndsAlike (rel : ε → ε → Prop) : Journaled ε α → Journaled ε α → Prop
  | ended (events a) : EndsAlike rel ⟨events, .ok a⟩ ⟨events, .ok a⟩
  | failed (events) {e e'} (related : rel e e') :
      EndsAlike rel ⟨events, .error e⟩ ⟨events, .error e'⟩

namespace EndsAlike

theorem same (refl : ∀ e, rel e e) (x : Journaled ε α) : EndsAlike rel x x := by
  obtain ⟨events, result⟩ := x
  cases result with
  | ok a => exact .ended events a
  | error e => exact .failed events (refl e)

theorem mono (h : EndsAlike rel x y) (wider : ∀ e e', rel e e' → rel' e e') :
    EndsAlike rel' x y := by
  cases h with
  | ended events a => exact .ended events a
  | failed events related => exact .failed events (wider _ _ related)

/-- If the first of two steps ends well, the second may rely on how it did. -/
theorem bind {f g : α → Journaled ε β} (first : EndsAlike rel x y)
    (next : ∀ a, x.result = .ok a → EndsAlike rel (f a) (g a)) :
    EndsAlike rel (x >>= f) (y >>= g) := by
  cases first with
  | failed events related => exact .failed events related
  | ended events a =>
    rw [bind_of_ok f rfl, bind_of_ok g rfl]
    have rest := next a rfl
    generalize f a = x' at rest
    generalize g a = y' at rest
    cases rest with
    | ended later b => exact .ended (events ++ later) b
    | failed later related => exact .failed (events ++ later) related

theorem blame {rel : FlowError → FlowError → Prop} {stage : Name} {x y : Journaled Failure α}
    (h : EndsAlike (fun f f' => rel (.collaborator stage f) (.collaborator stage f')) x y) :
    EndsAlike rel (x.blame stage) (y.blame stage) := by
  cases h with
  | ended events a => exact .ended events a
  | failed events related => exact .failed events related

theorem events (h : EndsAlike rel x y) : x.events = y.events := by
  cases h <;> rfl

theorem ok_iff (h : EndsAlike rel x y) {a : α} : x.result = .ok a ↔ y.result = .ok a := by
  cases h with
  | ended => rfl
  | failed => exact ⟨nofun, nofun⟩

theorem error {e e' : ε} (h : EndsAlike rel x y) (ended : x.result = .error e)
    (ended' : y.result = .error e') : rel e e' := by
  cases h with
  | ended => cases ended
  | failed events related =>
    obtain rfl := Except.error.inj ended
    obtain rfl := Except.error.inj ended'
    exact related

end EndsAlike

end Journaled

open Journaled

/-! ## Operators -/

namespace Operators

variable {ops : Operators} {stage : Name} {rel : Failure → Failure → Prop}

theorem withKeys_racing {key : KeyFunction} {records : List Json}
    (raced : ∀ f ∈ failures key records, ∀ f' ∈ failures key records, rel f f')
    (pick pick' : Nat) :
    EndsAlike rel (.ofExcept (withKeys pick key records))
      (.ofExcept (withKeys pick' key records)) := by
  cases paired : withKeys pick key records with
  | ok keyed =>
    rw [withKeys_repick paired pick']
    exact .ended [] keyed
  | error f =>
    have failed := mem_failures.mpr (withKeys_error paired)
    cases paired' : withKeys pick' key records with
    | ok keyed =>
      rw [failures_of_withKeys paired'] at failed
      cases failed
    | error f' =>
      exact .failed [] (raced f failed f' (mem_failures.mpr (withKeys_error paired')))

theorem invoke_racing {α : Type} {call : Call} {body body' : Journaled Failure α}
    (refl : ∀ f, rel f f) (h : EndsAlike rel body body') :
    EndsAlike rel (ops.invoke call body) (ops.invoke call body') := by
  refine .bind (.same refl _) fun _ _ => ?_
  cases ops.faults call.tag call.stage with
  | some f => exact .same refl _
  | none => exact h

theorem aggregate_racing {input : Dataset Json} {hint : Option Nat} (refl : ∀ f, rel f f)
    (raced : ∀ a, ops.aggregations.get? stage = some a →
      ∀ f ∈ failures a.key input.items, ∀ f' ∈ failures a.key input.items, rel f f')
    (race race' : Race) :
    EndsAlike rel (ops.aggregate race stage input hint) (ops.aggregate race' stage input hint) := by
  refine invoke_racing refl (.bind (.same refl _) fun a found => ?_)
  refine .bind (.same refl _) fun _ _ => ?_
  exact .bind (withKeys_racing (raced a (lookup_ok found)) _ _) fun _ _ => .same refl _

theorem addJoinKey_racing {input : Name} {records : Dataset Json} (refl : ∀ f, rel f f)
    (raced : ∀ key, ops.keyFunction? stage input = some key →
      ∀ f ∈ failures key records.items, ∀ f' ∈ failures key records.items, rel f f')
    (race race' : Race) :
    EndsAlike rel (ops.addJoinKey race stage input records)
      (ops.addJoinKey race' stage input records) := by
  refine invoke_racing refl ?_
  cases found : ops.keyFunction? stage input with
  | none => exact .same refl _
  | some key => exact .bind (withKeys_racing (raced key found) _ _) fun _ _ => .same refl _

/-- A key function has one failure for all records without a key. -/
def FailsOneWay (key : KeyFunction) : Prop :=
  ∀ r r' f f', key r = .error f → key r' = .error f' → f = f'

/-- Every key function that is registered has one failure for all records without a key. -/
structure Uniform (ops : Operators) : Prop where
  aggregations : ∀ n a, ops.aggregations.get? n = some a → FailsOneWay a.key
  joinKeys : ∀ n input key, ops.keyFunction? n input = some key → FailsOneWay key

/-- A key function by a field reports the field and nothing of the record. -/
theorem fieldKey_failsOneWay (field : Name) : FailsOneWay (fieldKey field) := by
  have always (r : Json) (f : Failure) (missing : fieldKey field r = .error f) :
      f = .of ("record has no field '" ++ field ++ "'") := by
    unfold fieldKey at missing
    split at missing
    · cases missing
    · cases missing
    · exact (Except.error.inj missing).symm
  exact fun r r' f f' first second => (always r f first).trans (always r' f' second).symm

theorem textKey_failsOneWay (field : Name) : FailsOneWay (textKey field) := by
  have always (r : Json) (f : Failure) (missing : textKey field r = .error f) :
      f = .of ("no text field '" ++ field ++ "'") := by
    unfold textKey at missing
    split at missing
    · cases missing
    · exact (Except.error.inj missing).symm
  exact fun r r' f f' first second => (always r f first).trans (always r' f' second).symm

/-- Where all keys are those of fields, races do not show. -/
theorem uniform_of_fields
    (aggregations : ∀ n a, ops.aggregations.get? n = some a →
      ∃ field, a.key = fieldKey field ∨ a.key = textKey field)
    (joinKeys : ∀ n input key, ops.keyFunction? n input = some key →
      ∃ field, key = fieldKey field ∨ key = textKey field) : ops.Uniform := by
  have one_way {key : KeyFunction} : (∃ field, key = fieldKey field ∨ key = textKey field) →
      FailsOneWay key := by
    rintro ⟨field, rfl | rfl⟩
    · exact fieldKey_failsOneWay field
    · exact textKey_failsOneWay field
  constructor
  · exact fun n a registered => one_way (aggregations n a registered)
  · exact fun n input key registered => one_way (joinKeys n input key registered)

end Operators

/-! ## Visits -/

namespace Walk

variable {w : Walk} {s : Stage} {r : Registry} {race : Race} {e e' : FlowError}
  {visits visits' : List (Stage × Registry)}

/-- The same walk with another race. -/
def racing (w : Walk) (race : Race) : Walk := { w with race }

/-- A key function that a visit calls, with the records for which it does. -/
inductive Keys (w : Walk) (s : Stage) (r : Registry) : KeyFunction → List Json → Prop
  | aggregation {a} (kind : s.kind = .aggregator)
      (registered : w.operators.aggregations.get? s.name = some a) :
      Keys w s r a.key (w.gathered s r)
  | join {n d key} (kind : s.kind = .joiner) (read : (n, d) ∈ gather w.phase s r)
      (registered : w.operators.keyFunction? s.name n = some key) : Keys w s r key d.items

theorem Keys.failsOneWay {key : KeyFunction} {records : List Json} (calls : w.Keys s r key records)
    (uniform : w.operators.Uniform) : Operators.FailsOneWay key := by
  cases calls with
  | aggregation _ registered => exact uniform.aggregations _ _ registered
  | join _ _ registered => exact uniform.joinKeys _ _ _ registered

/-- Errors of which a race may report either, after some visits. -/
inductive SameFault (w : Walk) (visits : List (Stage × Registry)) : FlowError → FlowError → Prop
  | same (e : FlowError) : SameFault w visits e e
  /-- One visit calls a key function for some records, and two of them fail. -/
  | raced {s r key records f f'} (visited : (s, r) ∈ visits) (calls : w.Keys s r key records)
      (first : f ∈ Operators.failures key records)
      (second : f' ∈ Operators.failures key records) :
      SameFault w visits (.collaborator s.name f) (.collaborator s.name f')

theorem SameFault.mono (fault : w.SameFault visits e e') (more : visits ⊆ visits') :
    w.SameFault visits' e e' := by
  cases fault with
  | same e => exact .same e
  | raced visited calls first second => exact .raced (more visited) calls first second

/-- Where every key function has one failure for all records, there is one error. -/
theorem SameFault.eq (fault : w.SameFault visits e e') (uniform : w.operators.Uniform) :
    e = e' := by
  cases fault with
  | same => rfl
  | raced visited calls first second =>
    obtain ⟨x, -, missing⟩ := Operators.mem_failures.mp first
    obtain ⟨x', -, missing'⟩ := Operators.mem_failures.mp second
    rw [calls.failsOneWay uniform x x' _ _ missing missing']

theorem keyInputs_racing {inputs : List (Name × Dataset Json)} (kind : s.kind = .joiner)
    (read : inputs ⊆ gather w.phase s r) :
    EndsAlike (w.SameFault [(s, r)]) (w.keyInputs s inputs)
      ((w.racing race).keyInputs s inputs) := by
  induction inputs with
  | nil => exact .ended [] []
  | cons i inputs ih =>
    obtain ⟨n, d⟩ := i
    obtain ⟨here, others⟩ := List.cons_subset.mp read
    refine .bind (.blame ?_) fun keyed _ => .bind (ih others) fun _ _ => .same SameFault.same _
    refine Operators.addJoinKey_racing (fun f => .same _) (fun key registered f hf f' hf' => ?_) _ _
    exact .raced (.head _) (.join kind here registered) hf hf'

theorem joinInputs_racing (kind : s.kind = .joiner) :
    EndsAlike (w.SameFault [(s, r)]) (w.joinInputs s (gather w.phase s r))
      ((w.racing race).joinInputs s (gather w.phase s r)) := by
  refine .bind (.same SameFault.same _) fun joiner _ => ?_
  refine .bind (.same SameFault.same _) fun _ _ => ?_
  refine .bind (.same SameFault.same _) fun _ _ => ?_
  exact .bind (keyInputs_racing kind (List.Subset.refl _)) fun _ _ => .same SameFault.same _

theorem visitWith_racing {input : Dataset Json} (items : input.items = w.gathered s r) :
    EndsAlike (w.SameFault [(s, r)]) (w.visitWith s (gather w.phase s r) input)
      ((w.racing race).visitWith s (gather w.phase s r) input) := by
  unfold visitWith
  cases kind : s.kind with
  | joiner => exact joinInputs_racing kind
  | aggregator =>
    refine .bind (.blame ?_) fun combined _ => .same SameFault.same _
    refine Operators.aggregate_racing (fun f => .same _) (fun a registered => ?_) _ _
    rw [items]
    exact fun f hf f' hf' => .raced (.head _) (.aggregation kind registered) hf hf'
  | _ => exact .same SameFault.same _

/-- With another race, a visit leaves the same, or its error reports another of its records. -/
theorem visit_racing (w : Walk) (race : Race) (s : Stage) (r : Registry) :
    EndsAlike (w.SameFault [(s, r)]) (w.visit s r) ((w.racing race).visit s r) := by
  have phase : (w.racing race).phase = w.phase := rfl
  unfold visit
  rw [phase]
  split
  · exact .same SameFault.same _
  · exact .same SameFault.same _
  · exact .same SameFault.same _
  · dsimp only
    split
    · exact .same SameFault.same _
    · next input union => exact visitWith_racing (gathered_items union)

/-! ## Walks -/

/-- With another race, a walk visits the same stages up to the one that fails. -/
theorem visitAll_racing (w : Walk) (race : Race) (ns : List Name) (done : Scheduled) :
    EndsAlike (w.SameFault (w.visits ns done.registry)) (w.visitAll ns done)
      ((w.racing race).visitAll ns done) := by
  induction ns generalizing done with
  | nil => exact .ended [] done
  | cons n ns ih =>
    cases found : w.phase.stage? n with
    | none =>
      have found' : (w.racing race).phase.stage? n = none := found
      rw [visitAll_external found, visitAll_external found', visits_external found]
      exact ih done
    | some s =>
      have found' : (w.racing race).phase.stage? n = some s := found
      rw [visitAll_stage found, visitAll_stage found']
      -- Both the visit and the walk after it speak of fewer visits than the whole walk has.
      have here : [(s, done.registry)] ⊆ w.visits (n :: ns) done.registry := by
        simp [visits, found]
      refine .bind ((visit_racing w race s _).mono fun e e' fault => fault.mono here) ?_
      intro v ran
      refine (ih _).mono fun e e' fault => fault.mono ?_
      rw [visits_ok found ran]
      exact List.subset_cons_self _ _

/-- The visits of a whole walk, each with the registry that it reads. -/
def trail (w : Walk) : List (Stage × Registry) := w.phase.graph.elim [] fun g => w.visits g.order []

/-- **Races only show in the record that an error reports.** With another race a walk leaves the
same events. It succeeds with the same channels and tasks, or it fails with an error that differs in
nothing but which of the records that failed in one call it reports. -/
theorem schedule_racing (w : Walk) (race : Race) :
    EndsAlike (w.SameFault w.trail) w.schedule (w.racing race).schedule := by
  have shape : (w.racing race).phase.requireGraph = w.phase.requireGraph := rfl
  unfold schedule trail
  rw [shape]
  unfold Phase.requireGraph
  cases w.phase.graph with
  | none => exact .same SameFault.same _
  | some g => exact visitAll_racing w race g.order ⟨[], []⟩

theorem schedule_ok_racing (w : Walk) (race : Race) (out : Scheduled) :
    (w.racing race).schedule.result = .ok out ↔ w.schedule.result = .ok out :=
  (schedule_racing w race).ok_iff.symm

end Walk

end Stageflow
