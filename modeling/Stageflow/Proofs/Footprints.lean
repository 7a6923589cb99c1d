import Stageflow.Proofs.Steps
import Stageflow.Walk

/-!
# Footprints of visits

What visits leave in the journal. A visit does nothing to another stage than its own, and it never
writes: that is left to the tasks that it puts off (`visit_leaves`).
-/

namespace Stageflow

open Journaled

/-- Events that a visit of a stage may leave. -/
def Event.LeftBy (s : Stage) : Event → Prop
  | .called _ => True
  | .counted stage _ _ | .partitioned stage _ | .split stage _ => stage = s.name
  | .published stage _ => stage = s.name ∧ s.kind = .alertPublisher
  | .wrote .. | .collected .. => False

/-- Events that show nowhere but in the journal and among the streams that were kept. -/
def Event.Silent (s : Stage) : Event → Prop
  | .called _ => True
  | .split stage _ => stage = s.name
  | _ => False

variable {ε : Type} {s : Stage}

theorem Event.Silent.leftBy {e : Event} (h : e.Silent s) : e.LeftBy s := by
  cases e with
  | called c => trivial
  | split stage kept => exact h
  | _ => cases h

namespace Operators

variable {ops : Operators} {combined : Dataset Tagged}

theorem invoke_leaves {α : Type} {call : Call} {body : Journaled Failure α}
    (h : body.Leaves (Event.LeftBy s)) : (ops.invoke call body).Leaves (Event.LeftBy s) := by
  refine .after trivial ?_
  split
  · exact leaves_fail _
  · exact h

theorem emit_leaves {input : Nat} {out : List Tagged} :
    (emit s.name input out : Journaled ε _).Leaves (Event.LeftBy s) := by
  have counts : (countTagged s.name input out : Journaled ε Unit).Leaves (Event.LeftBy s) := by
    refine .after rfl ?_
    refine .after rfl ?_
    exact leaves_note rfl
  exact counts.bind fun _ => leaves_pure _

theorem source_leaves : (ops.source s.name).Leaves (Event.LeftBy s) := by
  refine invoke_leaves ?_
  exact (leaves_ofExcept _).bind fun _ => emit_leaves

theorem transform_leaves {input : Dataset Json} :
    (ops.transform s.name input).Leaves (Event.LeftBy s) := invoke_leaves emit_leaves

theorem multiOutputTransform_leaves {input : Dataset Json} :
    (ops.multiOutputTransform s.name input).Leaves (Event.LeftBy s) := invoke_leaves emit_leaves

theorem errorTransform_leaves {errors : Dataset ErrorRecord} :
    (ops.errorTransform s.name errors).Leaves (Event.LeftBy s) := invoke_leaves emit_leaves

theorem aggregate_leaves {race : Race} {input : Dataset Json} {hint : Option Nat} :
    (ops.aggregate race s.name input hint).Leaves (Event.LeftBy s) := by
  refine invoke_leaves ?_
  refine (leaves_ofExcept _).bind fun aggregation => ?_
  refine .after rfl ?_
  exact (leaves_ofExcept _).bind fun _ => emit_leaves

theorem applyPlugin_leaves {operator : Operator} {input : Dataset Json}
    {f : List Json → Except Failure (List Json)} :
    (ops.applyPlugin operator s.name input f).Leaves (Event.LeftBy s) := by
  refine invoke_leaves ?_
  exact (leaves_ofExcept _).bind fun _ => leaves_pure _

theorem publishAlerts_leaves {alerts : Dataset Alert} (kind : s.kind = .alertPublisher) :
    (ops.publishAlerts s.name alerts).Leaves (Event.LeftBy s) := by
  refine invoke_leaves ?_
  refine .after rfl ?_
  exact leaves_note ⟨rfl, kind⟩

theorem splitOff_silent {α : Type} {call : Call} {keep : Tagged → Option α} :
    (splitOff call s.name combined keep : Journaled ε _).Leaves (Event.Silent s) := by
  refine .after trivial ?_
  exact .after rfl (leaves_pure _)

theorem addJoinKey_leaves {race : Race} {input : Name} {records : Dataset Json} :
    (ops.addJoinKey race s.name input records).Leaves (Event.LeftBy s) := by
  refine invoke_leaves ?_
  split
  · exact leaves_fail _
  · refine (leaves_ofExcept _).bind fun keyed => ?_
    exact .after rfl (leaves_pure _)

theorem joinStep_silent {plan : JoinPlan} {previous : List Name} {rows : Option Joined}
    {step : JoinStep} {keyed : Keyed} :
    (ops.joinStep plan previous rows step keyed : Journaled ε _).Leaves (Event.Silent s) := by
  have called {call : Call} {rows : Joined} :
      (do .note (.called call); return rows : Journaled ε Joined).Leaves (Event.Silent s) :=
    .after trivial (leaves_pure _)
  unfold joinStep
  split <;> exact called

theorem executeSteps_silent {plan : JoinPlan} {keyed : Table Keyed} {steps : List JoinStep}
    {previous : List Name} {rows : Option Joined} :
    (ops.executeSteps plan keyed steps previous rows).Leaves (Event.Silent s) := by
  induction steps generalizing previous rows with
  | nil =>
    unfold executeSteps
    split
    · exact leaves_pure _
    · exact leaves_fail _
  | cons step steps ih =>
    unfold executeSteps
    split
    · exact leaves_fail _
    · exact joinStep_silent.bind fun _ => ih

theorem joinInputs_leaves {config : JoinConfig} {keyed : Table Keyed} :
    (ops.joinInputs s.name config keyed).Leaves (Event.LeftBy s) := by
  have merged {rows : Joined} :
      ((ops.mergeJoinResults s.name rows).blame s.name).Leaves (Event.LeftBy s) := by
    refine Leaves.blame (invoke_leaves ?_)
    exact .after rfl (leaves_pure _)
  refine (leaves_ofExcept _).bind fun plan => ?_
  refine (executeSteps_silent.mono fun _ => Event.Silent.leftBy).bind fun rows => ?_
  exact merged.bind fun _ => leaves_pure _

end Operators

theorem Plugins.resolve_silent {α : Type} {t : Table α} {role : PluginRole} {title : String}
    {m : MacroContext} : (resolve t role title m s.name).Leaves (Event.Silent s) := by
  refine .after trivial ?_
  split
  · exact leaves_pure _
  · exact leaves_fail _

theorem Plugins.resolve_leaves {α : Type} {t : Table α} {role : PluginRole} {title : String}
    {m : MacroContext} : (resolve t role title m s.name).Leaves (Event.LeftBy s) :=
  resolve_silent.mono fun _ => Event.Silent.leftBy

namespace Routing

variable {combined : Dataset Tagged} {keep : Bool}

theorem portChannels_silent {ports : List Name} :
    (portChannels s combined keep ports : Journaled ε _).Leaves (Event.Silent s) := by
  induction ports with
  | nil => exact leaves_pure _
  | cons port ports ih =>
    refine Operators.splitOff_silent.bind fun channel => ?_
    exact ih.bind fun _ => leaves_pure _

theorem outputChannels_silent :
    (outputChannels s combined keep : Journaled ε _).Leaves (Event.Silent s) := by
  unfold outputChannels
  split
  · exact Operators.splitOff_silent.bind fun _ => leaves_pure _
  · exact portChannels_silent.bind fun _ => leaves_pure _

theorem whenTapped_silent {α : Type} {tapped : Bool} {channel : Journaled ε α}
    (h : channel.Leaves (Event.Silent s)) :
    (whenTapped tapped channel).Leaves (Event.Silent s) := by
  unfold whenTapped
  split
  · exact h.map some
  · exact leaves_pure _

end Routing

namespace Walk

variable {w : Walk} {r : Registry} {input : Dataset Json} {inputs : List (Name × Dataset Json)}

/-- The channels of a stream are made in silence. -/
theorem routed_silent {combined : Dataset Tagged} :
    (w.routed s combined).Leaves (Event.Silent s) := by
  refine Leaves.map publish ?_
  refine (Routing.whenTapped_silent Operators.splitOff_silent).bind fun errors => ?_
  refine (Routing.whenTapped_silent Operators.splitOff_silent).bind fun alerts => ?_
  exact Routing.outputChannels_silent.bind fun _ => leaves_pure _

theorem routed_leaves {combined : Dataset Tagged} :
    (w.routed s combined).Leaves (Event.LeftBy s) :=
  routed_silent.mono fun _ => Event.Silent.leftBy

theorem readSource_leaves : (w.readSource s).Leaves (Event.LeftBy s) := by
  refine (leaves_ofExcept _).bind fun _ => ?_
  exact Operators.source_leaves.blame.bind fun _ => routed_leaves

theorem transformErrors_leaves : (w.transformErrors s r).Leaves (Event.LeftBy s) := by
  refine (leaves_ofExcept _).bind fun producers => ?_
  split
  · exact leaves_pure _
  · exact Operators.errorTransform_leaves.blame.bind fun _ => routed_leaves

theorem publishAlerts_leaves (kind : s.kind = .alertPublisher) :
    (w.publishAlerts s r).Leaves (Event.LeftBy s) := by
  refine (leaves_ofExcept _).bind fun producers => ?_
  split
  · exact leaves_pure _
  · exact (Operators.publishAlerts_leaves kind).blame.bind fun _ => leaves_pure _

theorem keyInputs_leaves : (w.keyInputs s inputs).Leaves (Event.LeftBy s) := by
  induction inputs with
  | nil => exact leaves_pure _
  | cons i inputs ih =>
    refine Operators.addJoinKey_leaves.blame.bind fun keyed => ?_
    exact ih.bind fun _ => leaves_pure _

theorem joinInputs_leaves : (w.joinInputs s inputs).Leaves (Event.LeftBy s) := by
  refine Plugins.resolve_leaves.blame.bind fun joiner => ?_
  refine .after trivial ?_
  refine (leaves_ofExcept _).bind fun _ => ?_
  refine keyInputs_leaves.bind fun keyed => ?_
  exact Operators.joinInputs_leaves.bind fun _ => leaves_pure _

theorem store_leaves : (w.store s input).Leaves (Event.LeftBy s) :=
  .after trivial (leaves_pure _)

theorem storeByPlugin_leaves : (w.storeByPlugin s input).Leaves (Event.LeftBy s) := by
  refine Plugins.resolve_leaves.blame.bind fun plugin => ?_
  exact .after trivial (leaves_pure _)

theorem computed_leaves {operator : Operator} {f : List Json → Except Failure (List Json)} :
    (w.computed s operator input f).Leaves (Event.LeftBy s) :=
  Operators.applyPlugin_leaves.blame.bind fun _ => leaves_pure _

theorem visitWith_leaves : (w.visitWith s inputs input).Leaves (Event.LeftBy s) := by
  unfold visitWith
  split
  · exact joinInputs_leaves
  · exact store_leaves
  · split
    · exact store_leaves
    · exact leaves_fail _
  · exact storeByPlugin_leaves
  · exact Operators.transform_leaves.blame.bind fun _ => routed_leaves
  · exact Operators.multiOutputTransform_leaves.blame.bind fun _ => routed_leaves
  · exact Operators.aggregate_leaves.blame.bind fun _ => routed_leaves
  · exact Plugins.resolve_leaves.blame.bind fun _ => computed_leaves
  · exact Plugins.resolve_leaves.blame.bind fun _ => computed_leaves
  all_goals exact leaves_fail _

/-- A visit does nothing to another stage, publishes only for publishers, and never writes. -/
theorem visit_leaves : (w.visit s r).Leaves (Event.LeftBy s) := by
  unfold visit
  split
  · exact transformErrors_leaves
  · next kind => exact publishAlerts_leaves kind
  · split
    · exact leaves_pure _
    · exact leaves_fail _
  · dsimp only
    split
    · exact readSource_leaves
    · exact visitWith_leaves

end Walk

end Stageflow
