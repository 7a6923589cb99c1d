import Stageflow.Proofs.Channels
import Stageflow.Proofs.Contents

/-!
# Outlets

Where the elements of a stream go when it is split into the channels of a stage:

* `Outlet.accepts` are the elements of a channel, `Outlet.OpenOn` the channels that a stage has;
* `Routing.untaken` are the elements that have no channel;
* `route_delivers`: each element goes to one channel or has none, and the sizes add up.
-/

namespace Stageflow

/-- What a channel carries of an element: everything but the tag of an output. -/
inductive Payload
  | record (r : Json)
  | error (e : ErrorRecord)
  | alert (a : Alert)

def Tagged.payload : Tagged → Payload
  | output _ r => .record r
  | error e => .error e
  | alert a => .alert a

/-- A channel of a stage. -/
inductive Outlet
  | main
  | port (name : Name)
  | errors
  | alerts
deriving DecidableEq

namespace Outlet

/-- The elements that belong into a channel. The main one takes outputs of any tag. -/
def accepts : Outlet → Tagged → Bool
  | main, .output .. => true
  | port name, .output tag _ => tag = some name
  | errors, .error _ => true
  | alerts, .alert _ => true
  | _, _ => false

/-- The channels of a stage: one for each name among its ports, or a main one if it has no ports,
and the side channels that are tapped. -/
def OpenOn (s : Stage) (taps : Taps) : Outlet → Prop
  | main => s.ports = []
  | port name => name ∈ s.ports.values
  | errors => taps.errors
  | alerts => taps.alerts

end Outlet

namespace Emitted

/-- The channels that a stage has emitted. -/
def outlets (e : Emitted) : List Outlet :=
  (match e.output with
    | .empty => []
    | .main _ => [.main]
    | .ports t => t.keys.map .port) ++
  (if e.errors.isSome then [.errors] else []) ++ if e.alerts.isSome then [.alerts] else []

/-- What a channel holds. -/
def held (e : Emitted) : Outlet → List Payload
  | .main => (e.output.main?.elim [] (·.items)).map .record
  | .port name => ((e.output.port? name).elim [] (·.items)).map .record
  | .errors => (e.errors.elim [] (·.items)).map .error
  | .alerts => (e.alerts.elim [] (·.items)).map .alert

end Emitted

namespace Routing

/-- The elements that have no channel: errors and alerts that are not tapped and, on a stage with
ports, outputs with no tag or with that of another name. -/
def untaken (s : Stage) (taps : Taps) : Tagged → Bool
  | .error _ => !taps.errors
  | .alert _ => !taps.alerts
  | .output none _ => s.ports ≠ []
  | .output (some name) _ => s.ports ≠ [] ∧ name ∉ s.ports.values

/-- The channels deliver a stream: each holds its own elements in their order, and no element is in
two channels. -/
structure Delivers (s : Stage) (taps : Taps) (stream : List Tagged) (e : Emitted) : Prop where
  once : e.outlets.Nodup
  opened : ∀ o, o ∈ e.outlets ↔ o.OpenOn s taps
  held : ∀ o ∈ e.outlets, e.held o = (stream.filter o.accepts).map Tagged.payload
  taken : ∀ x, ¬ untaken s taps x → ∃! o, o ∈ e.outlets ∧ o.accepts x
  lost : ∀ x, untaken s taps x → ∀ o ∈ e.outlets, ¬ o.accepts x
  complete : (stream.map Tagged.payload).Perm
    (e.outlets.flatMap e.held ++ (stream.filter (untaken s taps)).map Tagged.payload)
  sizes : (e.outlets.flatMap e.held).length + stream.countP (untaken s taps) = stream.length

end Routing

/-! ## The channels of a split stream -/

namespace Routing

variable {p : Phase} {s : Stage} {taps : Taps} {stream : List Tagged} {o : Outlet}

theorem outlets_channels :
    (channels p s taps stream).outlets =
      (if s.portNames = [] then [.main] else s.portNames.map .port) ++
        (if taps.errors then [.errors] else []) ++ if taps.alerts then [.alerts] else [] := by
  have side {α : Type} (on : Bool) (items : List α) :
      (tapped on (p.caches s.name) items).isSome = on := by
    cases on <;> rfl
  rw [Emitted.outlets, channels, side, side, outputOf]
  by_cases none : s.portNames = []
  · rw [if_pos none, if_pos none]
  · rw [if_neg none, if_neg none]
    simp [Table.keys, Function.comp_def]

theorem mem_outlets : o ∈ (channels p s taps stream).outlets ↔ o.OpenOn s taps := by
  have ports : s.portNames = [] ↔ s.ports = [] := Stage.portNames_eq_nil
  have listed (name : Name) : name ∈ s.portNames ↔ name ∈ s.ports.values := Names.mem_sorted
  rw [outlets_channels]
  by_cases none : s.portNames = []
  · cases o <;> simp [Outlet.OpenOn, none, ports.mp none, Table.values]
  · cases o <;> simp [Outlet.OpenOn, none, ports.not.mp none, listed]

theorem outlets_nodup : (channels p s taps stream).outlets.Nodup := by
  rw [outlets_channels]
  have ports : (s.portNames.map Outlet.port).Nodup := by
    apply (Names.sorted_nodup s.ports.values).map
    intro name name' same
    exact Outlet.port.inj same
  by_cases none : s.portNames = []
  · cases taps.errors <;> cases taps.alerts <;> simp [none]
  · cases taps.errors <;> cases taps.alerts <;> simp [none, List.nodup_append, ports]

/-- No element belongs into two channels of a stage. -/
theorem outlet_unique {o' : Outlet} {x : Tagged} (here : o.OpenOn s taps)
    (there : o'.OpenOn s taps) (takes : o.accepts x) (takes' : o'.accepts x) : o = o' := by
  cases x <;> cases o <;> cases o' <;> simp_all [Outlet.accepts, Outlet.OpenOn, Table.values]

/-- An element is untaken if it belongs into no channel of the stage. -/
theorem untaken_iff {x : Tagged} :
    untaken s taps x ↔ ∀ o, Outlet.OpenOn s taps o → ¬ o.accepts x := by
  constructor
  · intro lost o here takes
    cases x with
    | output tag r =>
      cases tag <;> cases o <;> simp_all [untaken, Outlet.accepts, Outlet.OpenOn]
    | error e => cases o <;> simp_all [untaken, Outlet.accepts, Outlet.OpenOn]
    | alert a => cases o <;> simp_all [untaken, Outlet.accepts, Outlet.OpenOn]
  · intro refused
    cases x with
    | output tag r =>
      have ported : s.ports ≠ [] := fun unported => refused .main unported rfl
      cases tag with
      | none => simpa [untaken] using ported
      | some name =>
        have unnamed : name ∉ s.ports.values := fun named =>
          refused (.port name) named (decide_eq_true rfl)
        simp [untaken, ported, unnamed]
    | error e =>
      cases tapped : taps.errors with
      | false => simp [untaken, tapped]
      | true => exact absurd rfl (refused .errors tapped)
    | alert a =>
      cases tapped : taps.alerts with
      | false => simp [untaken, tapped]
      | true => exact absurd rfl (refused .alerts tapped)

theorem filterMap_payload {α : Type} (f : Tagged → Option α) (c : α → Payload) (o : Outlet)
    (picks : ∀ x, (f x).map c = if o.accepts x then some x.payload else none) :
    (stream.filterMap f).map c = (stream.filter o.accepts).map Tagged.payload := by
  rw [List.map_filterMap, ← List.filterMap_eq_map, List.filterMap_filter]
  congr 1
  funext x
  exact picks x

/-- A channel holds the elements that belong into it, in their order. -/
theorem held_channels (here : o.OpenOn s taps) :
    (channels p s taps stream).held o = (stream.filter o.accepts).map Tagged.payload := by
  cases o with
  | main =>
    have unported : s.portNames = [] := Stage.portNames_eq_nil.mpr here
    have output : (channels p s taps stream).output.main? =
        some ⟨stream.filterMap (Tagged.outputOn none), p.caches s.name⟩ := by
      rw [channels, outputOf, if_pos unported]
      rfl
    rw [Emitted.held, output]
    apply filterMap_payload
    intro x
    cases x <;> rfl
  | port name =>
    have listed : name ∈ s.portNames := Names.mem_sorted.mpr here
    have ported : s.portNames ≠ [] := List.ne_nil_of_mem listed
    have output : (channels p s taps stream).output.port? name =
        some ⟨stream.filterMap (Tagged.outputOn (some name)), p.caches s.name⟩ := by
      rw [channels, outputOf, if_neg ported]
      exact Table.get?_map_of_mem _ listed
    rw [Emitted.held, output]
    apply filterMap_payload
    intro x
    cases x with
    | output tag r => by_cases same : tag = some name <;> simp [Tagged.outputOn, Outlet.accepts,
        Tagged.payload, same]
    | error e => rfl
    | alert a => rfl
  | errors =>
    have shown : (channels p s taps stream).errors =
        some ⟨stream.filterMap Tagged.error?, p.caches s.name⟩ := if_pos here
    rw [Emitted.held, shown]
    apply filterMap_payload
    intro x
    cases x <;> rfl
  | alerts =>
    have shown : (channels p s taps stream).alerts =
        some ⟨stream.filterMap Tagged.alert?, p.caches s.name⟩ := if_pos here
    rw [Emitted.held, shown]
    apply filterMap_payload
    intro x
    cases x <;> rfl

/-- The channels and the untaken elements make up the stream. -/
theorem channels_complete (p : Phase) (s : Stage) (taps : Taps) (stream : List Tagged) :
    (stream.map Tagged.payload).Perm
      ((channels p s taps stream).outlets.flatMap (channels p s taps stream).held ++
        (stream.filter (untaken s taps)).map Tagged.payload) := by
  let outlets := (channels p s taps stream).outlets
  have apart : outlets.Pairwise fun o o' => ∀ x, o.accepts x → ¬ o'.accepts x := by
    apply outlets_nodup.pairwise_of_forall_ne
    intro o here o' there different x takes takes'
    exact different (outlet_unique (mem_outlets.mp here) (mem_outlets.mp there) takes takes')
  have left (x : Tagged) (_ : x ∈ stream) :
      untaken s taps x = !outlets.any fun o => o.accepts x := by
    rw [Bool.eq_iff_iff, untaken_iff, Bool.not_eq_true', List.any_eq_false]
    simp only [outlets, mem_outlets]
  have parts := (perm_parted Outlet.accepts (untaken s taps) apart left).map Tagged.payload
  rw [List.map_append, List.map_flatMap] at parts
  have held : outlets.flatMap (channels p s taps stream).held =
      outlets.flatMap fun o => (stream.filter o.accepts).map Tagged.payload :=
    List.flatMap_congr fun o here => held_channels (mem_outlets.mp here)
  rw [held]
  exact parts

theorem channels_delivers : Delivers s taps stream (channels p s taps stream) := by
  constructor
  case once => exact outlets_nodup
  case opened => exact fun o => mem_outlets
  case held => exact fun o listed => held_channels (mem_outlets.mp listed)
  case taken =>
    intro x kept
    rw [untaken_iff] at kept
    push Not at kept
    obtain ⟨o, here, takes⟩ := kept
    exists o, ⟨mem_outlets.mpr here, takes⟩
    rintro o' ⟨there, takes'⟩
    exact outlet_unique (mem_outlets.mp there) here takes' takes
  case lost =>
    intro x lost o listed
    exact untaken_iff.mp lost o (mem_outlets.mp listed)
  case complete => exact channels_complete p s taps stream
  case sizes =>
    have sizes := (channels_complete p s taps stream).length_eq
    rw [List.length_map, List.length_append, List.length_map,
      ← List.countP_eq_length_filter] at sizes
    exact sizes.symm

end Routing

/--
**Each element of a stream goes to one channel or has none.** A stage without ports has a main
channel with all outputs, a stage with ports one channel for each name among them with the outputs
of that tag; errors and alerts have theirs if they are tapped. The channels keep the order of the
stream, and together with the elements that have no channel they are the stream.
-/
theorem route_delivers {ε : Type} (p : Phase) (s : Stage) (combined : Dataset Tagged)
    (taps : Taps) :
    ∃ e, (route p s combined taps : Journaled ε Emitted).result = .ok e ∧
      Routing.Delivers s taps combined.items e :=
  ⟨_, route_result p s combined taps, Routing.channels_delivers⟩

end Stageflow
