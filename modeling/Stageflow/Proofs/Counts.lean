import Stageflow.Proofs.Caching
import Stageflow.Proofs.Groups
import Stageflow.Proofs.Outlets

/-!
# Counts of records

What the collectors show after a walk. Operators count apart from the channels that are made of
what they emit, so that the two have to be shown to agree:

* `visit_counts`, `joiner_counts`, `publisher_counts`: what the visits of each kind count;
* `size_of_ports`: the outputs that were counted are in a port channel, or have no tag of a port;
* `schedule_balanced`: the counts at the end of a walk balance, and so do those of its writes.
-/

namespace Stageflow

/-- The sizes of some datasets together. -/
def Dataset.total {α : Type} (ds : List (Dataset α)) : Nat := ds.foldr (fun d n => d.size + n) 0

theorem Dataset.total_eq {α : Type} (ds : List (Dataset α)) :
    total ds = (ds.flatMap (·.items)).length := by
  induction ds with
  | nil => rfl
  | cons d ds ih => rw [List.flatMap_cons, List.length_append, ← ih]; rfl

/-! ## Collectors -/

namespace Metrics

/-- Adds several counts. -/
def addAll (m : Metrics) (cs : List (Counter × Nat)) : Metrics :=
  cs.foldl (fun m c => m.add c.1 c.2) m

theorem add_zero (m : Metrics) (c : Counter) : m.add c 0 = m := by
  cases c <;> simp [add]

theorem add_add (m : Metrics) (c : Counter) (a b : Nat) :
    (m.add c a).add c b = m.add c (a + b) := by
  cases c <;> simp [add, UInt64.ofNat_add, UInt64.add_assoc]

/-- The sizes of some datasets, counted one after the other, are counted together. -/
theorem addAll_sizes {α : Type} (m : Metrics) (c : Counter) (ds : List (Dataset α)) :
    m.addAll (ds.map fun d => (c, d.size)) = m.add c (Dataset.total ds) := by
  induction ds generalizing m with
  | nil => exact (m.add_zero c).symm
  | cons d ds ih =>
    rw [List.map_cons, addAll, List.foldl_cons, ← addAll, ih, add_add]
    rfl

end Metrics

namespace Collectors

theorem get?_add (cs : Collectors) (stage n : Name) (c : Counter) (k : Nat) :
    (cs.add stage c k).get? n = if stage = n then (cs.get? n).map (·.add c k) else cs.get? n := by
  unfold add
  split
  · next none =>
    split
    · next here => rw [← here, none]; rfl
    · rfl
  · next m found =>
    rw [Table.get?_insert]
    split
    · next here => rw [← here, found]; rfl
    · rfl

end Collectors

/-- The counts for a stage, in their order. -/
def countsOf (stage : Name) (es : List Event) : List (Counter × Nat) :=
  es.filterMap fun
    | .counted s c n => if s = stage then some (c, n) else none
    | _ => none

section CountsOf

variable {n : Name} {es es' : List Event}

theorem countsOf_append : countsOf n (es ++ es') = countsOf n es ++ countsOf n es' :=
  List.filterMap_append

theorem countsOf_eq_nil (uncounted : ∀ c k, .counted n c k ∉ es) : countsOf n es = [] := by
  refine List.filterMap_eq_nil_iff.mpr fun e he => ?_
  cases e with
  | counted s c k =>
    have other : s ≠ n := by
      rintro rfl
      exact uncounted c k he
    exact if_neg other
  | _ => rfl

/-- The collector of a stage, if it has one, shows the counts for the stage. -/
theorem Ledger.collectors_postAll (l : Ledger) :
    (l.postAll es).collectors.get? n =
      (l.collectors.get? n).map fun m => m.addAll (countsOf n es) := by
  induction es generalizing l with
  | nil => exact Option.map_id_apply.symm
  | cons e es ih =>
    rw [postAll_cons, ih]
    cases e with
    | counted s c k =>
      rw [post, Collectors.get?_add]
      by_cases here : s = n
      · simp [here, countsOf, Metrics.addAll, Function.comp_def]
      · simp [here, countsOf]
    | _ => rfl

end CountsOf

open Journaled

theorem Journaled.countsOf_of_silent {ε α : Type} {x : Journaled ε α} {s : Stage} {n : Name}
    (silent : x.Leaves (Event.Silent s)) : countsOf n x.events = [] :=
  countsOf_eq_nil fun _ _ counted => silent _ counted

/-! ## What operators count -/

/-- What is counted for a stream: what was read for it, its outputs and its errors. -/
def streamCounts (read : Nat) (elements : List Tagged) : List (Counter × Nat) :=
  [(.input, read), (.output, elements.countP Tagged.isOutput),
    (.error, elements.countP Tagged.isError)]

/-- A step that makes a stream counts for it. -/
def Journaled.CountsStream {ε : Type} (stage : Name) (read : Nat)
    (x : Journaled ε (Dataset Tagged)) : Prop :=
  ∀ d, x.result = .ok d → countsOf stage x.events = streamCounts read d.items

namespace Journaled.CountsStream

variable {ε α : Type} {stage : Name} {read : Nat}

theorem bind {x : Journaled ε α} {f : α → Journaled ε (Dataset Tagged)}
    (first : countsOf stage x.events = []) (next : ∀ a, CountsStream stage read (f a)) :
    CountsStream stage read (x >>= f) := by
  intro d ran
  obtain ⟨a, made, rest⟩ := bind_ok_iff.mp ran
  rw [bind_of_ok _ made, countsOf_append, first, List.nil_append, next a d rest]

theorem blame {x : Journaled Failure (Dataset Tagged)} (counts : CountsStream stage read x) :
    CountsStream stage read (x.blame stage) :=
  fun d ran => counts d (blame_ok ran)

end Journaled.CountsStream

namespace Operators

variable {ε : Type} {ops : Operators} {stage : Name} {read : Nat}

theorem emit_counts {out : List Tagged} :
    CountsStream stage read (emit stage read out : Journaled ε _) := by
  intro d ran
  obtain rfl := emit_ok ran
  simp [emit, countTagged, countsOf, streamCounts, Dataset.of, bind, pure, note]

theorem invoke_counts {call : Call} {body : Journaled Failure (Dataset Tagged)}
    (counts : CountsStream stage read body) : CountsStream stage read (ops.invoke call body) := by
  intro d ran
  rw [invoke_events ran]
  exact counts d (invoke_ok ran)

theorem source_counts : CountsStream stage 0 (ops.source stage) := by
  refine invoke_counts ?_
  exact .bind rfl fun _ => emit_counts

theorem aggregate_counts {race : Race} {input : Dataset Json} {hint : Option Nat} :
    CountsStream stage input.size (ops.aggregate race stage input hint) := by
  refine invoke_counts ?_
  refine .bind rfl fun aggregation => ?_
  refine .bind rfl fun _ => ?_
  exact .bind rfl fun _ => emit_counts

/-- An input of a joiner is counted when it has got its keys. -/
theorem addJoinKey_counts {race : Race} {input : Name} {records : Dataset Json} {keyed : Keyed}
    (ran : (ops.addJoinKey race stage input records).result = .ok keyed) :
    countsOf stage (ops.addJoinKey race stage input records).events =
      [(.input, records.size)] := by
  obtain ⟨key, pairs, found, paired, -⟩ := addJoinKey_ok ran
  obtain ⟨same, -⟩ := withKeys_ok paired
  have size : pairs.length = records.size := by rw [Dataset.size, ← same, List.length_map]
  unfold addJoinKey at ran ⊢
  rw [invoke_events ran, found]
  simp [withKeys_repick paired, size, countsOf, Journaled.ofExcept, bind, pure, note]

/-- The rows of a join are counted when they are merged. -/
theorem mergeJoinResults_counts {joined : Joined} {out : Dataset Json}
    (ran : (ops.mergeJoinResults stage joined).result = .ok out) :
    countsOf stage (ops.mergeJoinResults stage joined).events = [(.output, out.size)] := by
  have size : out.size = joined.size := by
    rw [Dataset.size, mergeJoinResults_ok ran, List.length_map, Dataset.size]
  unfold mergeJoinResults at ran ⊢
  rw [invoke_events ran, size]
  simp [countsOf, bind, pure, note]

end Operators

/-! ## What visits count -/

namespace Walk

variable {w : Walk} {s : Stage} {r : Registry} {v : Visited} {n : Name}

/-- How many elements a stage reads for the stream that it makes. -/
def readSize (w : Walk) (s : Stage) (r : Registry) : Nat :=
  match s.kind with
  | .errorTransform => Dataset.total (sideRead w.phase s r.errorsOf)
  | _ => Dataset.total ((gather w.phase s r).map (·.2))

theorem gathered_size :
    (w.gathered s r).length = Dataset.total ((gather w.phase s r).map (·.2)) := by
  rw [Dataset.total_eq, gathered, List.flatMap_map]

theorem readSize_of_input {input : Dataset Json} (kind : s.kind ≠ .errorTransform)
    (items : input.items = w.gathered s r) : w.readSize s r = input.size := by
  rw [Dataset.size, items, gathered_size]
  unfold readSize
  split
  · contradiction
  · rfl

/-- Of what reads records, only a source of the run may have nothing to read. -/
theorem kind_of_unread (kind : s.kind.readsRecords) (unread : gather w.phase s r = [])
    (admitted : w.admits s r = .ok ()) :
    s.kind = .connector ∨ s.kind.sourceKind = some w.sourceKind :=
  checkSource_kind ((admits_of_unread kind unread).symm.trans admitted)

theorem Makes.counts {x : Step (Dataset Tagged)} (makes : w.Makes s r x) :
    CountsStream s.name (w.readSize s r) x := by
  cases makes with
  | source kind unread =>
    have none : w.readSize s r = 0 := by
      cases at_kind : s.kind <;> simp_all [readSize, Dataset.total, StageKind.readsRecords]
    rw [none]
    exact .bind rfl fun _ => Operators.source_counts.blame
  | @errors errors kind read items =>
    have size : w.readSize s r = errors.size := by
      simp only [readSize, kind]
      rw [Dataset.total_eq, ← items, Dataset.size]
    rw [size]
    exact (Operators.invoke_counts Operators.emit_counts).blame
  | transformed kind items | split kind items =>
    rw [readSize_of_input (by simp [kind]) items]
    exact (Operators.invoke_counts Operators.emit_counts).blame
  | aggregated kind items hint =>
    rw [readSize_of_input (by simp [kind]) items]
    exact Operators.aggregate_counts.blame

/-- What a visit that splits a stream has made before it splits it. -/
theorem visit_stream (splits : w.splits s r) (ran : (w.visit s r).result = .ok v) :
    ∃ x d, w.Makes s r x ∧ w.visit s r = x >>= w.routed s ∧ x.result = .ok d ∧
      d.items = w.streamed s r := by
  obtain ⟨x, makes, shape⟩ := visit_makes splits ran
  rw [shape] at ran
  obtain ⟨d, made, -⟩ := bind_ok_iff.mp ran
  exact ⟨x, d, makes, shape, made, by rw [streamed, makes.content made]⟩

/-- A visit that splits a stream counts for the whole of it, whatever channels are made of it. -/
theorem visit_counts (splits : w.splits s r) (ran : (w.visit s r).result = .ok v) :
    countsOf s.name (w.visit s r).events = streamCounts (w.readSize s r) (w.streamed s r) := by
  obtain ⟨x, d, makes, shape, made, streamed⟩ := visit_stream splits ran
  rw [shape, bind_of_ok _ made, countsOf_append, countsOf_of_silent routed_silent,
    List.append_nil, makes.counts d made, streamed]

theorem visit_counts_other (other : s.name ≠ n) : countsOf n (w.visit s r).events = [] :=
  countsOf_eq_nil fun _ _ counted => other (visit_leaves _ counted).symm

/-- A publisher counts the alerts that it reads, and nothing else. -/
theorem publisher_counts (kind : s.kind = .alertPublisher) (ran : (w.visit s r).result = .ok v)
    (m : Metrics) :
    m.addAll (countsOf s.name (w.visit s r).events) =
      m.add .input (Dataset.total (sideRead w.phase s r.alertsOf)) := by
  rcases visit_alerts_events kind ran with ⟨silent, none⟩ | ⟨alerts, union, left⟩
  · rw [none, silent]
    exact (m.add_zero .input).symm
  · rw [left, Dataset.total_eq, ← Dataset.unionAll_items union]
    simp [countsOf, Metrics.addAll, Dataset.size]

theorem keyInputs_counts {inputs : List (Name × Dataset Json)} {keyed : Table Keyed}
    (ran : (w.keyInputs s inputs).result = .ok keyed) :
    countsOf s.name (w.keyInputs s inputs).events =
      (inputs.map (·.2)).map fun d => (.input, d.size) := by
  induction inputs generalizing keyed with
  | nil => rfl
  | cons x inputs ih =>
    unfold keyInputs at ran ⊢
    obtain ⟨first, made, rest⟩ := bind_ok_iff.mp ran
    obtain ⟨others, later, -⟩ := bind_ok_iff.mp rest
    rw [bind_of_ok _ made, countsOf_append, events_bind_pure, events_blame,
      Operators.addJoinKey_counts (blame_ok made), ih later]
    rfl

theorem executed_counts {config : JoinConfig} {keyed : Table Keyed} {joined : Dataset Json}
    (ran : (w.operators.joinInputs s.name config keyed).result = .ok joined) :
    countsOf s.name (w.operators.joinInputs s.name config keyed).events =
      [(.output, joined.size)] := by
  unfold Operators.joinInputs at ran ⊢
  obtain ⟨plan, planned, rest⟩ := bind_ok_iff.mp ran
  obtain ⟨rows, executed, rest⟩ := bind_ok_iff.mp rest
  obtain ⟨merged, made, last⟩ := bind_ok_iff.mp rest
  obtain rfl := Except.ok.inj last
  have silent : countsOf s.name (w.operators.executeJoin plan keyed).events = [] :=
    countsOf_of_silent (Operators.executeSteps_silent (s := s))
  rw [bind_of_ok _ planned, bind_of_ok _ executed, countsOf_append, countsOf_append, silent,
    events_bind_pure, events_blame, Operators.mergeJoinResults_counts (blame_ok made)]
  rfl

/-- A joiner counts its inputs one by one, and the rows that it emits. -/
theorem joiner_counts (kind : s.kind = .joiner) (ran : (w.visit s r).result = .ok v) :
    ∃ d, v.emitted = .main d ∧ countsOf s.name (w.visit s r).events =
      ((gather w.phase s r).map (·.2)).map (fun d => (.input, d.size)) ++ [(.output, d.size)] := by
  have shape : w.visit s r = w.joinInputs s (gather w.phase s r) := by
    cases union : Dataset.unionAll ((gather w.phase s r).map (·.2)) with
    | none =>
      have unread := List.map_eq_nil_iff.mp (Dataset.unionAll_eq_none.mp union)
      rcases kind_of_unread (by rw [kind]; rfl) unread (visit_ok ran).1 with boundary | source
      · simp [kind] at boundary
      · simp [kind, StageKind.sourceKind] at source
    | some input =>
      simp only [visit, kind, union, visitWith]
  rw [shape] at ran ⊢
  unfold joinInputs at ran ⊢
  obtain ⟨joiner, resolved, rest⟩ := bind_ok_iff.mp ran
  obtain ⟨_, called, rest⟩ := bind_ok_iff.mp rest
  obtain ⟨_, ready, rest⟩ := bind_ok_iff.mp rest
  obtain ⟨keyed, keys, rest⟩ := bind_ok_iff.mp rest
  obtain ⟨joined, made, last⟩ := bind_ok_iff.mp rest
  obtain rfl := Except.ok.inj last
  refine ⟨joined, rfl, ?_⟩
  have silent : countsOf s.name ((w.plugins.joiner w.macros s.name).blame s.name).events = [] :=
    countsOf_of_silent (Plugins.resolve_silent (s := s))
  rw [bind_of_ok _ resolved, bind_of_ok _ called, bind_of_ok _ ready, bind_of_ok _ keys]
  simp only [countsOf_append, silent, keyInputs_counts keys, events_bind_pure, executed_counts made]
  rfl

end Walk

/-! ## Sizes of channels -/

namespace Tagged

/-- An output that no port of a stage takes: it has no tag, or the tag is not declared. -/
def undeclared (s : Stage) : Tagged → Bool
  | output none _ => true
  | output (some port) _ => port ∉ s.ports.values
  | _ => false

theorem size_outputs (elements : List Tagged) :
    (elements.filterMap (outputOn none)).length = elements.countP isOutput := by
  rw [List.length_filterMap_eq_countP]
  exact List.countP_congr fun x _ => by cases x <;> rfl

theorem size_errors (elements : List Tagged) :
    (elements.filterMap error?).length = elements.countP isError := by
  rw [List.length_filterMap_eq_countP]
  exact List.countP_congr fun x _ => by cases x <;> rfl

theorem size_port (port : Name) (elements : List Tagged) :
    (elements.filterMap (outputOn (some port))).length =
      ((elements.filter isOutput).filter (Outlet.port port).accepts).length := by
  rw [List.length_filterMap_eq_countP, List.filter_filter, ← List.countP_eq_length_filter]
  refine List.countP_congr fun x _ => ?_
  cases x with
  | output tag r =>
    by_cases same : tag = some port <;> simp [outputOn, Outlet.accepts, isOutput, same]
  | error e => rfl
  | alert a => rfl

end Tagged

/-- The outputs of a stream are in a port channel, or no port takes them. -/
theorem Routing.size_of_ports (s : Stage) (keep : Bool) (elements : List Tagged) :
    Dataset.total (s.portNames.map fun port =>
        (⟨elements.filterMap (Tagged.outputOn (some port)), keep⟩ : Dataset Json)) +
      elements.countP (Tagged.undeclared s) = elements.countP Tagged.isOutput := by
  have apart : s.portNames.Pairwise fun k l => ∀ x : Tagged,
      (Outlet.port k).accepts x → ¬ (Outlet.port l).accepts x := by
    refine (Names.sorted_nodup s.ports.values).imp fun {k l} other x takes takes' => ?_
    cases x <;> simp_all [Outlet.accepts]
  have left (x : Tagged) (listed : x ∈ elements.filter Tagged.isOutput) :
      x.undeclared s = !s.portNames.any fun k => (Outlet.port k).accepts x := by
    cases x with
    | output tag r =>
      cases tag with
      | none => simp [Tagged.undeclared, Outlet.accepts]
      | some port =>
        rw [Bool.eq_iff_iff]
        simp [Tagged.undeclared, Outlet.accepts, Stage.portNames, Names.mem_sorted,
          List.forall_mem_ne]
    | error e => simp [Tagged.isOutput] at listed
    | alert a => simp [Tagged.isOutput] at listed
  have parts := (perm_parted (fun k => (Outlet.port k).accepts) _ apart left).length_eq
  have unported : ((elements.filter Tagged.isOutput).filter (Tagged.undeclared s)).length =
      elements.countP (Tagged.undeclared s) := by
    rw [List.filter_filter, ← List.countP_eq_length_filter]
    refine List.countP_congr fun x _ => ?_
    cases x <;> simp [Tagged.isOutput, Tagged.undeclared]
  rw [List.length_append, unported, ← List.countP_eq_length_filter] at parts
  rw [parts, Dataset.total_eq, List.flatMap_map, List.length_flatMap, List.length_flatMap]
  simp only [Tagged.size_port]

/-! ## Balances -/

namespace Walk

variable {w : Walk} {s : Stage} {r : Registry} {v : Visited}

/-- The counts of a stage agree with what its visit has read and with the channels that it left. -/
structure Balanced (w : Walk) (s : Stage) (r : Registry) (e : Emitted) (m : Metrics) : Prop where
  gathered : s.kind = .transform ∨ s.kind = .splitterTransform ∨ s.kind = .aggregator ∨
    s.kind = .joiner → m.input = .ofNat (Dataset.total ((gather w.phase s r).map (·.2)))
  errorsRead : s.kind = .errorTransform →
    m.input = .ofNat (Dataset.total (sideRead w.phase s r.errorsOf))
  alertsRead : s.kind = .alertPublisher →
    m.input = .ofNat (Dataset.total (sideRead w.phase s r.alertsOf))
  sourceRead : s.kind = .batchSource ∨ s.kind = .streamingSource ∨
    s.kind = .connector ∧ gather w.phase s r = [] → m.input = 0
  /-- What was split into channels is the stream that the operator of the stage has made. -/
  stream : w.splits s r → ∃ x d, w.Makes s r x ∧ w.visit s r = x >>= w.routed s ∧
    x.result = .ok d ∧ d.items = w.streamed s r
  main : w.splits s r → s.ports = [] → ∃ d, e.output = .main d ∧ m.output = .ofNat d.size
  ports : w.splits s r → s.ports ≠ [] → ∃ t, e.output = .ports t ∧
    m.output = .ofNat
      (Dataset.total t.values + (w.streamed s r).countP (Tagged.undeclared s))
  errors : ∀ d, e.errors = some d → m.error = .ofNat d.size
  joined : s.kind = .joiner → ∃ d, e.output = .main d ∧ m.output = .ofNat d.size

theorem streamCounts_metrics (read : Nat) (elements : List Tagged) :
    Metrics.zero.addAll (streamCounts read elements) =
      ⟨.ofNat read, .ofNat (elements.countP Tagged.isOutput),
        .ofNat (elements.countP Tagged.isError)⟩ := by
  simp [Metrics.addAll, streamCounts, Metrics.add, Metrics.zero]

theorem joiner_metrics (inputs : List (Dataset Json)) (rows : Nat) :
    Metrics.zero.addAll (inputs.map (fun d => (.input, d.size)) ++ [(.output, rows)]) =
      ⟨.ofNat (Dataset.total inputs), .ofNat rows, 0⟩ := by
  have split (cs cs' : List (Counter × Nat)) :
      Metrics.zero.addAll (cs ++ cs') = (Metrics.zero.addAll cs).addAll cs' := List.foldl_append
  rw [split, Metrics.addAll_sizes]
  simp [Metrics.addAll, Metrics.add, Metrics.zero]

/-- The counts that a visit leaves in a fresh collector. -/
def visitMetrics (w : Walk) (s : Stage) (r : Registry) : Metrics :=
  Metrics.zero.addAll (countsOf s.name (w.visit s r).events)

theorem visitMetrics_stream (splits : w.splits s r) (ran : (w.visit s r).result = .ok v) :
    w.visitMetrics s r =
      ⟨.ofNat (w.readSize s r), .ofNat ((w.streamed s r).countP Tagged.isOutput),
        .ofNat ((w.streamed s r).countP Tagged.isError)⟩ := by
  rw [visitMetrics, visit_counts splits ran, streamCounts_metrics]

theorem visitMetrics_joiner (kind : s.kind = .joiner) (ran : (w.visit s r).result = .ok v) :
    ∃ d, v.emitted = .main d ∧ w.visitMetrics s r =
      ⟨.ofNat (Dataset.total ((gather w.phase s r).map (·.2))), .ofNat d.size, 0⟩ := by
  obtain ⟨d, left, counts⟩ := joiner_counts kind ran
  exact ⟨d, left, by rw [visitMetrics, counts, joiner_metrics]⟩

theorem visitMetrics_publisher (kind : s.kind = .alertPublisher)
    (ran : (w.visit s r).result = .ok v) :
    (w.visitMetrics s r).input = .ofNat (Dataset.total (sideRead w.phase s r.alertsOf)) := by
  rw [visitMetrics, publisher_counts kind ran]
  simp [Metrics.add, Metrics.zero]

/-- A transformation of errors that reads no channel of them has counted nothing. -/
theorem visitMetrics_idle (kind : s.kind = .errorTransform)
    (silent : sideRead w.phase s r.errorsOf = []) (ran : (w.visit s r).result = .ok v) :
    w.visitMetrics s r = .zero := by
  have idle : w.visit s r = pure (publish .empty) := by
    rw [visit_errors kind (visit_ok ran).1, silent]
    rfl
  rw [visitMetrics, idle]
  rfl

theorem gather_of_source (kind : s.kind = .batchSource ∨ s.kind = .streamingSource)
    (admitted : w.admits s r = .ok ()) : gather w.phase s r = [] := by
  by_contra read
  rw [admits_fedSource kind read] at admitted
  cases admitted

theorem splits_of_source (kind : s.kind = .batchSource ∨ s.kind = .streamingSource ∨
    s.kind = .connector ∧ gather w.phase s r = []) (admitted : w.admits s r = .ok ()) :
    w.splits s r ∧ w.readSize s r = 0 := by
  have unread : gather w.phase s r = [] := by
    rcases kind with kind | kind | ⟨-, unread⟩
    · exact gather_of_source (.inl kind) admitted
    · exact gather_of_source (.inr kind) admitted
    · exact unread
  rcases kind with kind | kind | ⟨kind, -⟩ <;>
    simp [splits, readSize, Dataset.total, kind, unread]

/-- The counts of a visit agree with what it has read and with the channels that it left. -/
theorem visit_balanced (accepted : w.phase.Accepted)
    (ran : (w.visit s r).result = .ok v) :
    w.Balanced s r v.emitted (w.visitMetrics s r) := by
  obtain ⟨admitted, c, made, rfl⟩ := visit_ok ran
  have shown (splits : w.splits s r) : (c.visited w.phase s).emitted =
      Routing.channels w.phase s (.ofStage w.phase s.name) (w.streamed s r) := by
    obtain ⟨elements, rfl⟩ := (splits_iff made).mp splits
    rw [streamed, made]
    rfl
  constructor
  case gathered =>
    intro kind
    rcases kind with kind | kind | kind | kind
    case inr.inr.inr =>
      obtain ⟨d, -, metrics⟩ := visitMetrics_joiner kind ran
      rw [metrics]
    all_goals
      rw [visitMetrics_stream (by simp [splits, kind]) ran]
      simp [readSize, kind]
  case errorsRead =>
    intro kind
    by_cases silent : sideRead w.phase s r.errorsOf = []
    · rw [visitMetrics_idle kind silent ran, silent]
      rfl
    · rw [visitMetrics_stream (by simp [splits, kind, silent]) ran]
      simp [readSize, kind]
  case alertsRead => exact fun kind => visitMetrics_publisher kind ran
  case sourceRead =>
    intro kind
    obtain ⟨splits, unread⟩ := splits_of_source kind admitted
    rw [visitMetrics_stream splits ran, unread]
    rfl
  case stream => exact fun splits => visit_stream splits ran
  case main =>
    intro splits unported
    rw [visitMetrics_stream splits ran, shown splits, ← Tagged.size_outputs]
    exact ⟨_, if_pos (Stage.portNames_eq_nil.mpr unported), rfl⟩
  case ports =>
    intro splits ported
    rw [visitMetrics_stream splits ran, shown splits,
      ← Routing.size_of_ports s (w.phase.caches s.name)]
    refine ⟨_, if_neg (Stage.portNames_eq_nil.not.mpr ported), ?_⟩
    rw [Table.values, List.map_map]
    rfl
  case errors =>
    intro d tapped
    have shows := shows_of_content accepted SideChannel.errors_routed made
    obtain ⟨splits, -⟩ := shows.present.mp (Option.isSome_of_eq_some tapped)
    rw [visitMetrics_stream splits ran, Dataset.size, shows.complete d tapped]
    exact congrArg UInt64.ofNat (Tagged.size_errors _).symm
  case joined =>
    intro kind
    obtain ⟨d, left, metrics⟩ := visitMetrics_joiner kind ran
    rw [left, metrics]
    exact ⟨d, rfl, rfl⟩

/-! ## Walks -/

/-- The writes that a stage has put off to the store: they carry what was gathered for the stage,
and one that ends well adds the size of that to the counts of what was read and of what came out. -/
structure BalancedWrites (w : Walk) (tasks : List SinkTask) (s : Stage) (r : Registry) : Prop where
  one : w.stores s r → ∃ t, tasks.filter (·.stage = s.name) = [t]
  carried : ∀ t ∈ tasks, t.stage = s.name → t.records = w.gathered s r
  counted : ∀ t ∈ tasks, t.stage = s.name → t.ending = .done → ∀ (l : Ledger) (m : Metrics),
    l.collectors.get? s.name = some m → (l.postAll t.events).collectors.get? s.name =
      some ((m.add .input t.records.length).add .output t.records.length)

theorem Deferred.counts_of_done {t : SinkTask} (h : Deferred w s r (some t))
    (kind : s.kind ≠ .pluginSink) (well : t.ending = .done) :
    countsOf s.name t.events = [(.input, t.records.length), (.output, t.records.length)] := by
  cases h with
  | write stores =>
    cases failure : w.operators.sinkFailures.get? s.name with
    | none => simp [SinkTask.write, countsOf]
    | some m => simp [SinkTask.write, failure] at well
  | plugin plugged => exact absurd plugged kind

theorem Deferred.records {t : SinkTask} (h : Deferred w s r (some t)) :
    t.records = w.gathered s r := by
  cases h with
  | write => exact SinkTask.write_records
  | plugin => rfl

theorem Tasked.balancedWrites {visits : List (Stage × Registry)} {tasks : List SinkTask}
    (tasked : Tasked w visits tasks) (visited : (s, r) ∈ visits) (kind : s.kind ≠ .pluginSink) :
    w.BalancedWrites tasks s r := by
  constructor
  case one =>
    intro stores
    obtain ⟨t, listed, deferred⟩ := tasked.exists_task visited (by simp [defers, stores])
    have alone := tasked.apart.filter_stage listed
    rw [deferred.stage] at alone
    exact ⟨t, alone⟩
  case carried => exact fun t ht same => (tasked.deferred_of_stage visited ht same).records
  case counted =>
    intro t ht same well l m found
    have deferred := tasked.deferred_of_stage visited ht same
    rw [l.collectors_postAll, found, deferred.counts_of_done kind well]
    rfl

/--
**The counts of records balance.** After a walk over stages with fresh collectors, a stage that
transforms, aggregates or joins has counted as read what was gathered for it, a reader of errors or
of alerts the channels of them that it has read, and a source nothing. Where a stream was split, the
outputs that were counted are in the main channel, or in the port channels but for those that no
port takes, and the errors are in their channel. A joiner has counted the rows that it emits. A
write of a sink or of a connector that ends well counts what it carries as read and as emitted.
-/
theorem schedule_balanced (w : Walk) (accepted : w.phase.Accepted) (g : Graph)
    (shape : w.phase.graph = some g) (out : Scheduled) (ran : w.schedule.result = .ok out)
    (l : Ledger) (fresh : ∀ n, (w.phase.stage? n).isSome → l.collectors.get? n = some .zero) :
    let after := l.postAll w.schedule.events
    out.registry.stages = (w.visits g.order []).map (·.1.name) ∧
    (∀ s r, (s, r) ∈ w.visits g.order [] →
      (∃ e m, out.registry.get? s.name = some e ∧ after.collectors.get? s.name = some m ∧
        w.Balanced s r e m) ∧
      (s.kind = .sink ∨ s.kind = .connector → w.BalancedWrites out.tasks s r)) ∧
    ∀ n, n ∉ g.order → after.collectors.get? n = l.collectors.get? n := by
  intro after
  refine ⟨schedule_stages accepted shape ran, fun s r visited => ⟨?_, fun kind => ?_⟩, ?_⟩
  · obtain ⟨-, c, -, ended, entry⟩ := visits_content accepted shape ran visited
    obtain ⟨known, -⟩ := visits_stage? accepted visited
    have counts : countsOf s.name w.schedule.events = countsOf s.name (w.visit s r).events :=
      filterMap_schedule_visit accepted shape visited fun _ _ other => visit_counts_other other
    have shown : after.collectors.get? s.name = some (w.visitMetrics s r) := by
      rw [l.collectors_postAll, fresh s.name (by simp [known]), counts]
      rfl
    exact ⟨_, _, entry, shown, visit_balanced accepted ended⟩
  · refine (schedule_tasks accepted shape ran).balancedWrites visited ?_
    rcases kind with kind | kind <;> simp [kind]
  · intro n unlisted
    have uncounted : countsOf n w.schedule.events = [] := by
      rw [countsOf, filterMap_schedule shape]
      refine List.flatMap_eq_nil_iff.mpr fun x visited => visit_counts_other ?_
      rintro rfl
      exact unlisted (visits_stage? accepted (s := x.1) (r := x.2) visited).2
    rw [l.collectors_postAll, uncounted]
    exact Option.map_id_apply

/-- The source has counted its record and its error, and their readers what came to them. -/
theorem schedule_balanced_rejecting :
    let l : Ledger := { Ledger.empty with collectors := .fresh ["a", "e", "p"] }
    let after := l.postAll rejectingWalk.schedule.events
    ∃ a e p, after.collectors.get? "a" = some a ∧ after.collectors.get? "e" = some e ∧
      after.collectors.get? "p" = some p ∧ a.input = 0 ∧ a.output = .ofNat 1 ∧
      a.error = .ofNat 1 ∧ e.input = .ofNat 1 ∧ p.input = .ofNat 1 := by
  intro l after
  have ran : rejectingWalk.schedule.result = .ok ⟨_, _⟩ := rfl
  have fresh (n : Name) (known : (rejectingWalk.phase.stage? n).isSome) :
      l.collectors.get? n = some .zero := by
    have listed : n = "a" ∨ n = "e" ∨ n = "p" := by
      by_contra other
      push Not at other
      obtain ⟨a, e, p⟩ := other
      simp [Phase.stage?, rejectingWalk, bare, rejectingPhase, Table.get?_cons, a.symm, e.symm,
        p.symm] at known
    rcases listed with rfl | rfl | rfl <;> rfl
  obtain ⟨-, each, -⟩ := schedule_balanced rejectingWalk rejecting_accepted _ rfl _ ran l fresh
  rw [rejecting_visits] at each
  obtain ⟨⟨entry, a, known, found, source⟩, -⟩ := each (.plain "a" .batchSource) _ (.head _)
  obtain ⟨⟨_, p, -, found_p, publisher⟩, -⟩ :=
    each (.plain "p" .alertPublisher) _ (.tail _ (.head _))
  obtain ⟨⟨_, e, -, found_e, errors⟩, -⟩ :=
    each (.plain "e" .errorTransform) _ (.tail _ (.tail _ (.head _)))
  obtain rfl : rejectingEntry = entry := Option.some.inj known
  obtain ⟨d, shown, outputs⟩ := source.main rfl rfl
  obtain rfl := StageOutput.main.inj shown
  exact ⟨a, e, p, found, found_e, found_p, source.sourceRead (.inl rfl), outputs,
    source.errors _ rfl, errors.errorsRead rfl, publisher.alertsRead rfl⟩

end Walk

end Stageflow
