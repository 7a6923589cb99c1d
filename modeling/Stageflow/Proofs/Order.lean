import Mathlib.Logic.Relation
import Stageflow.Graph
import Stageflow.Proofs.Names

/-!
# Orders of a graph

The order of a graph against its connections, which are read as a relation here:

* `sort_error_cycle`: a node that is reported lies on a cycle;
* `sort_ordered`: an order that is found has every node once, and each producer before its readers;
* `build_ok_iff_acyclic`: so an order is found for exactly the connections without a cycle.

A walk is followed by what it still has to do. `Nested` says that the nodes it is in are reached
from each other, the outermost first, and `Awaited` that no reader of such a node is forgotten.
Together they make the walk leave a node after everything that the node reaches.
-/

namespace Stageflow.Graph

open Relation

/-- The second name reads the output of the first. -/
def Linked (edges : List Edge) (a b : Name) : Prop := (a, b) ∈ edges

/-- No name is reached from itself. -/
def Acyclic (edges : List Edge) : Prop := ∀ n, ¬ TransGen (Linked edges) n n

theorem mem_readers {edges : List Edge} {n m : Name} : m ∈ readers edges n ↔ Linked edges n m := by
  simp [readers, Linked]

theorem mem_producers {edges : List Edge} {n p : Name} :
    p ∈ producers edges n ↔ Linked edges p n := by
  simp [producers, Linked]

theorem mem_nodesOf {stages : List Name} {connections : List Edge} {n : Name} :
    n ∈ nodesOf stages connections ↔
      n ∈ stages ∨ ∃ m, Linked connections n m ∨ Linked connections m n := by
  simp only [nodesOf, mem_distinct, List.mem_append, List.mem_flatMap, Linked]
  constructor
  · rintro (hs | ⟨⟨a, b⟩, he, hn⟩)
    · exact .inl hs
    · rcases List.mem_pair.mp hn with rfl | rfl
      · exact .inr ⟨b, .inl he⟩
      · exact .inr ⟨a, .inr he⟩
  · rintro (hs | ⟨m, he | he⟩)
    · exact .inl hs
    · exact .inr ⟨_, he, by simp⟩
    · exact .inr ⟨_, he, by simp⟩

/-! ## What a walk visits -/

/-- The node of a task. -/
def Task.node : Task → Name
  | .enter n | .leave n => n

/-- The nodes that a walk is in, the innermost first. -/
def within : List Task → List Name
  | [] => []
  | .enter _ :: todo => within todo
  | .leave n :: todo => n :: within todo

theorem mem_within {todo : List Task} {n : Name} : n ∈ within todo ↔ .leave n ∈ todo := by
  induction todo with
  | nil => simp [within]
  | cons t todo ih => cases t <;> simp [within, ih]

theorem within_enters (ns : List Name) (todo : List Task) :
    within (ns.map .enter ++ todo) = within todo := by
  induction ns with
  | nil => rfl
  | cons n ns ih => exact ih

/-- The nodes seen so far are those that the walk is in and those that it has left, each once. -/
structure Tracked (todo : List Task) (seen order : List Name) : Prop where
  nodup : seen.Nodup
  parts : seen.Perm (within todo ++ order)

namespace Tracked

variable {todo : List Task} {seen order next : List Name} {n : Name}

theorem leave (h : Tracked (.leave n :: todo) seen order) : Tracked todo seen (n :: order) :=
  ⟨h.nodup, h.parts.trans List.perm_middle.symm⟩

theorem enter (h : Tracked (.enter n :: todo) seen order) (fresh : n ∉ seen) :
    Tracked (next.map .enter ++ .leave n :: todo) (n :: seen) order := by
  refine ⟨List.nodup_cons.mpr ⟨fresh, h.nodup⟩, ?_⟩
  rw [within_enters]
  exact h.parts.cons n

theorem skip (h : Tracked (.enter n :: todo) seen order) : Tracked todo seen order :=
  ⟨h.nodup, h.parts⟩

theorem left_or_within (h : Tracked todo seen order) (hn : n ∈ seen) :
    n ∈ order ∨ .leave n ∈ todo := by
  rcases List.mem_append.mp (h.parts.mem_iff.mp hn) with hw | ho
  · exact .inr (mem_within.mp hw)
  · exact .inl ho

end Tracked

/-- What the order at the end of a walk holds. -/
structure Visits (nodes : List Name) (edges : List Edge) (todo : List Task)
    (seen out : List Name) : Prop where
  nodup : out.Nodup
  keeps : ∀ n ∈ seen, n ∈ out
  enters : ∀ n ∈ nodes, .enter n ∈ todo → n ∈ out
  only : ∀ n ∈ out, n ∈ seen ∨ n ∈ nodes ∧ ¬ Linked edges n n

theorem walk_visits {nodes : List Name} {edges : List Edge} {todo : List Task}
    {seen order out : List Name} (h : walk nodes edges todo seen order = .ok out)
    (tracked : Tracked todo seen order) : Visits nodes edges todo seen out := by
  fun_induction walk nodes edges todo seen order with
  | case1 seen order =>
    obtain rfl := Except.ok.inj h
    have same : seen.Perm order := tracked.parts
    exact ⟨same.nodup_iff.mp tracked.nodup, fun n hn => same.mem_iff.mp hn, by simp,
      fun n hn => .inl (same.mem_iff.mpr hn)⟩
  | case2 n todo seen order ih =>
    have v := ih h tracked.leave
    exact ⟨v.nodup, v.keeps, fun m hm ht => v.enters m hm (by simpa using ht), v.only⟩
  | case3 => cases h
  | case4 n todo seen order fresh next loopless ih =>
    have v := ih h (tracked.enter fresh.2)
    refine ⟨v.nodup, fun m hm => v.keeps m (List.mem_cons_of_mem _ hm), fun m hm ht => ?_,
      fun m hm => ?_⟩
    · rcases List.mem_cons.mp ht with same | later
      · obtain rfl := Task.enter.inj same
        exact v.keeps m List.mem_cons_self
      · exact v.enters m hm (by simp [later])
    · rcases v.only m hm with hs | hnew
      · rcases List.mem_cons.mp hs with rfl | hs
        · exact .inr ⟨fresh.1, fun loop => loopless (mem_readers.mpr loop)⟩
        · exact .inl hs
      · exact .inr hnew
  | case5 n todo seen order stale ih =>
    have v := ih h tracked.skip
    refine ⟨v.nodup, v.keeps, fun m hm ht => ?_, v.only⟩
    rcases List.mem_cons.mp ht with same | later
    · obtain rfl := Task.enter.inj same
      exact v.keeps m (by simpa [hm] using stale)
    · exact v.enters m hm later

/-- A walk stops only at a node that reads itself. -/
theorem walk_error {nodes : List Name} {edges : List Edge} {todo : List Task}
    {seen order : List Name} {n : Name} (h : walk nodes edges todo seen order = .error n) :
    Linked edges n n := by
  fun_induction walk nodes edges todo seen order with
  | case1 => cases h
  | case2 _ _ _ _ ih => exact ih h
  | case3 _ _ _ _ _ _ loop =>
    obtain rfl := Except.error.inj h
    exact mem_readers.mp loop
  | case4 _ _ _ _ _ _ _ ih => exact ih h
  | case5 _ _ _ _ _ ih => exact ih h

/-! ## In which order a walk leaves the nodes -/

/-- Whatever stands before a node that the walk is in is reached from that node. -/
def Nested (edges : List Edge) (todo : List Task) : Prop :=
  todo.Pairwise fun t u => ∀ n, u = .leave n → TransGen (Linked edges) n t.node

theorem nested_enters (edges : List Edge) (ns : List Name) : Nested edges (ns.map .enter) := by
  refine List.pairwise_map.mpr (List.pairwise_of_forall fun _ _ n impossible => ?_)
  cases impossible

theorem Nested.enter {edges : List Edge} {n : Name} {todo : List Task}
    (h : Nested edges (.enter n :: todo)) :
    Nested edges ((readers edges n).map .enter ++ .leave n :: todo) := by
  obtain ⟨reached, rest⟩ := List.pairwise_cons.mp h
  refine List.pairwise_append.mpr
    ⟨nested_enters edges _, List.pairwise_cons.mpr ⟨reached, rest⟩, fun t ht u hu m hm => ?_⟩
  obtain ⟨r, hr, rfl⟩ := List.mem_map.mp ht
  have linked : Linked edges n r := mem_readers.mp hr
  rcases List.mem_cons.mp hu with rfl | hu
  · obtain rfl := Task.leave.inj hm
    exact .single linked
  · exact (reached u hu m hm).tail linked

/-- A node that the walk is in reaches whatever the walk does next. -/
theorem Nested.reaches {edges : List Edge} {t : Task} {todo : List Task} {n : Name}
    (h : Nested edges (t :: todo)) (hn : .leave n ∈ t :: todo) :
    ReflTransGen (Linked edges) n t.node := by
  rcases List.mem_cons.mp hn with rfl | later
  · exact .refl
  · exact ((List.pairwise_cons.mp h).1 _ later n rfl).to_reflTransGen

/--
Every reader of a node that the walk is in has been seen or is about to be entered first; `ahead`
are the nodes that stand before the tasks.
-/
def Awaited (edges : List Edge) (seen : List Name) : (ahead : List Name) → List Task → Prop
  | _, [] => True
  | ahead, .enter n :: todo => Awaited edges seen (n :: ahead) todo
  | ahead, .leave n :: todo =>
    (∀ m, Linked edges n m → m ∈ seen ∨ m ∈ ahead) ∧ Awaited edges seen ahead todo

theorem Awaited.mono {edges : List Edge} {seen seen' ahead ahead' : List Name} {todo : List Task}
    (more : ∀ m, m ∈ seen ∨ m ∈ ahead → m ∈ seen' ∨ m ∈ ahead')
    (h : Awaited edges seen ahead todo) : Awaited edges seen' ahead' todo := by
  induction todo generalizing ahead ahead' with
  | nil => trivial
  | cons t todo ih =>
    cases t with
    | enter n =>
      refine ih (fun m hm => ?_) h
      rcases hm with hs | ha
      · exact (more m (.inl hs)).imp_right (List.mem_cons_of_mem n)
      · rcases List.mem_cons.mp ha with rfl | ha
        · exact .inr List.mem_cons_self
        · exact (more m (.inr ha)).imp_right (List.mem_cons_of_mem n)
    | leave n => exact ⟨fun m hm => more m (h.1 m hm), ih more h.2⟩

theorem awaited_enters {edges : List Edge} {seen ahead : List Name} {todo : List Task}
    (ns : List Name) : Awaited edges seen ahead (ns.map .enter ++ todo) ↔
      Awaited edges seen (ns.reverse ++ ahead) todo := by
  induction ns generalizing ahead with
  | nil => rfl
  | cons n ns ih =>
    rw [List.reverse_cons, List.append_assoc, List.singleton_append]
    exact ih

theorem Awaited.skip {edges : List Edge} {seen : List Name} {n : Name} {todo : List Task}
    (h : Awaited edges seen [] (.enter n :: todo)) (hn : n ∈ seen) :
    Awaited edges seen [] todo := by
  refine Awaited.mono (fun m hm => ?_) h
  rcases hm with hs | ha
  · exact .inl hs
  · exact .inl (List.mem_singleton.mp ha ▸ hn)

theorem Awaited.enter {edges : List Edge} {seen : List Name} {n : Name} {todo : List Task}
    (h : Awaited edges seen [] (.enter n :: todo)) :
    Awaited edges (n :: seen) [] ((readers edges n).map .enter ++ .leave n :: todo) := by
  refine (awaited_enters _).mpr ⟨fun m hm => .inr (by simpa using mem_readers.mpr hm), ?_⟩
  refine h.mono fun m hm => ?_
  rcases hm with hs | ha
  · exact .inl (List.mem_cons_of_mem n hs)
  · exact .inl (by simpa using Or.inl (List.mem_singleton.mp ha))

/-- Every reader of a node stands behind it or reaches back to it. -/
def Settled (edges : List Edge) : List Name → Prop
  | [] => True
  | n :: order =>
    (∀ m, Linked edges n m → m ∈ order ∨ ReflTransGen (Linked edges) m n) ∧ Settled edges order

theorem walk_settled {nodes : List Name} {edges : List Edge} {todo : List Task}
    {seen order out : List Name} (h : walk nodes edges todo seen order = .ok out)
    (closed : ∀ n m, Linked edges n m → m ∈ nodes) (known : ∀ n, .enter n ∈ todo → n ∈ nodes)
    (tracked : Tracked todo seen order) (nested : Nested edges todo)
    (awaited : Awaited edges seen [] todo) (settled : Settled edges order) :
    Settled edges out := by
  fun_induction walk nodes edges todo seen order with
  | case1 seen order =>
    obtain rfl := Except.ok.inj h
    exact settled
  | case2 n todo seen order ih =>
    refine ih h (fun m hm => known m (List.mem_cons_of_mem _ hm)) tracked.leave
      (List.pairwise_cons.mp nested).2 awaited.2 ⟨fun m hm => ?_, settled⟩
    have seen_m : m ∈ seen := (awaited.1 m hm).resolve_right List.not_mem_nil
    exact (tracked.left_or_within seen_m).imp_right nested.reaches
  | case3 => cases h
  | case4 n todo seen order fresh next loopless ih =>
    refine ih h (fun m hm => ?_) (tracked.enter fresh.2) nested.enter awaited.enter settled
    rcases List.mem_append.mp hm with hr | hm
    · obtain ⟨r, reads, same⟩ := List.mem_map.mp hr
      obtain rfl := Task.enter.inj same
      exact closed n r (mem_readers.mp reads)
    · exact known m (by simpa using Or.inr hm)
  | case5 n todo seen order stale ih =>
    have hn : n ∈ seen := by simpa [known n List.mem_cons_self] using stale
    exact ih h (fun m hm => known m (List.mem_cons_of_mem _ hm)) tracked.skip
      (List.pairwise_cons.mp nested).2 (awaited.skip hn) settled

/-! ## The order of a graph -/

theorem Settled.reader_behind {edges : List Edge} {order before after : List Name} {n m : Name}
    (h : Settled edges order) (shape : order = before ++ n :: after) (hm : Linked edges n m) :
    m ∈ after ∨ ReflTransGen (Linked edges) m n := by
  induction before generalizing order with
  | nil => subst shape; exact h.1 m hm
  | cons b before ih => subst shape; exact ih h.2 rfl

theorem lateProducer?_eq_none {edges : List Edge} {ns seen : List Name}
    (h : lateProducer? edges ns seen = none) {before after : List Name} {n p : Name}
    (shape : ns = before ++ n :: after) (hp : Linked edges p n) :
    p = n ∨ p ∈ before ∨ p ∈ seen := by
  fun_induction lateProducer? edges ns seen generalizing before with
  | case1 => simp at shape
  | case2 => cases h
  | case3 b ns seen found ih =>
    cases before with
    | nil =>
      obtain ⟨rfl, rfl⟩ := List.cons.inj shape
      have := List.find?_eq_none.mp found p (mem_producers.mpr hp)
      grind
    | cons c before =>
      obtain ⟨rfl, rfl⟩ := List.cons.inj shape
      rcases ih h rfl with rfl | hb | hs
      · exact .inl rfl
      · exact .inr (.inl (List.mem_cons_of_mem _ hb))
      · grind

theorem lateProducer?_eq_some {edges : List Edge} {ns seen : List Name} {p : Name}
    (h : lateProducer? edges ns seen = some p) :
    ∃ before n after, ns = before ++ n :: after ∧ Linked edges p n ∧
      p ≠ n ∧ p ∉ before ∧ p ∉ seen := by
  fun_induction lateProducer? edges ns seen with
  | case1 => cases h
  | case2 n ns seen q found =>
    obtain rfl := Option.some.inj h
    have late : q ∉ n :: seen := by simpa using List.find?_some found
    exact ⟨[], n, ns, rfl, mem_producers.mp (List.mem_of_find?_eq_some found),
      fun same => late (same ▸ List.mem_cons_self), List.not_mem_nil,
      fun hs => late (List.mem_cons_of_mem _ hs)⟩
  | case3 b ns seen _ ih =>
    obtain ⟨before, n, after, rfl, hp, other, hb, hs⟩ := ih h
    refine ⟨b :: before, n, after, rfl, hp, other, fun hm => ?_,
      fun hm => hs (List.mem_cons_of_mem _ hm)⟩
    rcases List.mem_cons.mp hm with rfl | hm
    · exact hs List.mem_cons_self
    · exact hb hm

/-- The walk that sorts a graph starts with every node still to be entered. -/
theorem walk_nodes {nodes : List Name} {edges : List Edge} {out : List Name}
    (closed : ∀ n m, Linked edges n m → m ∈ nodes)
    (h : walk nodes edges (nodes.map .enter) [] [] = .ok out) :
    Visits nodes edges (nodes.map .enter) [] out ∧ Settled edges out := by
  have tracked : Tracked (nodes.map .enter) [] [] := by
    refine ⟨.nil, ?_⟩
    rw [← List.append_nil (nodes.map Task.enter), within_enters]
    exact .refl []
  have awaited : Awaited edges [] [] (nodes.map .enter ++ []) := (awaited_enters nodes).mpr trivial
  refine ⟨walk_visits h tracked, walk_settled h closed (fun n hn => ?_) tracked
    (nested_enters edges nodes) (by simpa using awaited) trivial⟩
  obtain ⟨m, hm, same⟩ := List.mem_map.mp hn
  exact Task.enter.inj same ▸ hm

/-- A node that is reported lies on a cycle. -/
theorem sort_error_cycle {nodes : List Name} {edges : List Edge} {n : Name}
    (closed : ∀ n m, Linked edges n m → n ∈ nodes ∧ m ∈ nodes)
    (h : sort nodes edges = .error n) : TransGen (Linked edges) n n := by
  unfold sort at h
  split at h
  · next m stopped =>
    obtain rfl := Except.error.inj h
    exact .single (walk_error stopped)
  · next out ended =>
    obtain ⟨visits, settled⟩ := walk_nodes (fun a b hab => (closed a b hab).2) ended
    split at h
    · next p late =>
      obtain rfl := Except.error.inj h
      obtain ⟨before, m, after, rfl, hp, other, hb, -⟩ := lateProducer?_eq_some late
      have listed := visits.enters p (closed p m hp).1 (List.mem_map_of_mem (closed p m hp).1)
      have behind : p ∈ after := by simpa [hb, other] using listed
      obtain ⟨between, rest, rfl⟩ := List.append_of_mem behind
      -- The producer stands behind its reader, so the walk was still in the reader when it left it.
      have shape : before ++ m :: (between ++ p :: rest) =
          (before ++ m :: between) ++ p :: rest := by simp
      rcases settled.reader_behind shape hp with hm | back
      · have once : m ∉ between ++ p :: rest :=
          (List.nodup_cons.mp (List.nodup_append.mp visits.nodup).2.1).1
        exact absurd (by simp [hm]) once
      · exact .head' hp back
    · cases h

/-- An order that is found has every node once, and each producer before its readers. -/
theorem sort_ordered {nodes : List Name} {edges : List Edge} {out : List Name}
    (closed : ∀ n m, Linked edges n m → m ∈ nodes) (h : sort nodes edges = .ok out) :
    out.Nodup ∧ (∀ n, n ∈ out ↔ n ∈ nodes) ∧
      ∀ before n after, out = before ++ n :: after → ∀ p, Linked edges p n → p ∈ before := by
  unfold sort at h
  split at h
  · cases h
  · next order ended =>
    split at h
    · cases h
    · next inTime =>
      obtain rfl := Except.ok.inj h
      obtain ⟨visits, -⟩ := walk_nodes closed ended
      have loopless (n : Name) (hn : n ∈ order) : n ∈ nodes ∧ ¬ Linked edges n n :=
        (visits.only n hn).resolve_left List.not_mem_nil
      refine ⟨visits.nodup, fun n => ⟨fun hn => (loopless n hn).1, fun hn =>
        visits.enters n hn (List.mem_map_of_mem hn)⟩, fun before n after shape p hp => ?_⟩
      rcases lateProducer?_eq_none inTime shape hp with rfl | hb | hs
      · exact absurd hp (loopless p (shape ▸ by simp)).2
      · exact hb
      · exact absurd hs List.not_mem_nil

/-- Every node stands in the order once, behind its producers. -/
structure Ordered (g : Graph) : Prop where
  nodup : g.order.Nodup
  covers : ∀ n, n ∈ g.order ↔ n ∈ g.nodes
  forward : ∀ before n after, g.order = before ++ n :: after →
    ∀ p, Linked g.edges p n → p ∈ before

theorem linked_nodes (stages : List Name) (connections : List Edge) (n m : Name)
    (h : Linked (distinct connections) n m) :
    n ∈ nodesOf stages connections ∧ m ∈ nodesOf stages connections := by
  have listed : Linked connections n m := mem_distinct.mp h
  exact ⟨mem_nodesOf.mpr (.inr ⟨m, .inl listed⟩), mem_nodesOf.mpr (.inr ⟨n, .inr listed⟩)⟩

variable {stages : List Name} {connections : List Edge} {g : Graph}

theorem build_ok (h : build stages connections = .ok g) :
    g.nodes = nodesOf stages connections ∧ g.edges = distinct connections ∧ g.Ordered := by
  unfold build at h
  dsimp only at h
  split at h
  · next order sorted =>
    obtain rfl := Except.ok.inj h
    obtain ⟨nodup, covers, forward⟩ :=
      sort_ordered (fun n m hm => (linked_nodes stages connections n m hm).2) sorted
    exact ⟨rfl, rfl, nodup, covers, forward⟩
  · cases h

theorem build_error {e : FlowError} (h : build stages connections = .error e) :
    ∃ n, e = .cycle n ∧ TransGen (Linked connections) n n := by
  unfold build at h
  dsimp only at h
  split at h
  · cases h
  · next n stopped =>
    obtain rfl := Except.error.inj h
    have cycle := sort_error_cycle (linked_nodes stages connections) stopped
    exact ⟨n, rfl, TransGen.mono (fun _ _ hab => mem_distinct.mp hab) _ _ cycle⟩

theorem Ordered.idxOf_lt (h : g.Ordered) {a b : Name} (linked : Linked g.edges a b)
    (hb : b ∈ g.order) : g.order.idxOf a < g.order.idxOf b := by
  obtain ⟨before, after, shape⟩ := List.append_of_mem hb
  have ha : a ∈ before := h.forward before b after shape a linked
  have fresh : b ∉ before := by
    have := h.nodup
    grind
  rw [shape, List.idxOf_append_of_mem ha, List.idxOf_append_of_notMem fresh]
  have := List.idxOf_lt_length_iff.mpr ha
  omega

theorem mem_order (h : build stages connections = .ok g) {n : Name} :
    n ∈ g.order ↔ n ∈ stages ∨ ∃ m, (n, m) ∈ connections ∨ (m, n) ∈ connections := by
  obtain ⟨nodes, -, ordered⟩ := build_ok h
  rw [ordered.covers, nodes]
  exact mem_nodesOf

theorem idxOf_lt_of_linked (h : build stages connections = .ok g) {a b : Name}
    (linked : Linked connections a b) : g.order.idxOf a < g.order.idxOf b := by
  obtain ⟨-, edges, ordered⟩ := build_ok h
  refine ordered.idxOf_lt ?_ ((mem_order h).mpr (.inr ⟨a, .inr linked⟩))
  exact edges ▸ mem_distinct.mpr linked

theorem idxOf_lt_of_reached (h : build stages connections = .ok g) {a b : Name}
    (path : TransGen (Linked connections) a b) : g.order.idxOf a < g.order.idxOf b := by
  induction path with
  | single linked => exact idxOf_lt_of_linked h linked
  | tail _ linked ih => exact Nat.lt_trans ih (idxOf_lt_of_linked h linked)

theorem acyclic_of_build_ok (h : build stages connections = .ok g) : Acyclic connections := by
  intro n cycle
  exact Nat.lt_irrefl _ (idxOf_lt_of_reached h cycle)

/--
**An order is found for exactly the connections without a cycle.** It lists every name that is a
stage or an end of a connection once, and the producer of every connection before its reader.
-/
theorem build_ok_iff_acyclic (stages : List Name) (connections : List Edge) :
    ((∃ g, build stages connections = .ok g) ↔ Acyclic connections) ∧
      ∀ g, build stages connections = .ok g →
        g.order.Nodup ∧
        (∀ n, n ∈ g.order ↔ n ∈ stages ∨ ∃ m, (n, m) ∈ connections ∨ (m, n) ∈ connections) ∧
        ∀ a b, (a, b) ∈ connections → g.order.idxOf a < g.order.idxOf b := by
  refine ⟨⟨?_, fun acyclic => ?_⟩, fun g h => ?_⟩
  · rintro ⟨g, h⟩
    exact acyclic_of_build_ok h
  · cases h : build stages connections with
    | ok g => exact ⟨g, rfl⟩
    | error e =>
      obtain ⟨n, -, cycle⟩ := build_error h
      exact absurd cycle (acyclic n)
  · exact ⟨(build_ok h).2.2.nodup, fun _ => mem_order h, fun _ _ => idxOf_lt_of_linked h⟩

end Stageflow.Graph
