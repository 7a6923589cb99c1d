import Mathlib.Data.List.Chain
import Stageflow.Proofs.Order

/-!
# Cycles that are reported

Connections with a cycle are refused with the name of a stage. It is found by walking back over the
producers of each node, in the order in which a first walk has left the nodes, and with the marks of
the walks before: the second node that such a walk meets is reported.

* `lateProducer?_eq_secondMet?`: a producer that comes too late is that second node;
* `transGen_iff_chain`: one name is reached from another by a list of connections;
* `reported_on_cycle`: a stage that is reported lies on a cycle.
-/

namespace Stageflow.Graph

open Relation

variable {nodes : List Name} {edges connections : List Edge} {a b n p : Name}

/-! ## Walking back -/

/--
The nodes that a walk back meets, one after the other, from the nodes on a stack. It passes over
those that are marked; of a node that it meets it puts the producers on the stack, but for those
that are marked.
-/
def met (nodes : List Name) (edges : List Edge) : (stack marked : List Name) → List Name
  | [], _ => []
  | n :: stack, marked =>
    if _ : n ∈ nodes ∧ n ∉ marked then
      n :: met nodes edges ((producers edges n).filter (· ∉ n :: marked) ++ stack) (n :: marked)
    else met nodes edges stack marked
termination_by stack marked => ((unseen nodes marked).length, stack.length)
decreasing_by
  · next fresh => exact Prod.Lex.left _ _ (unseen_cons_lt fresh.1 fresh.2)
  · exact Prod.Lex.right _ (by simp)

/-- The second node that is met from one of some nodes, if the walk from any of them meets two. What
was met from one of them stays marked for the next. -/
def secondMet? (nodes : List Name) (edges : List Edge) : List Name → (marked : List Name) →
    Option Name
  | [], _ => none
  | n :: ns, marked =>
    match met nodes edges [n] marked with
    | _ :: second :: _ => some second
    | alone => secondMet? nodes edges ns (alone ++ marked)

variable {stack marked : List Name}

theorem met_fresh (known : n ∈ nodes) (fresh : n ∉ marked) :
    met nodes edges (n :: stack) marked =
      n :: met nodes edges ((producers edges n).filter (· ∉ n :: marked) ++ stack)
        (n :: marked) := by
  rw [met, dif_pos ⟨known, fresh⟩]

/-- From a node that is not marked, the walk goes on to the first producer that is not marked. -/
theorem met_from (closed : ∀ p, Linked edges p n → p ∈ nodes) (known : n ∈ nodes)
    (fresh : n ∉ marked) :
    (∃ p rest, met nodes edges [n] marked = n :: p :: rest ∧
        (producers edges n).find? (· ∉ n :: marked) = some p) ∨
      met nodes edges [n] marked = [n] ∧
        (producers edges n).find? (· ∉ n :: marked) = none := by
  rw [met_fresh known fresh, List.append_nil, ← List.head?_filter]
  cases unmet : (producers edges n).filter (· ∉ n :: marked) with
  | nil =>
    right
    constructor
    · rw [met]
    · rfl
  | cons p ps =>
    have listed : p ∈ (producers edges n).filter (· ∉ n :: marked) := by
      rw [unmet]
      exact List.mem_cons_self
    obtain ⟨reads, late⟩ := List.mem_filter.mp listed
    have behind : p ∈ nodes := closed p (mem_producers.mp reads)
    have unmarked : p ∉ n :: marked := by simpa using late
    left
    exact ⟨p, _, congrArg (n :: ·) (met_fresh behind unmarked), rfl⟩

/-- A producer that comes too late is the second node that a walk back meets. -/
theorem lateProducer?_eq_secondMet? (closed : ∀ a b, Linked edges a b → a ∈ nodes)
    {ns : List Name} (known : ∀ n ∈ ns, n ∈ nodes) (nodup : ns.Nodup)
    (fresh : ∀ n ∈ ns, n ∉ marked) :
    lateProducer? edges ns marked = secondMet? nodes edges ns marked := by
  induction ns generalizing marked with
  | nil => rfl
  | cons n ns ih =>
    obtain ⟨first, rest⟩ := List.nodup_cons.mp nodup
    have from_n := met_from (fun p => closed p n) (known n List.mem_cons_self)
      (fresh n List.mem_cons_self)
    unfold lateProducer? secondMet?
    rcases from_n with ⟨p, later, two, late⟩ | ⟨alone, in_time⟩
    · rw [two, late]
    · rw [alone, in_time]
      refine ih (fun m hm => known m (List.mem_cons_of_mem n hm)) rest fun m hm => ?_
      have other : m ≠ n := by
        rintro rfl
        exact first hm
      have unmarked : m ∉ marked := fresh m (List.mem_cons_of_mem n hm)
      simp [other, unmarked]

/-! ## Cycles as lists of connections -/

/-- A name is reached from another by a list of connections that fit together. -/
theorem transGen_iff_chain : TransGen (Linked connections) a b ↔
    ∃ between, (a :: (between ++ [b])).IsChain fun m n => (m, n) ∈ connections := by
  constructor
  · intro reached
    induction reached with
    | single linked => exact ⟨[], List.isChain_pair.mpr linked⟩
    | @tail m c _ linked ih =>
      obtain ⟨between, chain⟩ := ih
      have longer : (a :: (between ++ m :: [c])).IsChain fun m n => (m, n) ∈ connections := by
        rw [← List.cons_append, List.isChain_split]
        exact ⟨chain, List.isChain_pair.mpr linked⟩
      exact ⟨between ++ [m], by simpa using longer⟩
  · rintro ⟨between, chain⟩
    induction between generalizing a with
    | nil => exact .single (List.isChain_pair.mp chain)
    | cons m between ih =>
      obtain ⟨linked, rest⟩ := List.isChain_cons_cons.mp chain
      exact .head linked (ih rest)

/-! ## The stage that is reported -/

/-- How a stage is found that is reported: the first walk stops at a node that reads itself, or it
is the second node that is met on the way back. -/
inductive Found (nodes : List Name) (edges : List Edge) (n : Name) : Prop
  | loop (stopped : walk nodes edges (nodes.map .enter) [] [] = .error n)
  | back (order : List Name) (ended : walk nodes edges (nodes.map .enter) [] [] = .ok order)
      (second : secondMet? nodes edges order [] = some n)

theorem sort_error_found (closed : ∀ a b, Linked edges a b → a ∈ nodes ∧ b ∈ nodes)
    (refused : sort nodes edges = .error n) : Found nodes edges n := by
  unfold sort at refused
  split at refused
  · next m stopped =>
    obtain rfl := Except.error.inj refused
    exact .loop stopped
  · next order ended =>
    split at refused
    · next p late =>
      obtain rfl := Except.error.inj refused
      obtain ⟨visits, -⟩ := walk_nodes (fun a b linked => (closed a b linked).2) ended
      have known (m : Name) (hm : m ∈ order) : m ∈ nodes :=
        ((visits.only m hm).resolve_left List.not_mem_nil).1
      rw [lateProducer?_eq_secondMet? (fun a b linked => (closed a b linked).1) known visits.nodup
        (fun _ _ => List.not_mem_nil)] at late
      exact .back order ended late
    · cases refused

/--
**A stage that is reported lies on a cycle.** Some connections lead from it back to it, one after
the other. It is a stage that reads itself, or the second that a walk back over the producers meets,
whatever was marked by the walks before.
-/
theorem reported_on_cycle (stages : List Name) (connections : List Edge) (n : Name)
    (refused : build stages connections = .error (.cycle n)) :
    (∃ between, (n :: (between ++ [n])).IsChain fun a b => (a, b) ∈ connections) ∧
      Found (nodesOf stages connections) (distinct connections) n := by
  constructor
  · obtain ⟨m, same, cycle⟩ := build_error refused
    obtain rfl := FlowError.cycle.inj same
    exact transGen_iff_chain.mp cycle
  · unfold build at refused
    dsimp only at refused
    split at refused
    · cases refused
    · next m stopped =>
      obtain rfl := FlowError.cycle.inj (Except.error.inj refused)
      exact sort_error_found (linked_nodes stages connections) stopped

/-- The walk back from the second stage meets the third, which reads the second again. -/
theorem reported_on_cycle_pair :
    let connections : List Edge := [("a", "b"), ("b", "c"), ("c", "b")]
    build ["a"] connections = .error (.cycle "c") ∧
      ∃ between, ("c" :: (between ++ ["c"])).IsChain fun a b => (a, b) ∈ connections := by
  intro connections
  have refused : build ["a"] connections = .error (.cycle "c") := by cbv
  exact ⟨refused, (reported_on_cycle ["a"] connections "c" refused).1⟩

end Stageflow.Graph
