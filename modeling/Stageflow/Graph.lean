import Stageflow.Error

/-!
# Connection graphs

The connections between stages, with an order of the stages in which every producer comes before
its readers. Names that only occur in connections are nodes as well; a connection given twice is
one edge.

* `Graph.build` orders the nodes by a depth-first walk and refuses cyclic connections.
* `Graph.inputs` and `Graph.outputs` are the neighbours of a node, in ascending order.
* `Graph.cacheReason` says why the output of a node is worth keeping: it is read more than once, or
  its reader reads several inputs.
-/

namespace Stageflow

/-- A connection: the second stage reads the output of the first. -/
abbrev Edge := Name × Name

namespace Graph

/-- The names listed or connected, in the order in which they first appear. -/
def nodesOf (stages : List Name) (connections : List Edge) : List Name :=
  distinct (stages ++ connections.flatMap fun e => [e.1, e.2])

/-- The readers of a node, by the age of the edge. -/
def readers (edges : List Edge) (n : Name) : List Name := (edges.filter (·.1 = n)).map (·.2)

/-- The producers that a node reads, by the age of the edge. -/
def producers (edges : List Edge) (n : Name) : List Name := (edges.filter (·.2 = n)).map (·.1)

/-- What a depth-first walk still has to do. -/
inductive Task
  | enter (n : Name)
  | leave (n : Name)
deriving DecidableEq

/-- The nodes that have not been seen yet. -/
def unseen (nodes seen : List Name) : List Name := nodes.filter (· ∉ seen)

theorem unseen_cons_lt {nodes seen : List Name} {n : Name} (hn : n ∈ nodes) (hs : n ∉ seen) :
    (unseen nodes (n :: seen)).length < (unseen nodes seen).length := by
  unfold unseen
  rw [← List.countP_eq_length_filter, ← List.countP_eq_length_filter]
  induction nodes with
  | nil => simp at hn
  | cons m ms ih =>
    have mono : ms.countP (· ∉ n :: seen) ≤ ms.countP (· ∉ seen) :=
      List.countP_mono_left fun x _ => by simp
    simp only [List.countP_cons]
    by_cases hm : m = n
    · subst hm; simp at mono; simp [hs]; omega
    · have hn' : n ∈ ms := by simpa [Ne.symm hm] using hn
      have := ih hn'
      by_cases hms : m ∈ seen <;> simp_all

/--
Walks the graph depth first. A node goes to the front of `order` once all that can be reached from
it is there; a node with an edge to itself is reported at once.
-/
def walk (nodes : List Name) (edges : List Edge) :
    List Task → (seen order : List Name) → Except Name (List Name)
  | [], _, order => .ok order
  | .leave n :: todo, seen, order => walk nodes edges todo seen (n :: order)
  | .enter n :: todo, seen, order =>
    if h : n ∈ nodes ∧ n ∉ seen then
      let next := readers edges n
      if n ∈ next then .error n
      else walk nodes edges (next.map .enter ++ .leave n :: todo) (n :: seen) order
    else walk nodes edges todo seen order
termination_by todo seen => ((unseen nodes seen).length, todo.length)
decreasing_by
  · exact Prod.Lex.right _ (by simp)
  · exact Prod.Lex.left _ _ (unseen_cons_lt h.1 h.2)
  · exact Prod.Lex.right _ (by simp)

/-- The first producer, in a list of nodes, that stands behind its reader or is missing. -/
def lateProducer? (edges : List Edge) : List Name → (before : List Name) → Option Name
  | [], _ => none
  | n :: ns, before =>
    match (producers edges n).find? (· ∉ n :: before) with
    | some p => some p
    | none => lateProducer? edges ns (n :: before)

/-- The nodes with every producer before its readers, or a node on a cycle. -/
def sort (nodes : List Name) (edges : List Edge) : Except Name (List Name) :=
  match walk nodes edges (nodes.map .enter) [] [] with
  | .error n => .error n
  | .ok order =>
    match lateProducer? edges order [] with
    | some p => .error p
    | none => .ok order

end Graph

/-- A connection graph without cycles. -/
structure Graph where
  nodes : List Name
  edges : List Edge
  /-- The nodes with every producer before its readers. -/
  order : List Name
deriving DecidableEq

namespace Graph

/-- The graph of some stages and their connections. -/
def build (stages : List Name) (connections : List Edge) : Except FlowError Graph :=
  let nodes := nodesOf stages connections
  let edges := distinct connections
  match sort nodes edges with
  | .ok order => .ok ⟨nodes, edges, order⟩
  | .error n => .error (.cycle n)

/-- Whether a name is a node. -/
def contains (g : Graph) (n : Name) : Bool := n ∈ g.nodes

/-- The producers that a node reads, in ascending order. -/
def inputs (g : Graph) (n : Name) : List Name := Names.sorted (producers g.edges n)

/-- The readers of a node, in ascending order. -/
def outputs (g : Graph) (n : Name) : List Name := Names.sorted (readers g.edges n)

def inDegree (g : Graph) (n : Name) : Nat := (g.inputs n).length

def outDegree (g : Graph) (n : Name) : Nat := (g.outputs n).length

/-- The nodes without an edge from a producer, in ascending order. -/
def sources (g : Graph) : List Name :=
  Names.sorted (g.nodes.filter fun n => (producers g.edges n).isEmpty)

/-- The nodes without an edge to a reader, in ascending order. -/
def sinks (g : Graph) : List Name :=
  Names.sorted (g.nodes.filter fun n => (readers g.edges n).isEmpty)

/-- The number of nodes. -/
def stageCount (g : Graph) : Nat := g.nodes.length

/-- The number of edges. -/
def connectionCount (g : Graph) : Nat := g.edges.length

/-- Why the output of a node is kept. -/
inductive CacheReason
  /-- Several nodes read it. -/
  | fanout (readers : Nat)
  /-- Its only reader reads several inputs. -/
  | feedsUnion (reader : Name)
deriving DecidableEq

/-- A reason in words. -/
def CacheReason.text : CacheReason → String
  | fanout n => "read by " ++ toString n ++ " stages"
  | feedsUnion c => "feeds multi-input stage '" ++ c ++ "'"

/-- Why the output of a node is kept, if it is. -/
def cacheReason (g : Graph) (n : Name) : Option CacheReason :=
  let outputs := g.outputs n
  if 1 < outputs.length then some (.fanout outputs.length)
  else (outputs.find? fun c => 1 < g.inDegree c).map .feedsUnion

/-- Whether the output of a node is kept. -/
def caches (g : Graph) (n : Name) : Bool := (g.cacheReason n).isSome

end Graph

end Stageflow
