import MaterialGraph.Graph.Basic

/-!
# The order of a graph

Nodes are ordered so that each comes after those that feed it. A queue starts with the nodes that
nothing feeds, in node order; taking a node from it releases the targets of its edges one by one, in
connection order, and a node whose last incoming edge is released joins the queue. Edges with an end
outside the graph do not count. A graph with a cycle has no order, because the nodes on the cycle
never join the queue.
-/

namespace MaterialGraph

namespace Graph

/-- The connections between nodes of the graph, as pairs of source and target. -/
def edges (g : Graph) : List (NodeId × NodeId) :=
  (g.connections.items.filter fun c =>
      g.nodes.contains c.source.node && g.nodes.contains c.target.node).map
    fun c => (c.source.node, c.target.node)

/-- The number of edges that lead to a node. -/
def inDegree (edges : List (NodeId × NodeId)) (node : NodeId) : Nat :=
  edges.countP fun e => e.2 == node

/-- The ends of the edges that leave a node, in order. -/
def targets (edges : List (NodeId × NodeId)) (node : NodeId) : List NodeId :=
  (edges.filter fun e => e.1 == node).map Prod.snd

/-- The state of ordering: the number of edges still to be released for each node, the nodes that
wait, and those that have been taken. -/
structure OrderState where
  degree : NodeId → Nat
  queue : List NodeId
  taken : List NodeId

namespace OrderState

/-- The start: every edge is unreleased, and the nodes that nothing feeds wait. -/
def start (nodes : List NodeId) (edges : List (NodeId × NodeId)) : OrderState :=
  ⟨inDegree edges, nodes.filter fun n => inDegree edges n == 0, []⟩

/-- Release one edge to a node, which joins the queue if that was its last. -/
def release (s : OrderState) (node : NodeId) : OrderState :=
  let left := s.degree node - 1
  { s with
    degree := fun n => if n = node then left else s.degree n
    queue := if left = 0 then s.queue ++ [node] else s.queue }

/-- Take the first node that waits, and release the edges that leave it. -/
def step (edges : List (NodeId × NodeId)) (s : OrderState) : Option OrderState :=
  match s.queue with
  | [] => none
  | node :: rest =>
    some ((targets edges node).foldl release { s with queue := rest, taken := s.taken ++ [node] })

/-- Take nodes until none waits, at most a given number. -/
def run (edges : List (NodeId × NodeId)) : Nat → OrderState → OrderState
  | 0, s => s
  | limit + 1, s =>
    match s.step edges with
    | none => s
    | some next => run edges limit next

end OrderState

/-- The nodes in order, or nothing if there is a cycle. No node is taken twice, so that as many
steps as there are nodes are enough. -/
def order? (g : Graph) : Option (List NodeId) :=
  let taken := (OrderState.run g.edges g.nodes.size (.start g.nodes.keys g.edges)).taken
  if taken.length < g.nodes.size then none else some taken

end Graph

end MaterialGraph
