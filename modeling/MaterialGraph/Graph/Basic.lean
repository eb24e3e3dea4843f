import MaterialGraph.Catalog.Basic
import MaterialGraph.Graph.Node

/-!
# Graphs

A graph has nodes and connections, both in the order in which they were added. Where several match,
the first one counts: the first output node is the output, and the first connection to an input
feeds it. Connecting checks both ends against a catalog; a loader may instead add a connection as it
is, even one whose nodes are not there.
-/

namespace MaterialGraph

/-- A graph of nodes. -/
structure Graph where
  id : GraphId
  name : String
  nodes : Table Node
  connections : Table Connection

/-- Why two ports cannot be connected. -/
inductive ConnectionError where
  | nodeNotFound (node : NodeId)
  | unknownNodeType (kind : String)
  | portNotFound (port : PortId)
  | incompatiblePorts
  | portAlreadyConnected (port : PortId)
  | selfLoop
deriving DecidableEq, Repr

/-- The text of a connection error. -/
def ConnectionError.message : ConnectionError → String
  | nodeNotFound node => "Node not found: " ++ node.toString
  | unknownNodeType kind => "Unknown node type: " ++ kind
  | portNotFound port => "Port not found: " ++ port
  | incompatiblePorts => "Incompatible port types"
  | portAlreadyConnected port => "Port already connected: " ++ port
  | selfLoop => "Self-loop not allowed"

namespace Graph

/-- A graph without nodes. -/
def empty (id : GraphId) (name : String) : Graph :=
  ⟨id, name, .empty, .empty⟩

/-- The name of a graph that was given none. -/
def untitled : String := "Untitled"

/-- The node of an identity. -/
def node? (g : Graph) (id : NodeId) : Option Node :=
  g.nodes.find? id

/-- Add a node, or replace the one that has its identity. -/
def addNode (g : Graph) (node : Node) : Graph :=
  { g with nodes := g.nodes.insert node }

/-- Remove a node with its connections. -/
def removeNode (g : Graph) (id : NodeId) : Graph :=
  { g with
    nodes := g.nodes.erase id
    connections := g.connections.filter fun c => !c.involves id }

/-- Change the kind of a node. -/
def setKind (g : Graph) (id : NodeId) (kind : String) : Graph :=
  { g with nodes := g.nodes.modify id (fun n => { n with kind }) fun _ => rfl }

/-- Change the parameters of a node. -/
def setParams (g : Graph) (id : NodeId) (params : Params) : Graph :=
  { g with nodes := g.nodes.modify id (fun n => { n with params }) fun _ => rfl }

/-- Change the position of a node. -/
def setPosition (g : Graph) (id : NodeId) (position : Position) : Graph :=
  { g with nodes := g.nodes.modify id (fun n => { n with position }) fun _ => rfl }

/-- The first output node. -/
def outputNode? (g : Graph) : Option Node :=
  g.nodes.items.find? Node.isOutput

/-- The connection of an identity. -/
def connection? (g : Graph) (id : ConnectionId) : Option Connection :=
  g.connections.find? id

/-- The first connection that ends at an input. -/
def connectionTo? (g : Graph) (target : Endpoint) : Option Connection :=
  g.connections.items.find? (·.target == target)

/-- The connections that begin or end at a node. -/
def connectionsOf (g : Graph) (node : NodeId) : List Connection :=
  g.connections.items.filter (·.involves node)

/-- Add a connection as it is, or replace the one that has its identity. -/
def addConnection (g : Graph) (c : Connection) : Graph :=
  { g with connections := g.connections.insert c }

/-- Remove a connection. -/
def disconnect (g : Graph) (id : ConnectionId) : Graph :=
  { g with connections := g.connections.erase id }

/-- The node of an identity, as an end of a connection. -/
def nodeAt (g : Graph) (id : NodeId) : Except ConnectionError Node :=
  match g.node? id with
  | none => .error (.nodeNotFound id)
  | some node => .ok node

/-- The type of a kind, as an end of a connection. -/
def typeAt (catalog : Catalog) (kind : String) : Except ConnectionError NodeType :=
  match catalog.find? kind with
  | none => .error (.unknownNodeType kind)
  | some type => .ok type

/-- The port of a type, as an end of a connection. -/
def portAt (type : NodeType) (id : PortId) : Except ConnectionError Port :=
  match type.port? id with
  | none => .error (.portNotFound id)
  | some port => .ok port

/-- Whether two ends may be connected: each is found, they fit, the input is free, and the nodes
differ. Of several faults the first in this order is reported. -/
def checkConnection (g : Graph) (catalog : Catalog) (source target : Endpoint) :
    Except ConnectionError Unit := do
  let sourceNode ← g.nodeAt source.node
  let targetNode ← g.nodeAt target.node
  let sourceType ← typeAt catalog sourceNode.kind
  let targetType ← typeAt catalog targetNode.kind
  let sourcePort ← portAt sourceType source.port
  let targetPort ← portAt targetType target.port
  if sourcePort.direction != .output || targetPort.direction != .input ||
      !sourcePort.connects targetPort then
    throw .incompatiblePorts
  if (g.connectionTo? target).isSome then
    throw (.portAlreadyConnected target.port)
  if source.node = target.node then
    throw .selfLoop

/-- Connect two ends by a connection of a given identity. -/
def connect (g : Graph) (catalog : Catalog) (id : ConnectionId) (source target : Endpoint) :
    Except ConnectionError Graph :=
  match g.checkConnection catalog source target with
  | .error e => .error e
  | .ok () => .ok (g.addConnection ⟨id, source, target⟩)

end Graph

/-- A new node of a kind that a catalog offers. -/
def Catalog.createNode? (catalog : Catalog) (id : NodeId) (kind : String) : Option Node :=
  (catalog.find? kind).map fun type => Node.ofKind id type.id

end MaterialGraph
