import MaterialGraph.Kind
import MaterialGraph.Table
import MaterialGraph.Uuid

/-!
# Nodes and connections

A node is an instance of a kind, which is kept as the text that names it. A connection leads from an
output of one node to an input of another. Both have an identity of their own.
-/

namespace MaterialGraph

/-- Read an identity. -/
def Uuid.decode {σ : Type} [DataSource σ] (s : σ) : Option Uuid :=
  (DataSource.text? s).bind fun text => Uuid.ofText? text.toList

/-- Write an identity. -/
def Uuid.encode {τ : Type} [DataSink τ] (id : Uuid) : τ :=
  DataSink.text id.toString

/-- A place on the canvas of an editor. -/
structure Position where
  x : Single
  y : Single
deriving DecidableEq, Repr

namespace Position

/-- The origin. -/
def origin : Position :=
  ⟨.zero, .zero⟩

/-- Read a position. -/
def decode {σ : Type} [DataSource σ] (s : σ) : Option Position :=
  match DataSource.numbers? 2 s with
  | some [x, y] => some ⟨x, y⟩
  | _ => none

/-- Write a position. -/
def encode {τ : Type} [DataSink τ] (p : Position) : τ :=
  DataSink.numbers [p.x, p.y]

end Position

/-- A node of a graph. -/
structure Node where
  id : NodeId
  kind : String
  position : Position
  params : Params
deriving DecidableEq, Repr

namespace Node

/-- A new node of a kind at the origin, with the parameters that its kind starts with. -/
def ofKind (id : NodeId) (kind : String) : Node :=
  ⟨id, kind, .origin, .ofShape ((NodeKind.ofId? kind).elim .none NodeKind.paramShape)⟩

/-- The kind of a node, if it has a rule for shader text. -/
def kind? (n : Node) : Option NodeKind :=
  NodeKind.ofId? n.kind

/-- Whether a node is an output of the material. -/
def isOutput (n : Node) : Bool :=
  n.kind? == some .pbrOutput

/-- The fields of a node in documents. -/
def fields : List FieldRule :=
  [⟨"id", false⟩, ⟨"kind", false⟩, ⟨"position", true⟩, ⟨"params", true⟩]

open DataSource in
/-- Read a node; a missing position is the origin, and missing parameters are none. -/
def decode {σ : Type} [DataSource σ] (s : σ) : Option Node :=
  match record? "Node" fields s with
  | some [id, kind, position, params] => do
    some
      { id := ← required Uuid.decode id
        kind := ← required text? kind
        position := ← orElse .origin Position.decode position
        params := ← orElse .none Params.decode params }
  | _ => none

/-- Write a node. -/
def encode {τ : Type} [DataSink τ] (n : Node) : τ :=
  DataSink.record "Node"
    [("id", n.id.encode),
      ("kind", DataSink.text n.kind),
      ("position", n.position.encode),
      ("params", n.params.encode)]

end Node

/-- The text about a node whose parameters have the wrong shape. -/
def paramsMismatchText (node : NodeId) (kind : String) (expected found : ParamShape) : String :=
  "Node " ++ node.toString ++ " (" ++ kind ++ ") has " ++ found.text ++ " parameters, expected " ++
    expected.text

/-- The end of a connection: a port of a node. -/
structure Endpoint where
  node : NodeId
  port : PortId
deriving DecidableEq, Repr

/-- A connection from an output to an input. -/
structure Connection where
  id : ConnectionId
  source : Endpoint
  target : Endpoint
deriving DecidableEq, Repr

namespace Connection

/-- Whether a connection begins or ends at a node. -/
def involves (c : Connection) (node : NodeId) : Bool :=
  c.source.node == node || c.target.node == node

/-- The fields of a connection in documents. -/
def fields : List FieldRule :=
  [⟨"id", false⟩, ⟨"from_node", false⟩, ⟨"from_port", false⟩, ⟨"to_node", false⟩,
    ⟨"to_port", false⟩]

open DataSource in
/-- Read a connection. -/
def decode {σ : Type} [DataSource σ] (s : σ) : Option Connection :=
  match record? "Connection" fields s with
  | some [id, fromNode, fromPort, toNode, toPort] => do
    some
      { id := ← required Uuid.decode id
        source := ⟨← required Uuid.decode fromNode, ← required text? fromPort⟩
        target := ⟨← required Uuid.decode toNode, ← required text? toPort⟩ }
  | _ => none

/-- Write a connection. -/
def encode {τ : Type} [DataSink τ] (c : Connection) : τ :=
  DataSink.record "Connection"
    [("id", c.id.encode),
      ("from_node", c.source.node.encode),
      ("from_port", DataSink.text c.source.port),
      ("to_node", c.target.node.encode),
      ("to_port", DataSink.text c.target.port)]

end Connection

instance : Keyed Node NodeId where
  key := Node.id

instance : Keyed Connection ConnectionId where
  key := Connection.id

end MaterialGraph
