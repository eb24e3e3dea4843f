import MaterialGraph.Graph.Basic
import MaterialGraph.Json.Data
import MaterialGraph.Ron.Data

/-!
# Documents

A document is a graph as an editor hands it over: plain lists of nodes and edges, of which nothing
has been checked. It is written in RON or in JSON, in both cases spread over lines.
-/

namespace MaterialGraph

/-- Read a value from a RON text. -/
def readRon? {α : Type} (decode : Ron.Cursor → Option α) (source : String) : Option α :=
  (Ron.parse? source).bind fun s => decode (.ofSource s)

/-- Read a value from a JSON text. -/
def readJson? {α : Type} (decode : Json → Option α) (source : String) : Option α :=
  (Json.parse? source).bind decode

/-- A graph in the form of a document. -/
structure Document where
  id : GraphId
  name : String
  nodes : List Node
  edges : List Connection
deriving DecidableEq, Repr

namespace Document

/-- The fields of a document. -/
def fields : List FieldRule :=
  [⟨"id", true⟩, ⟨"name", false⟩, ⟨"nodes", true⟩, ⟨"edges", true⟩]

open DataSource in
/-- Read a document; missing lists are empty.

A document without an identity is meant to get a fresh random one. Reading is a function of the
text, so the nil identity stands for it. Nothing that a shader or a check of a graph depends on
looks at the identity of the graph. -/
def decode {σ : Type} [DataSource σ] (s : σ) : Option Document :=
  match record? "GraphDocument" fields s with
  | some [id, name, nodes, edges] => do
    some
      { id := ← orElse .nil Uuid.decode id
        name := ← required text? name
        nodes := ← orElse [] (listOf Node.decode) nodes
        edges := ← orElse [] (listOf Connection.decode) edges }
  | _ => none

/-- Write a document. -/
def encode {τ : Type} [DataSink τ] (d : Document) : τ :=
  DataSink.record "GraphDocument"
    [("id", d.id.encode),
      ("name", DataSink.text d.name),
      ("nodes", DataSink.items (d.nodes.map Node.encode)),
      ("edges", DataSink.items (d.edges.map Connection.encode))]

/-- The document of a RON text. -/
def ofRon? (source : String) : Option Document :=
  readRon? decode source

/-- The document of a JSON text. -/
def ofJson? (source : String) : Option Document :=
  readJson? decode source

/-- The RON text of a document. -/
def toRon (d : Document) : String :=
  Ron.spreadString d.encode

/-- The JSON text of a document. -/
def toJson (d : Document) : String :=
  Json.spreadString d.encode

end Document

/-- The document of a graph. -/
def Graph.toDocument (g : Graph) : Document :=
  ⟨g.id, g.name, g.nodes.items, g.connections.items⟩

end MaterialGraph
