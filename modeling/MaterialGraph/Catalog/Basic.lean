import MaterialGraph.Port
import MaterialGraph.Table

/-!
# Catalogs

A catalog lists node types by the kind that they describe. Declaring a type again replaces the
earlier one in its place.
-/

namespace MaterialGraph

/-- The groups in which node types are offered. -/
inductive NodeCategory where
  | input
  | output
  | math
  | vector
  | color
  | procedural
  | texture
deriving DecidableEq, Repr

namespace NodeCategory

/-- The name of a category in documents. -/
def name : NodeCategory → String
  | input => "Input"
  | output => "Output"
  | math => "Math"
  | vector => "Vector"
  | color => "Color"
  | procedural => "Procedural"
  | texture => "Texture"

/-- The categories by name. -/
def names : List (String × NodeCategory) :=
  [input, output, math, vector, color, procedural, texture].map fun c => (c.name, c)

end NodeCategory

/-- A node type: the kind it describes, texts to show, and the ports in the order of their
declaration. -/
structure NodeType where
  id : String
  name : String
  category : NodeCategory
  description : String
  inputs : List Port
  outputs : List Port
deriving DecidableEq, Repr

namespace NodeType

/-- The first input of a name. -/
def input? (t : NodeType) (id : PortId) : Option Port :=
  t.inputs.find? (·.id == id)

/-- The first output of a name. -/
def output? (t : NodeType) (id : PortId) : Option Port :=
  t.outputs.find? (·.id == id)

/-- The first port of a name, inputs before outputs. -/
def port? (t : NodeType) (id : PortId) : Option Port :=
  t.input? id <|> t.output? id

/-- The fields of a node type in documents. -/
def fields : List FieldRule :=
  [⟨"id", false⟩, ⟨"name", false⟩, ⟨"category", false⟩, ⟨"description", false⟩, ⟨"inputs", false⟩,
    ⟨"outputs", false⟩]

open DataSource in
/-- Read a node type. -/
def decode {σ : Type} [DataSource σ] (s : σ) : Option NodeType :=
  match record? "NodeType" fields s with
  | some [id, name, category, description, inputs, outputs] => do
    some
      { id := ← required text? id
        name := ← required text? name
        category := ← required (oneOf NodeCategory.names) category
        description := ← required text? description
        inputs := ← required (listOf Port.decode) inputs
        outputs := ← required (listOf Port.decode) outputs }
  | _ => none

/-- Write a node type. -/
def encode {τ : Type} [DataSink τ] (t : NodeType) : τ :=
  DataSink.record "NodeType"
    [("id", DataSink.text t.id),
      ("name", DataSink.text t.name),
      ("category", DataSink.variant t.category.name .unit),
      ("description", DataSink.text t.description),
      ("inputs", DataSink.items (t.inputs.map Port.encode)),
      ("outputs", DataSink.items (t.outputs.map Port.encode))]

end NodeType

instance : Keyed NodeType String where
  key := NodeType.id

/-- The node types that are offered. -/
abbrev Catalog := Table NodeType

/-- The types of a category, in order. -/
def Catalog.ofCategory (catalog : Catalog) (category : NodeCategory) : List NodeType :=
  catalog.items.filter (·.category == category)

end MaterialGraph
