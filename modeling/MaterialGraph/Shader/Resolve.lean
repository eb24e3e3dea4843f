import MaterialGraph.Graph.Basic
import MaterialGraph.Shader.Phrase

/-!
# Resolving inputs

While nodes are compiled, each output that has a value is bound to a phrase. An input stands for the
phrase of the output that feeds it through its first connection. It stands for its default literal
if there is no connection, or if the output at its other end has no value.
-/

namespace MaterialGraph

/-- The phrases of outputs, the latest binding first. -/
abbrev References := List (Endpoint × Phrase)

namespace References

/-- Bind outputs of a node one after the other. -/
def bind (references : References) (node : NodeId) (bindings : List (PortId × Phrase)) :
    References :=
  bindings.foldl (fun references (port, phrase) => (⟨node, port⟩, phrase) :: references) references

end References

/-- What an input stands for, and whether a connection leads to it. -/
structure Resolved where
  phrase : Phrase
  connected : Bool
deriving DecidableEq, Repr

/-- What an input of a node stands for. -/
def Graph.resolve (g : Graph) (references : References) (node : NodeId) (port : Port) : Resolved :=
  match g.connectionTo? ⟨node, port.id⟩ with
  | some c => ⟨(references.lookup c.source).getD port.defaultLiteral, true⟩
  | none => ⟨port.defaultLiteral, false⟩

/-- What the inputs of a node stand for, in the order of their declaration. -/
abbrev Inputs := List (PortId × Resolved)

namespace Inputs

/-- The inputs of a node of a type. -/
def ofNode (g : Graph) (references : References) (node : NodeId) (type : NodeType) : Inputs :=
  type.inputs.map fun port => (port.id, g.resolve references node port)

/-- All inputs as arguments. -/
def arguments (inputs : Inputs) : Phrase :=
  Phrase.separate ", " (inputs.map fun (_, resolved) => resolved.phrase)

end Inputs

end MaterialGraph
