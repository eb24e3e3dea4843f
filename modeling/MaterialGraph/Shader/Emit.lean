import MaterialGraph.Shader.Expansion

/-!
# What a node contributes

The block of a node by the family of its kind. Every rule either finds the ports it reads in the
catalog and fitting parameters in the node, or names the fault; it does not depend on what the
inputs stand for.
-/

namespace MaterialGraph

/-- The literal of a constant node. -/
def Node.constantLiteral (node : Node) (kind : NodeKind) : Except CompileError String :=
  match node.params with
  | .constant value =>
    if value.shape = kind.paramShape then
      if value.isFinite then .ok value.literal else .error (.nonFiniteLiteral node.id kind)
    else .error (.invalidParameters node.id kind kind.paramShape value.shape)
  | params => .error (.invalidParameters node.id kind kind.paramShape params.shape)

/-- The block of a node of a known kind, whose first variable has a given number. -/
def Node.block (node : Node) (kind : NodeKind) (type : NodeType) (inputs : Inputs) (start : Nat) :
    Except CompileError Block :=
  match kind.emission with
  | .output => .ok (.ofBindings [])
  | .source expression => do
    let output ← type.mainOutput kind
    return .ofBindings [(output.id, expression)]
  | .constant => do
    let literal ← node.constantLiteral kind
    let output ← type.mainOutput kind
    return .ofBindings [(output.id, literal)]
  | .binary op => do
    let output ← type.mainOutput kind
    let a ← inputs.phrase kind "a"
    let b ← inputs.phrase kind "b"
    return ⟨[.declare .fixed none (Phrase.join [a, " ", op.symbol, " ", b])],
      [(output.id, Phrase.ofVariable start)]⟩
  | .call function => do
    let output ← type.mainOutput kind
    return ⟨[Block.define output.type (Phrase.join [function, "(", inputs.arguments, ")"])],
      [(output.id, Phrase.ofVariable start)]⟩
  | .decompose => do
    let vector ← inputs.phrase kind "vector"
    return ⟨type.outputs.map fun output =>
        Block.define output.type (Phrase.join [vector, ".", output.id]),
      type.outputs.zipIdx.map fun (output, i) => (output.id, Phrase.ofVariable (start + i))⟩
  | .compose => do
    let output ← type.mainOutput kind
    return ⟨[.declare .fixed none
        (Phrase.join [output.type.shaderType, "(", inputs.arguments, ")"])],
      [(output.id, Phrase.ofVariable start)]⟩
  | .expand expansion => do
    let block ← expansion.block node inputs start
    return { block with bindings := Block.declaredOnly type block.bindings }
  | .placeholder =>
    .ok (.ofBindings (type.outputs.map fun output => (output.id, output.type.placeholder)))

/-- Nodes whose kind has no rule, or is not in the catalog, contribute nothing. -/
def Node.contribution (node : Node) (catalog : Catalog) (inputs : NodeType → Inputs)
    (start : Nat) : Except CompileError Block :=
  match node.kind?, catalog.find? node.kind with
  | some kind, some type => node.block kind type (inputs type) start
  | _, _ => .ok (.ofBindings [])

end MaterialGraph
