import MaterialGraph.Shader.Resolve

/-!
# Blocks and compile errors

A node contributes a block: statements, and phrases for its outputs. The rule of a kind reads the
inputs by name, so that a catalog whose entry for the kind lacks one of them is at fault. This is
one of the causes for which a graph has no shader.
-/

namespace MaterialGraph

/-- Why a graph cannot be compiled. -/
inductive CompileError where
  | noOutputNode
  | cyclicDependency
  | invalidParameters (node : NodeId) (kind : NodeKind) (expected found : ParamShape)
  | nonFiniteLiteral (node : NodeId) (kind : NodeKind)
  | missingPort (kind : NodeKind) (port : PortId)
deriving DecidableEq, Repr

/-- The text of a compile error. -/
def CompileError.message : CompileError → String
  | noOutputNode => "No PBR Output node found in graph. Add a 'pbr_output' node to compile."
  | cyclicDependency =>
    "Cyclic dependency detected in graph. Remove the loop between nodes to compile."
  | invalidParameters node kind expected found => paramsMismatchText node kind.id expected found
  | nonFiniteLiteral node kind =>
    "Node " ++ node.toString ++ " (" ++ kind.id ++ ") has a non-finite literal value"
  | missingPort kind port => "Node type '" ++ kind.id ++ "' does not declare port '" ++ port ++ "'"

/-- What a node contributes. -/
structure Block where
  statements : List Statement
  bindings : List (PortId × Phrase)
deriving DecidableEq, Repr

namespace Block

/-- A block without statements. -/
def ofBindings (bindings : List (PortId × Phrase)) : Block :=
  ⟨[], bindings⟩

/-- The declaration of a variable of a type. -/
def define (type : PortType) (value : Phrase) : Statement :=
  .declare .fixed (some type.shaderType) value

/-- The bindings of outputs that a type declares. -/
def declaredOnly (type : NodeType) (bindings : List (PortId × Phrase)) : List (PortId × Phrase) :=
  bindings.filter fun (port, _) => (type.output? port).isSome

end Block

namespace Inputs

/-- The input of a name, which the rule of a kind reads. -/
def get (inputs : Inputs) (kind : NodeKind) (port : PortId) : Except CompileError Resolved :=
  match inputs.lookup port with
  | some resolved => .ok resolved
  | none => .error (.missingPort kind port)

/-- The phrase of an input. -/
def phrase (inputs : Inputs) (kind : NodeKind) (port : PortId) : Except CompileError Phrase :=
  (inputs.get kind port).map Resolved.phrase

/-- The phrase of an input, or an expression of the shader if no connection leads to it. -/
def phraseOr (inputs : Inputs) (kind : NodeKind) (port : PortId) (builtin : String) :
    Except CompileError Phrase :=
  (inputs.get kind port).map fun resolved =>
    if resolved.connected then resolved.phrase else builtin

end Inputs

/-- The output to which a node with a single value binds it: the first one. -/
def NodeType.mainOutput (type : NodeType) (kind : NodeKind) : Except CompileError Port :=
  match type.outputs with
  | [] => .error (.missingPort kind "<output>")
  | output :: _ => .ok output

/-- The literal that stands for an output without a rule. -/
def PortType.placeholder : PortType → String
  | vec4 | color => "vec4<f32>(1.0, 0.0, 1.0, 1.0)"
  | vec3 => "vec3<f32>(0.0, 0.0, 1.0)"
  | vec2 => "vec2<f32>(0.0, 0.0)"
  | float | texture2d | exec => "1.0"

end MaterialGraph
