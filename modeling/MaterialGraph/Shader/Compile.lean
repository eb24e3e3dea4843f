import MaterialGraph.Graph.Order
import MaterialGraph.Shader.Emit
import MaterialGraph.Shader.Material
import MaterialGraph.Shader.Template

/-!
# Compiling a graph

The nodes are taken in order, without the output node, and each adds its block. What an input stands
for is looked up when its node is taken; because nodes come after those that feed them, this is what
it stands for in the end. The output node then assigns the fields of the material.
-/

namespace MaterialGraph

/-- What has been generated: the statements so far, and the phrases of outputs. -/
structure Generation where
  statements : List Statement
  references : References
deriving DecidableEq, Repr

namespace Generation

/-- Nothing generated. -/
def start : Generation :=
  ⟨[], []⟩

/-- Add the contribution of a node. -/
def add (g : Graph) (catalog : Catalog) (generation : Generation) (node : Node) :
    Except CompileError Generation :=
  (node.contribution catalog (Inputs.ofNode g generation.references node.id)
      (Statement.declared generation.statements)).map
    fun block =>
      ⟨generation.statements ++ block.statements,
        generation.references.bind node.id block.bindings⟩

/-- Add the contributions of nodes one after the other. -/
def addAll (g : Graph) (catalog : Catalog) :
    List Node → Generation → Except CompileError Generation
  | [], generation => .ok generation
  | node :: rest, generation =>
    match generation.add g catalog node with
    | .error e => .error e
    | .ok next => addAll g catalog rest next

/-- The lines of the statements. -/
def lines (generation : Generation) : List String :=
  Statement.renderAll 0 generation.statements

end Generation

namespace Graph

/-- The nodes of an order other than the output node. -/
def emitted (g : Graph) (output : NodeId) (order : List NodeId) : List Node :=
  (order.filter (· != output)).filterMap g.node?

/-- The lines of the assignments of an output node. -/
def assignmentLines (g : Graph) (catalog : Catalog) (references : References) (output : Node) :
    List String :=
  (MaterialField.assignments g references output.id (catalog.find? output.kind)).map fun phrase =>
    String.ofList phrase.render

/-- The shader of a graph. -/
def compile (g : Graph) (catalog : Catalog) : Except CompileError String :=
  match g.outputNode? with
  | none => .error .noOutputNode
  | some output =>
    match g.order? with
    | none => .error .cyclicDependency
    | some order =>
      match Generation.start.addAll g catalog (g.emitted output.id order) with
      | .error e => .error e
      | .ok generation =>
        .ok (Template.assemble generation.lines
          (g.assignmentLines catalog generation.references output))

end Graph

/-- The result of compiling: a shader, or no text and an error. -/
structure CompileResult where
  code : String
  error : Option String
deriving DecidableEq, Repr

namespace CompileResult

/-- The result of an outcome. -/
def ofOutcome : Except CompileError String → CompileResult
  | .ok code => ⟨code, none⟩
  | .error e => ⟨"", some e.message⟩

/-- Whether there is no error. -/
def isOk (r : CompileResult) : Bool :=
  r.error.isNone

/-- The fields of a result in documents. -/
def fields : List FieldRule :=
  [⟨"code", false⟩, ⟨"error", true⟩]

open DataSource in
/-- Read a result. -/
def decode {σ : Type} [DataSource σ] (s : σ) : Option CompileResult :=
  match record? "CompileResult" fields s with
  | some [code, error] => do
    some
      { code := ← required text? code
        error := ← orElse none (optionOf text?) error }
  | _ => none

/-- Write a result; without an error there is no such field. -/
def encode {τ : Type} [DataSink τ] (r : CompileResult) : τ :=
  DataSink.record "CompileResult"
    (("code", DataSink.text r.code) ::
      match r.error with
      | none => []
      | some error => [("error", DataSink.option (some (DataSink.text error)))])

end CompileResult

end MaterialGraph
