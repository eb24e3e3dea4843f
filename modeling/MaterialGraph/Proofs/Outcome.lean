import MaterialGraph.Proofs.FinalReferences
import MaterialGraph.Proofs.StandardCatalog

/-!
# What compiling a graph gives

A graph without an output node fails for that alone, and one with a cycle fails for the cycle. In
all other cases the first node in order that has a fault of its own decides, and there is a shader
if none has. With the standard catalog only the parameters of constants and ramps can be at fault.
-/

namespace MaterialGraph

/-- Parameters have the shape of a ramp exactly when they hold an interpolation. -/
theorem Params.shape_ne_colorRamp_iff (params : Params) :
    params.shape ≠ .colorRamp ↔ ∀ interpolation, params ≠ .colorRamp interpolation := by
  cases params with
  | none | texture _ => simp [Params.shape]
  | constant value => cases value <;> simp [Params.shape, PortValue.shape]
  | colorRamp interpolation => simp [Params.shape]

/-- With the standard catalog a node is at fault only for the shape or a number of a constant, or
for the shape of a ramp. -/
theorem emissionFault?_standard_iff {id : NodeId} {name : String} {params : Params}
    {e : CompileError} :
    emissionFault? id name params (Catalog.standard.find? name) = some e ↔
      (∃ kind : NodeKind, name = kind.id ∧ kind.emission = .constant ∧
          params.shape ≠ kind.paramShape ∧
          e = .invalidParameters id kind kind.paramShape params.shape) ∨
        (∃ kind : NodeKind, name = kind.id ∧ kind.emission = .constant ∧
          params.shape = kind.paramShape ∧ params.isFinite = false ∧
          e = .nonFiniteLiteral id kind) ∨
        (name = "color_ramp" ∧ (∀ interpolation, params ≠ .colorRamp interpolation) ∧
          e = .invalidParameters id .colorRamp .colorRamp params.shape) := by
  cases hname : NodeKind.ofId? name with
  | none =>
    have hno : ∀ kind : NodeKind, name ≠ kind.id := by
      rintro kind rfl
      simp [NodeKind.ofId?_id] at hname
    have hramp : name ≠ "color_ramp" := hno .colorRamp
    simp [emissionFault?, hname, hno, hramp]
  | some kind =>
    obtain rfl := (NodeKind.ofId?_eq_some_iff name kind).mp hname
    obtain ⟨type, htype, hneeds⟩ := Catalog.exists_find?_standard kind
    have hsame : ∀ other : NodeKind, kind.id = other.id ↔ kind = other := by
      intro other
      rw [← NodeKind.ofId?_eq_some_iff, hname, Option.some.injEq]
    have hramp : kind.id = "color_ramp" ↔ kind.emission = .expand .colorRamp :=
      (hsame .colorRamp).trans
        ⟨fun h => h ▸ rfl, fun h => (kind_eq_of_emission h).symm⟩
    simp only [emissionFault?, hname, htype, hneeds, Option.or_none, paramsFault?_eq_some_iff,
      hsame, hramp, ← Params.shape_ne_colorRamp_iff]
    constructor
    · rintro (⟨hconstant, h⟩ | ⟨hconstant, h⟩ | ⟨hexpand, h⟩)
      · exact Or.inl ⟨kind, rfl, hconstant, h⟩
      · exact Or.inr (Or.inl ⟨kind, rfl, hconstant, h⟩)
      · obtain rfl := kind_eq_of_emission hexpand
        exact Or.inr (Or.inr ⟨hexpand, h⟩)
    · rintro (⟨_, rfl, h⟩ | ⟨_, rfl, h⟩ | ⟨hexpand, h⟩)
      · exact Or.inl h
      · exact Or.inr (Or.inl h)
      · obtain rfl := kind_eq_of_emission hexpand
        exact Or.inr (Or.inr ⟨hexpand, h⟩)

namespace Graph

/-- There is no output node exactly when no node has the name of its kind. -/
theorem outputNode?_eq_none_iff (g : Graph) :
    g.outputNode? = none ↔ ∀ node ∈ g.nodes.items, node.kind ≠ "pbr_output" := by
  simp only [outputNode?, List.find?_eq_none, Node.isOutput_iff, ne_eq]

/-- The error of compiling a graph that has an output node and an order is the first fault. -/
theorem faultOf_compile {g : Graph} {catalog : Catalog} {output : Node} {order : List NodeId}
    (houtput : g.outputNode? = some output) (horder : g.order? = some order) :
    faultOf (g.compile catalog) = (g.emitted output.id order).findSome? fun node =>
      emissionFault? node.id node.kind node.params (catalog.find? node.kind) := by
  rw [← faultOf_addAll g catalog .start]
  simp only [compile, houtput, horder]
  cases Generation.start.addAll g catalog (g.emitted output.id order) with
  | error e => rfl
  | ok generation => rfl

/-- Compiling fails for want of an output node exactly when there is none. -/
theorem compile_eq_noOutputNode_iff (g : Graph) (catalog : Catalog) :
    g.compile catalog = .error .noOutputNode ↔ g.outputNode? = none := by
  cases houtput : g.outputNode? with
  | none => simp [compile, houtput]
  | some output =>
    cases horder : g.order? with
    | none => simp [compile, houtput, horder]
    | some order =>
      rw [← faultOf_eq_some_iff, faultOf_compile houtput horder]
      simp only [reduceCtorEq, iff_false]
      intro h
      obtain ⟨node, -, hfault⟩ := List.exists_of_findSome?_eq_some h
      exact (emissionFault?_ne hfault).1 rfl

/-- A graph with an output node fails for a cycle exactly when it has one. -/
theorem compile_eq_cyclicDependency_iff {g : Graph} {output : Node} (catalog : Catalog)
    (houtput : g.outputNode? = some output) :
    g.compile catalog = .error .cyclicDependency ↔ g.Cyclic := by
  cases horder : g.order? with
  | none => simp [compile, houtput, horder, cyclic_of_order?_eq_none horder]
  | some order =>
    rw [← faultOf_eq_some_iff, faultOf_compile houtput horder]
    simp only [not_cyclic_of_order? horder, iff_false]
    intro h
    obtain ⟨node, -, hfault⟩ := List.exists_of_findSome?_eq_some h
    exact (emissionFault?_ne hfault).2 rfl

/-- A graph has a shader exactly when it has an output node and no cycle, and none of its other nodes
is at fault. -/
theorem exists_compile_eq_ok_iff (g : Graph) (catalog : Catalog) :
    (∃ text, g.compile catalog = .ok text) ↔
      ¬ g.Cyclic ∧ ∃ output, g.outputNode? = some output ∧
        ∀ node ∈ g.nodes.items, node.id ≠ output.id →
          emissionFault? node.id node.kind node.params (catalog.find? node.kind) = none := by
  cases houtput : g.outputNode? with
  | none => simp [compile, houtput]
  | some output =>
    cases horder : g.order? with
    | none => simp [compile, houtput, horder, cyclic_of_order?_eq_none horder]
    | some order =>
      rw [← faultOf_eq_none_iff, faultOf_compile houtput horder, List.findSome?_eq_none_iff]
      simp only [mem_emitted_iff horder, not_cyclic_of_order? horder, Option.some.injEq,
        exists_eq_left', not_false_eq_true, true_and, and_imp]

/-- With the standard catalog no port is missing. -/
theorem compile_standard_ne_missingPort (g : Graph) (kind : NodeKind) (port : PortId) :
    g.compile Catalog.standard ≠ .error (.missingPort kind port) := by
  intro h
  cases houtput : g.outputNode? with
  | none => simp [compile, houtput] at h
  | some output =>
    cases horder : g.order? with
    | none => simp [compile, houtput, horder] at h
    | some order =>
      rw [← faultOf_eq_some_iff, faultOf_compile houtput horder] at h
      obtain ⟨node, -, hfault⟩ := List.exists_of_findSome?_eq_some h
      simp [emissionFault?_standard_iff] at hfault

/-- What compiling a graph gives is determined by its output node, its cycles, and the faults of its
nodes one by one. -/
theorem compile_outcome (g : Graph) (catalog : Catalog) :
    (g.compile catalog = .error .noOutputNode ↔
        ∀ node ∈ g.nodes.items, node.kind ≠ "pbr_output") ∧
      (∀ output, g.outputNode? = some output →
        (g.compile catalog = .error .cyclicDependency ↔ g.Cyclic) ∧
          ∀ order, g.order? = some order →
            (∀ e, g.compile catalog = .error e ↔
              ∃ before node after, g.emitted output.id order = before ++ node :: after ∧
                emissionFault? node.id node.kind node.params (catalog.find? node.kind) = some e ∧
                ∀ earlier ∈ before, emissionFault? earlier.id earlier.kind earlier.params
                  (catalog.find? earlier.kind) = none) ∧
            ((∃ text, g.compile catalog = .ok text) ↔
              ∀ node ∈ g.emitted output.id order,
                emissionFault? node.id node.kind node.params (catalog.find? node.kind) = none)) ∧
      (∀ (generation : Generation) (node : Node) (e : CompileError),
        generation.add g catalog node = .error e ↔
          emissionFault? node.id node.kind node.params (catalog.find? node.kind) = some e) ∧
      (∀ (id : NodeId) (name : String) (params : Params) (e : CompileError),
        emissionFault? id name params (Catalog.standard.find? name) = some e ↔
          (∃ kind : NodeKind, name = kind.id ∧ kind.emission = .constant ∧
              params.shape ≠ kind.paramShape ∧
              e = .invalidParameters id kind kind.paramShape params.shape) ∨
            (∃ kind : NodeKind, name = kind.id ∧ kind.emission = .constant ∧
              params.shape = kind.paramShape ∧ params.isFinite = false ∧
              e = .nonFiniteLiteral id kind) ∨
            (name = "color_ramp" ∧ (∀ interpolation, params ≠ .colorRamp interpolation) ∧
              e = .invalidParameters id .colorRamp .colorRamp params.shape)) ∧
      ∀ kind port, g.compile Catalog.standard ≠ .error (.missingPort kind port) := by
  refine ⟨?_, ?_, ?_, fun _ _ _ _ => emissionFault?_standard_iff,
    g.compile_standard_ne_missingPort⟩
  · rw [compile_eq_noOutputNode_iff, outputNode?_eq_none_iff]
  · intro output houtput
    refine ⟨compile_eq_cyclicDependency_iff catalog houtput, ?_⟩
    intro order horder
    constructor
    · intro e
      rw [← faultOf_eq_some_iff, faultOf_compile houtput horder, List.findSome?_eq_some_iff]
    · rw [← faultOf_eq_none_iff, faultOf_compile houtput horder, List.findSome?_eq_none_iff]
  · intro generation node e
    rw [← faultOf_eq_some_iff, faultOf_add]

/-- A ramp without an interpolation that stands before a constant that is not a number, although the
nodes are listed the other way round. -/
def rampBeforeConstant : Graph where
  id := numbered 0
  name := untitled
  nodes := .ofList
    [.ofKind (numbered 3) "pbr_output",
      ⟨numbered 2, "float_constant", .origin, .constant (.float (.nan false))⟩,
      ⟨numbered 1, "color_ramp", .origin, .none⟩]
  connections := .ofList [⟨numbered 10, ⟨numbered 1, "color"⟩, ⟨numbered 2, "value"⟩⟩]

/-- Of two faults the one of the node that is first in order is reported. -/
theorem compile_rampBeforeConstant :
    rampBeforeConstant.compile Catalog.standard =
      .error (.invalidParameters (numbered 1) .colorRamp .colorRamp .none) := by
  have houtput : rampBeforeConstant.outputNode? = some (.ofKind (numbered 3) "pbr_output") := by
    decide +kernel
  have horder : rampBeforeConstant.order? = some [numbered 3, numbered 1, numbered 2] := by
    decide +kernel
  obtain ⟨-, hcases, -⟩ := compile_outcome rampBeforeConstant Catalog.standard
  refine (((hcases _ houtput).2 _ horder).1 _).mpr
    ⟨[], ⟨numbered 1, "color_ramp", .origin, .none⟩,
      [⟨numbered 2, "float_constant", .origin, .constant (.float (.nan false))⟩], ?_, ?_, by simp⟩
  · decide +kernel
  · decide +kernel

end Graph

end MaterialGraph
