import MaterialGraph.Proofs.Loading
import MaterialGraph.Proofs.Outcome

/-!
# Compiling what was loaded

Loading looks at the parameters of every node of a known kind, compiling only at those of constants
and ramps, and both compare shapes and look for numbers that are not finite. What passes at loading
therefore passes at compiling, with whatever catalogs the two are done: a loaded graph can lack an
output node, an order, or a port in the catalog, and with the standard catalog no port.
-/

namespace MaterialGraph

namespace Node

/-- Parameters that fit are not at fault in any rule. -/
theorem Fitting.paramsFault?_eq_none {node : Node} (h : node.Fitting) {kind : NodeKind}
    (hkind : node.kind? = some kind) : paramsFault? node.id kind node.params = none := by
  obtain ⟨hshape, hfinite⟩ := h kind hkind
  cases hfault : paramsFault? node.id kind node.params with
  | none => rfl
  | some e =>
    rcases paramsFault?_eq_some_iff.mp hfault with ⟨-, hne, -⟩ | ⟨-, -, hinfinite, -⟩ | ⟨-, hne, -⟩
    · exact absurd hshape hne
    · rw [hfinite] at hinfinite
      contradiction
    · exact absurd hshape hne

/-- A node whose parameters fit can only want a port that the type of its kind does not declare. -/
theorem Fitting.eq_missingPort {node : Node} (h : node.Fitting) {type : Option NodeType}
    {e : CompileError} (hfault : emissionFault? node.id node.kind node.params type = some e) :
    ∃ kind port, e = .missingPort kind port := by
  unfold emissionFault? at hfault
  split at hfault
  · next kind type hkind =>
    rw [h.paramsFault?_eq_none hkind, Option.none_or] at hfault
    exact ⟨kind, missingFault?_eq_some hfault⟩
  · contradiction

end Node

namespace Graph

/-- The nodes that are added to a shader are nodes of the graph. -/
theorem mem_nodes_of_mem_emitted {g : Graph} {output : NodeId} {order : List NodeId} {node : Node}
    (h : node ∈ g.emitted output order) : node ∈ g.nodes.items := by
  obtain ⟨id, -, hnode⟩ := List.mem_filterMap.mp h
  exact (Table.mem_of_find?_eq_some hnode).1

/-- Compiling fails for a fault of the whole graph or for that of one of its nodes. -/
theorem fault_of_compile {g : Graph} {catalog : Catalog} {e : CompileError}
    (h : g.compile catalog = .error e) :
    e = .noOutputNode ∨ e = .cyclicDependency ∨
      ∃ node ∈ g.nodes.items,
        emissionFault? node.id node.kind node.params (catalog.find? node.kind) = some e := by
  cases houtput : g.outputNode? with
  | none =>
    simp only [compile, houtput, Except.error.injEq] at h
    exact Or.inl h.symm
  | some output =>
    cases horder : g.order? with
    | none =>
      simp only [compile, houtput, horder, Except.error.injEq] at h
      exact Or.inr (Or.inl h.symm)
    | some order =>
      rw [← faultOf_eq_some_iff, faultOf_compile houtput horder] at h
      obtain ⟨node, hnode, hfault⟩ := List.exists_of_findSome?_eq_some h
      exact Or.inr (Or.inr ⟨node, mem_nodes_of_mem_emitted hnode, hfault⟩)

end Graph

namespace Document

/-- The parameters of every node of a loaded graph fit. -/
theorem fitting_of_load {d : Document} {catalog : Catalog} {policy : ValidationPolicy} {g : Graph}
    (h : (d.load catalog policy).result = .ok g) {node : Node} (hnode : node ∈ g.nodes.items) :
    node.Fitting := by
  obtain ⟨-, hfits, -, -, rfl⟩ := load_eq_ok_iff.mp h
  exact hfits node (Table.mem_of_mem_ofList hnode)

/-- A graph that was loaded with one catalog compiles with any other without a fault of parameters,
and with the standard catalog it fails only for want of an output node or for a cycle. -/
theorem compile_of_load {d : Document} {loading : Catalog} {policy : ValidationPolicy} {g : Graph}
    (h : (d.load loading policy).result = .ok g) :
    (∀ compiling : Catalog,
        (∀ node kind expected found,
          g.compile compiling ≠ .error (.invalidParameters node kind expected found)) ∧
        ∀ node kind, g.compile compiling ≠ .error (.nonFiniteLiteral node kind)) ∧
      ∀ e, g.compile Catalog.standard = .error e → e = .noOutputNode ∨ e = .cyclicDependency := by
  have hany : ∀ (compiling : Catalog) (e : CompileError), g.compile compiling = .error e →
      e = .noOutputNode ∨ e = .cyclicDependency ∨ ∃ kind port, e = .missingPort kind port := by
    intro compiling e he
    rcases Graph.fault_of_compile he with hnone | hcycle | ⟨node, hnode, hfault⟩
    · exact Or.inl hnone
    · exact Or.inr (Or.inl hcycle)
    · exact Or.inr (Or.inr ((fitting_of_load h hnode).eq_missingPort hfault))
  refine ⟨fun compiling => ⟨?_, ?_⟩, ?_⟩
  · intro node kind expected found he
    simpa using hany compiling _ he
  · intro node kind he
    simpa using hany compiling _ he
  · intro e he
    rcases hany Catalog.standard e he with hnone | hcycle | ⟨kind, port, rfl⟩
    · exact Or.inl hnone
    · exact Or.inr hcycle
    · exact absurd he (g.compile_standard_ne_missingPort kind port)

open MaterialGraph.Graph (numbered)

/-- A ramp over a constant, which are connected in a circle. -/
def rampCircle : Document where
  id := numbered 0
  name := Graph.untitled
  nodes :=
    [.ofKind (numbered 1) "pbr_output",
      ⟨numbered 2, "color_ramp", .origin, .colorRamp .ease⟩,
      ⟨numbered 3, "float_constant", .origin, .constant (.float .one)⟩]
  edges :=
    [⟨numbered 10, ⟨numbered 3, "value"⟩, ⟨numbered 2, "factor"⟩⟩,
      ⟨numbered 11, ⟨numbered 2, "color"⟩, ⟨numbered 3, "value"⟩⟩]

/-- The circle was loaded with an empty catalog, and compiling it with the standard one fails for
the circle. -/
theorem compile_of_load_rampCircle :
    ∃ g, (rampCircle.load .empty .strict).result = .ok g ∧
      (∀ node kind, g.compile .empty ≠ .error (.nonFiniteLiteral node kind)) ∧
      g.compile Catalog.standard = .error .cyclicDependency := by
  obtain ⟨g, hg⟩ := exists_eq_ok_of_isOk (x := (rampCircle.load .empty .strict).result)
    (by decide +kernel)
  obtain ⟨hany, hstandard⟩ := compile_of_load hg
  refine ⟨g, hg, (hany .empty).2, ?_⟩
  obtain ⟨-, -, -, -, rfl⟩ := load_eq_ok_iff.mp hg
  cases he : rampCircle.build.compile Catalog.standard with
  | ok text =>
    have hfails : (rampCircle.build.compile Catalog.standard).isOk = false := by decide +kernel
    rw [he] at hfails
    contradiction
  | error e =>
    rcases hstandard e he with rfl | rfl
    · rw [Graph.compile_eq_noOutputNode_iff] at he
      exact absurd he (by decide +kernel)
    · rfl

end Document

end MaterialGraph
