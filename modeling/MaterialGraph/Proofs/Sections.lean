import MaterialGraph.Proofs.Numbering
import MaterialGraph.Proofs.SingleAssignment

/-!
# The parts of a shader

A shader has a section for each node, which holds the lines that the node adds, and the assignments
of the output node. Compiling is making these parts and assembling them. The section of a node holds
the lines of the block that the references at the end prescribe, numbered from the variables of the
nodes before it.
-/

namespace MaterialGraph

/-- The lines of each node and those of the assignments. -/
structure ShaderParts where
  sections : List (NodeId × List String)
  assignments : List String
deriving DecidableEq, Repr

namespace ShaderParts

/-- The lines of all nodes. -/
def lines (parts : ShaderParts) : List String :=
  parts.sections.flatMap Prod.snd

/-- The shader of parts. -/
def text (parts : ShaderParts) : String :=
  Template.assemble parts.lines parts.assignments

end ShaderParts

namespace Generation

/-- The lines that each of some nodes adds. -/
def sections (g : Graph) (catalog : Catalog) : List Node → Generation → List (NodeId × List String)
  | [], _ => []
  | node :: rest, generation =>
    match generation.add g catalog node with
    | .error _ => []
    | .ok next =>
      (node.id, next.lines.drop generation.lines.length) :: sections g catalog rest next

variable {g : Graph} {catalog : Catalog} {generation next final : Generation}

/-- Further statements add lines at the end. -/
theorem lines_append (generation : Generation) (statements : List Statement)
    (references : References) :
    lines ⟨generation.statements ++ statements, references⟩ = generation.lines ++
      Statement.renderAll (Statement.declared generation.statements) statements := by
  rw [lines, Statement.renderAll_append, Nat.zero_add]
  rfl

/-- Adding a node keeps the lines before it. -/
theorem lines_add {node : Node} (h : generation.add g catalog node = .ok next) :
    next.lines = generation.lines ++ next.lines.drop generation.lines.length := by
  obtain ⟨block, -, rfl⟩ := add_eq_ok_iff.mp h
  rw [lines_append, List.drop_left]

/-- The first section is that of the first node. -/
theorem sections_cons {node : Node} (h : generation.add g catalog node = .ok next)
    (rest : List Node) :
    generation.sections g catalog (node :: rest) =
      (node.id, next.lines.drop generation.lines.length) :: next.sections g catalog rest := by
  rw [sections, h]

/-- Each node has one section. -/
theorem map_fst_sections {nodes : List Node} (h : generation.addAll g catalog nodes = .ok final) :
    (generation.sections g catalog nodes).map Prod.fst = nodes.map Node.id := by
  induction nodes generalizing generation with
  | nil => rfl
  | cons node rest ih =>
    obtain ⟨next, hadd, hrest⟩ := addAll_cons_eq_ok_iff.mp h
    rw [sections_cons hadd, List.map_cons, List.map_cons, ih hrest]

/-- The lines in the end are those before and the sections one after the other. -/
theorem lines_addAll {nodes : List Node} (h : generation.addAll g catalog nodes = .ok final) :
    final.lines = generation.lines ++ (generation.sections g catalog nodes).flatMap Prod.snd := by
  induction nodes generalizing generation with
  | nil =>
    obtain rfl := Except.ok.inj h
    exact (List.append_nil _).symm
  | cons node rest ih =>
    obtain ⟨next, hadd, hrest⟩ := addAll_cons_eq_ok_iff.mp h
    rw [ih hrest, sections_cons hadd, List.flatMap_cons, ← List.append_assoc, ← lines_add hadd]

/-- The sections of two sequences of nodes are those of both. -/
theorem sections_append {before : List Node} (h : generation.addAll g catalog before = .ok next)
    (after : List Node) :
    generation.sections g catalog (before ++ after) =
      generation.sections g catalog before ++ next.sections g catalog after := by
  induction before generalizing generation with
  | nil =>
    obtain rfl := Except.ok.inj h
    rfl
  | cons node rest ih =>
    obtain ⟨middle, hadd, hrest⟩ := addAll_cons_eq_ok_iff.mp h
    rw [List.cons_append, sections_cons hadd, sections_cons hadd, ih hrest, List.cons_append]

end Generation

namespace Graph

/-- The parts of the shader of a graph. -/
def parts (g : Graph) (catalog : Catalog) : Except CompileError ShaderParts :=
  match g.outputNode? with
  | none => .error .noOutputNode
  | some output =>
    match g.order? with
    | none => .error .cyclicDependency
    | some order =>
      let nodes := g.emitted output.id order
      (Generation.start.addAll g catalog nodes).map fun generation =>
        ⟨Generation.start.sections g catalog nodes,
          g.assignmentLines catalog generation.references output⟩

/-- What the parts of a shader are. -/
theorem parts_eq_ok_iff {g : Graph} {catalog : Catalog} {p : ShaderParts} :
    g.parts catalog = .ok p ↔
      ∃ output order generation, g.outputNode? = some output ∧ g.order? = some order ∧
        Generation.start.addAll g catalog (g.emitted output.id order) = .ok generation ∧
        p = ⟨Generation.start.sections g catalog (g.emitted output.id order),
          g.assignmentLines catalog generation.references output⟩ := by
  unfold parts
  cases g.outputNode? with
  | none => simp
  | some output =>
    cases g.order? with
    | none => simp
    | some order =>
      cases hall : Generation.start.addAll g catalog (g.emitted output.id order) with
      | error e => simp [hall, Except.map]
      | ok generation => simp [hall, Except.map, eq_comm]

/-- Compiling is making the parts and assembling them. -/
theorem compile_eq_ok_iff_parts {g : Graph} {catalog : Catalog} {text : String} :
    g.compile catalog = .ok text ↔ ∃ p, g.parts catalog = .ok p ∧ text = p.text := by
  have hlines {nodes : List Node} {generation : Generation}
      (h : Generation.start.addAll g catalog nodes = .ok generation) (assignments : List String) :
      Template.assemble generation.lines assignments =
        ShaderParts.text ⟨Generation.start.sections g catalog nodes, assignments⟩ := by
    rw [Generation.lines_addAll h]
    rfl
  rw [compile_eq_ok_iff]
  constructor
  · rintro ⟨output, order, generation, houtput, horder, hall, rfl⟩
    exact ⟨_, parts_eq_ok_iff.mpr ⟨output, order, generation, houtput, horder, hall, rfl⟩,
      hlines hall _⟩
  · rintro ⟨p, hparts, rfl⟩
    obtain ⟨output, order, generation, houtput, horder, hall, rfl⟩ := parts_eq_ok_iff.mp hparts
    exact ⟨output, order, generation, houtput, horder, hall, (hlines hall _).symm⟩

/-- Nodes of which none is fed by a later one, and what is generated from them. -/
structure Generates (g : Graph) (catalog : Catalog) (nodes : List Node) (generation : Generation) :
    Prop where
  addAll_eq : Generation.start.addAll g catalog nodes = .ok generation
  sequenced : g.Sequenced nodes
  distinct : (nodes.map Node.id).Nodup

/-- The block that references prescribe for a node from a number, and to which they bind its
outputs. -/
structure Contributes (g : Graph) (catalog : Catalog) (references : References) (node : Node)
    (start : Nat) (block : Block) : Prop where
  contribution_eq :
    node.contribution catalog (Inputs.ofNode g references node.id) start = .ok block
  lookup_eq : ∀ port, references.lookup ⟨node.id, port⟩ = block.bindings.reverse.lookup port
  sound : block.Sound start

variable {g : Graph} {catalog : Catalog} {nodes : List Node} {generation : Generation}

/-- Compiling generates from nodes of which none is fed by a later one. -/
theorem generates_emitted {order : List NodeId} {output : NodeId} (horder : g.order? = some order)
    (hall : Generation.start.addAll g catalog (g.emitted output order) = .ok generation) :
    g.Generates catalog (g.emitted output order) generation :=
  ⟨hall, sequenced_emitted horder output, nodup_emitted horder output⟩

/-- Outputs of other nodes are not bound. -/
theorem Generates.lookup_eq_none (h : g.Generates catalog nodes generation) {e : Endpoint}
    (he : e.node ∉ nodes.map Node.id) : generation.references.lookup e = none := by
  rw [Generation.lookup_addAll_of_not_mem h.addAll_eq he]
  rfl

/-- Variables are declared up to the number of those of all nodes. -/
theorem Generates.variableName_mem_iff (h : g.Generates catalog nodes generation)
    (hcatalog : catalog.Plain) (index : Nat) :
    Phrase.variableName index ∈ declaredNames generation.lines ↔
      index < (slots catalog nodes).length := by
  have hcount : Statement.declared generation.statements = (slots catalog nodes).length := by
    rw [Generation.declared_addAll h.addAll_eq]
    exact Nat.zero_add _
  rw [(Generation.sound_start.addAll hcatalog h.addAll_eq).declaredNames_lines, hcount,
    List.mem_map_of_injective Phrase.variableName_injective, List.mem_range]

/-- The section of a node holds the lines of the block that the references at the end prescribe from
the number of variables before it. -/
theorem Generates.exists_section (h : g.Generates catalog nodes generation)
    (hcatalog : catalog.Plain) {before after : List Node} {node : Node}
    (hsplit : nodes = before ++ node :: after) :
    ∃ block, g.Contributes catalog generation.references node (slots catalog before).length block ∧
      (node.id, Statement.renderAll (slots catalog before).length block.statements) ∈
        Generation.start.sections g catalog nodes := by
  subst hsplit
  obtain ⟨middle, hbefore, hfrom⟩ := Generation.addAll_append_eq_ok_iff.mp h.addAll_eq
  obtain ⟨next, hadd, hafter⟩ := Generation.addAll_cons_eq_ok_iff.mp hfrom
  obtain ⟨block, hblock, hnext⟩ := Generation.add_eq_ok_iff.mp hadd
  have hstart : Statement.declared middle.statements = (slots catalog before).length := by
    rw [Generation.declared_addAll hbefore]
    exact Nat.zero_add _
  have hsound : middle.Sound := Generation.sound_start.addAll hcatalog hbefore
  obtain ⟨hnotBefore, hnotAfter⟩ :
      node.id ∉ before.map Node.id ∧ node.id ∉ after.map Node.id := by
    have hdistinct := h.distinct
    rw [List.map_append, List.map_cons, List.nodup_middle, List.nodup_cons, List.mem_append,
      not_or] at hdistinct
    exact hdistinct.1
  refine ⟨block, ⟨?_, ?_, ?_⟩, ?_⟩
  · rw [← hstart, ← inputs_addAll hfrom (h.sequenced before node after rfl)]
    exact hblock
  · intro port
    have hunbound : middle.references.lookup ⟨node.id, port⟩ = none := by
      rw [Generation.lookup_addAll_of_not_mem hbefore hnotBefore]
      rfl
    rw [Generation.lookup_addAll_of_not_mem hafter hnotAfter, hnext, References.lookup_bind_self,
      hunbound, Option.or_none]
  · rw [← hstart]
    exact node.sound_contribution hcatalog (hsound.references.inputs g node.id) block hblock
  · have hlines : next.lines.drop middle.lines.length =
        Statement.renderAll (slots catalog before).length block.statements := by
      rw [hnext, Generation.lines_append, List.drop_left, hstart]
    rw [Generation.sections_append hbefore, Generation.sections_cons hadd, hlines]
    exact List.mem_append_right _ List.mem_cons_self

end Graph

end MaterialGraph
