import MaterialGraph.Proofs.BalancedShader
import MaterialGraph.Proofs.BoundOutputs

/-!
# Operands keep together

Operands are set into phrases as they are, without brackets around them. This does not change what
belongs together, because every operand is enclosed. So an operation has its two operands on either
side of its symbol, and a function has one argument for each declared input.
-/

namespace MaterialGraph

/-! ### Moments of generation -/

namespace Graph

variable {catalog : Catalog} {generation : Generation}

/-- A moment of generation at which all that is bound and all that is read is enclosed. -/
structure EnclosedAt (g : Graph) (catalog : Catalog) (references : References) : Prop where
  bound : ∀ reference ∈ references, Enclosed reference.2.render
  resolved : ∀ (node : NodeId) {name : String} {type : NodeType}, catalog.find? name = some type →
    ∀ port ∈ type.inputs, Enclosed (g.resolve references node port).phrase.render
  /-- This includes expressions of the shader that stand for an input which nothing feeds. -/
  read : ∀ (node : NodeId) {name : String} {type : NodeType}, catalog.find? name = some type →
    ∀ kind port, ∀ builtin ∈ [Builtin.worldNormal, Builtin.uv],
      Yields ((Inputs.ofNode g references node type).phraseOr kind port builtin) fun p =>
        Enclosed p.render

/-- Operands are enclosed, and so is all that is bound and read if references are to operands. -/
theorem enclosedAt_of_operands (h : generation.references.Each (Fragment.Operand catalog))
    (g : Graph) : g.EnclosedAt catalog generation.references where
  bound reference hreference := (h reference hreference).enclosed
  resolved node _ _ htype port hport :=
    (Generation.operand_inputs h g node htype (port.id, _) (List.mem_map_of_mem hport)).enclosed
  read node _ _ htype kind port builtin hbuiltin := by
    have hall : ∀ builtin ∈ [Builtin.worldNormal, Builtin.uv], Enclosed builtin.toList := by decide
    refine Yields.map (Generation.operand_inputs h g node htype).get fun resolved hresolved => ?_
    split
    · exact hresolved.enclosed
    · simpa [Phrase.render, Phrase.fragmentText] using hall builtin hbuiltin

end Graph

/-! ### What is declared -/

/-- The text that a block declares, if it is one declaration. -/
def Block.declaredText? (block : Block) : Option (List Char) :=
  match block.statements with
  | [.declare _ _ value] => some value.render
  | _ => none

/-- What the rule of a family gives all inputs to: a function or the type of a vector. -/
def Emission.applied? (type : NodeType) : Emission → Option String
  | call function => some function
  | compose => type.outputs.head?.map fun output => output.type.shaderType
  | _ => none

/-- A block that keeps the operands of a kind apart: those of an operation are what stands on either
side of its symbol outside brackets, and those of a function are its arguments. -/
structure Block.Apart (block : Block) (kind : NodeKind) (type : NodeType)
    (operands : List (List Char)) : Prop where
  operation : ∀ op, kind.emission = .binary op → ∃ a b text, operands = [a, b] ∧
    block.declaredText? = some text ∧ ∀ left other right,
      text = operationText left (BinaryOp.symbol other).toList right ∧ depth left = 0 ↔
        left = a ∧ other = op ∧ right = b
  application : ∀ name, kind.emission.applied? type = some name → ∃ inner,
    block.declaredText? = some (name.toList ++ '(' :: (inner ++ [')'])) ∧ Balanced inner ∧
      argumentsOf inner = operands

/-- The symbols of operators tell them apart. -/
theorem BinaryOp.symbol_toList_inj {a b : BinaryOp} :
    a.symbol.toList = b.symbol.toList ↔ a = b := by
  cases a <;> cases b <;> decide

/-- The symbol of an operator is enclosed. -/
theorem BinaryOp.enclosed_symbol (op : BinaryOp) : Enclosed op.symbol.toList := by
  cases op <;> decide

/-- In the standard catalog an operation has two inputs, which are those that its rule reads. -/
theorem Catalog.inputs_of_binary {kind : NodeKind} {type : NodeType} {op : BinaryOp}
    (htype : standard.find? kind.id = some type) (h : kind.emission = .binary op) :
    ∃ a b : Port, type.inputs = [a, b] ∧ a.id = "a" ∧ b.id = "b" := by
  have hall : ∀ kind ∈ NodeKind.all, ∀ type ∈ standard.find? kind.id,
      (match kind.emission with
        | .binary _ => type.inputs.map Port.id == ["a", "b"]
        | _ => true) = true := by decide +kernel
  have hnames := hall kind kind.mem_all type htype
  rw [h] at hnames
  have hids : type.inputs.map Port.id = ["a", "b"] := by simpa using hnames
  obtain ⟨a, rest, hinputs, ha, hrest⟩ := List.map_eq_cons_iff.mp hids
  obtain ⟨b, others, rfl, hb, hothers⟩ := List.map_eq_cons_iff.mp hrest
  rw [List.map_eq_nil_iff.mp hothers] at hinputs
  exact ⟨a, b, hinputs, ha, hb⟩

section Rules

variable {g : Graph} {references : References} {node : Node} {kind : NodeKind} {type : NodeType}
  {start : Nat} {block : Block}
  (hinputs : ∀ port ∈ type.inputs, Enclosed (g.resolve references node.id port).phrase.render)
  (hblock : node.block kind type (Inputs.ofNode g references node.id type) start = .ok block)

include hinputs hblock

/-- An operation of the standard catalog has its operands on either side of its symbol. -/
theorem Node.apart_operation (htype : Catalog.standard.find? kind.id = some type) {op : BinaryOp}
    (hop : kind.emission = .binary op) :
    ∃ a b text,
      (type.inputs.map fun port => (g.resolve references node.id port).phrase.render) = [a, b] ∧
      block.declaredText? = some text ∧ ∀ left other right,
        text = operationText left (BinaryOp.symbol other).toList right ∧ depth left = 0 ↔
          left = a ∧ other = op ∧ right = b := by
  obtain ⟨p, q, hports, hp, hq⟩ := Catalog.inputs_of_binary htype hop
  have hleft : (Inputs.ofNode g references node.id type).phrase kind "a" =
      .ok (g.resolve references node.id p).phrase := by
    simp [Inputs.phrase, Inputs.get, Inputs.ofNode, hports, hp, Except.map]
  have hright : (Inputs.ofNode g references node.id type).phrase kind "b" =
      .ok (g.resolve references node.id q).phrase := by
    simp [Inputs.phrase, Inputs.get, Inputs.ofNode, hports, hp, hq, Except.map, List.lookup_cons]
  rw [Node.block, hop] at hblock
  simp only [hleft, hright, bind_eq_ok_iff, Except.ok.injEq, exists_eq_left'] at hblock
  obtain ⟨output, -, hblock⟩ := hblock
  obtain rfl := Except.ok.inj hblock
  have ha := hinputs p (by simp [hports])
  have hb := hinputs q (by simp [hports])
  refine ⟨_, _, _, by rw [hports]; rfl, rfl, fun left other right => ?_⟩
  rw [Phrase.render_operation, operationText_eq_iff ha hb op.enclosed_symbol other.enclosed_symbol,
    BinaryOp.symbol_toList_inj]

/-- A function or a construction has the inputs as its arguments. -/
theorem Node.apart_application {name : String} (hname : kind.emission.applied? type = some name) :
    ∃ inner, block.declaredText? = some (name.toList ++ '(' :: (inner ++ [')'])) ∧ Balanced inner ∧
      argumentsOf inner =
        type.inputs.map fun port => (g.resolve references node.id port).phrase.render := by
  have henclosed : ∀ text ∈ type.inputs.map fun port =>
      (g.resolve references node.id port).phrase.render, Enclosed text := by
    intro text htext
    obtain ⟨port, hport, rfl⟩ := List.mem_map.mp htext
    exact hinputs port hport
  have harguments : (Inputs.ofNode g references node.id type).arguments.render =
      ", ".toList.intercalate
        (type.inputs.map fun port => (g.resolve references node.id port).phrase.render) := by
    rw [Inputs.render_arguments, Inputs.ofNode, List.map_map]
    rfl
  have htext : block.declaredText? = some (name.toList ++
      '(' :: ((Inputs.ofNode g references node.id type).arguments.render ++ [')'])) := by
    unfold Node.block at hblock
    cases hemission : kind.emission with
    | call function =>
      rw [hemission] at hname hblock
      obtain rfl := Option.some.inj hname
      obtain ⟨output, -, hblock⟩ := bind_eq_ok_iff.mp hblock
      obtain rfl := Except.ok.inj hblock
      exact congrArg some (Phrase.render_applied function _)
    | compose =>
      rw [hemission] at hname hblock
      obtain ⟨output, houtput, hblock⟩ := bind_eq_ok_iff.mp hblock
      obtain rfl := Except.ok.inj hblock
      rw [Emission.applied?, type.head?_of_mainOutput kind output houtput] at hname
      obtain rfl := Option.some.inj hname
      exact congrArg some (Phrase.render_applied output.type.shaderType _)
    | _ =>
      rw [hemission] at hname
      contradiction
  refine ⟨_, htext, ?_, ?_⟩
  · rw [harguments]
    exact balanced_intercalate (by decide) fun text htext => (henclosed text htext).balanced
  · rw [harguments]
    exact argumentsOf_intercalate henclosed

end Rules

namespace Graph

variable {g : Graph} {catalog : Catalog} {nodes : List Node} {generation : Generation}

/-- Adding nodes adds statements after those that are there. -/
theorem exists_statements_addAll {current : Generation}
    (h : current.addAll g catalog nodes = .ok generation) :
    ∃ rest, generation.statements = current.statements ++ rest := by
  have hstep : ∀ {generation next : Generation} {node : Node},
      (∃ rest, generation.statements = current.statements ++ rest) →
      generation.add g catalog node = .ok next →
      ∃ rest, next.statements = current.statements ++ rest := by
    rintro generation next node ⟨rest, hrest⟩ hadd
    obtain ⟨block, -, rfl⟩ := Generation.add_eq_ok_iff.mp hadd
    exact ⟨rest ++ block.statements, by simp [hrest]⟩
  exact Generation.addAll_invariant hstep ⟨[], by simp⟩ h

/-- The statements of a node stand after those that there were when it was taken. -/
theorem Taken.exists_statements {node : Node} {current : Generation} {block : Block}
    (h : g.Taken catalog nodes node current block)
    (hall : Generation.start.addAll g catalog nodes = .ok generation) :
    ∃ rest, generation.statements = current.statements ++ block.statements ++ rest := by
  obtain ⟨before, after, -, -, -, hafter⟩ := h.exists_addAll hall
  exact exists_statements_addAll hafter

/-- What a node of the standard catalog declares keeps its operands apart. -/
theorem Taken.apart {node : Node} {current : Generation} {block : Block}
    (h : g.Taken Catalog.standard nodes node current block) {kind : NodeKind} {type : NodeType}
    (hkind : node.kind? = some kind) (htype : Catalog.standard.find? node.kind = some type) :
    block.Apart kind type
      (type.inputs.map fun port => (g.resolve current.references node.id port).phrase.render) := by
  obtain ⟨before, after, rfl, hbefore, hblock⟩ := h
  have hgrouped := Generation.grouped_addAll Catalog.balancedNames_standard hbefore
  have hinputs := (enclosedAt_of_operands hgrouped.references g).resolved node.id htype
  have hname : node.kind = kind.id := (NodeKind.ofId?_eq_some_iff node.kind kind).mp hkind
  rw [Node.contribution, hkind, htype] at hblock
  rw [hname] at htype
  exact ⟨fun op hop => Node.apart_operation hinputs hblock htype hop,
    fun name hname => Node.apart_application hinputs hblock hname⟩

/-- Whenever a graph has a shader with the standard catalog, all that outputs are bound to and all
that inputs stand for is enclosed at every moment of its generation. So operations have their
operands on either side of their symbol, functions have one argument for each input, and the
brackets of the shader are balanced. -/
theorem compile_keeps_grouping {g : Graph} {text : String}
    (h : g.compile Catalog.standard = .ok text) :
    ∃ output order generation,
      g.FirstOutput output ∧ g.order? = some order ∧
      Generation.start.addAll g Catalog.standard (g.emitted output.id order) = .ok generation ∧
      text = Template.assemble generation.lines
        (g.assignmentLines Catalog.standard generation.references output) ∧
      (∀ before after current, g.emitted output.id order = before ++ after →
        Generation.start.addAll g Catalog.standard before = .ok current →
        g.EnclosedAt Catalog.standard current.references) ∧
      (∀ node ∈ g.emitted output.id order, ∃ current block rest,
        g.Taken Catalog.standard (g.emitted output.id order) node current block ∧
        generation.statements = current.statements ++ block.statements ++ rest ∧
        ∀ kind type, node.kind? = some kind → Catalog.standard.find? node.kind = some type →
          block.Apart kind type (type.inputs.map fun port =>
            (g.resolve current.references node.id port).phrase.render)) ∧
      Balanced text.toList := by
  obtain ⟨output, order, generation, houtput, horder, hall, rfl⟩ := compile_eq_ok_iff.mp h
  have hfirst := outputNode?_eq_some_iff.mp houtput
  have hunmarked := Generation.unmarked_addAll Catalog.unmarked_standard hall
  have hgrouped := Generation.grouped_addAll Catalog.balancedNames_standard hall
  refine ⟨output, order, generation, hfirst, horder, hall, rfl, ?_, ?_, ?_⟩
  · intro before after current _ hcurrent
    have hmoment := Generation.grouped_addAll Catalog.balancedNames_standard hcurrent
    exact enclosedAt_of_operands hmoment.references g
  · intro node hnode
    obtain ⟨current, block, htaken⟩ := exists_taken hall hnode
    obtain ⟨rest, hrest⟩ := htaken.exists_statements hall
    exact ⟨current, block, rest, htaken, hrest, fun _ _ hkind htype => htaken.apart hkind htype⟩
  · have hlines : ∀ line ∈ generation.lines, ¬ Template.assignmentsSlot.toList <:+: line.toList :=
      fun line hline => Template.not_infix_of_unmarked
        (Statement.unmarked_of_mem_renderAll hunmarked.statements hline) (by decide)
    rw [Template.assemble_eq _ hlines]
    apply Template.balanced_blocks
    · rw [Generation.lines, ← Statement.linesText_eq]
      exact hgrouped.lines 0
    · exact balanced_assignmentLines hgrouped.references g output

/-- The sum of the time is an addition of two operands that can be read in one way only. -/
theorem compile_keeps_grouping_sumOfTime :
    ∃ text block a b value, sumOfTime.compile Catalog.standard = .ok text ∧
      Balanced text.toList ∧ Block.declaredText? block = some value ∧
      ∀ left other right,
        value = operationText left (BinaryOp.symbol other).toList right ∧ depth left = 0 ↔
          left = a ∧ other = .add ∧ right = b := by
  obtain ⟨text, htext⟩ := exists_eq_ok_of_isOk (x := sumOfTime.compile Catalog.standard)
    (by decide +kernel)
  obtain ⟨output, order, generation, houtput, horder, -, -, -, hnodes, hbalanced⟩ :=
    compile_keeps_grouping htext
  have hfirst : sumOfTime.outputNode? = some (.ofKind (numbered 3) "pbr_output") := by
    decide +kernel
  obtain rfl := Option.some.inj ((outputNode?_eq_some_iff.mpr houtput).symm.trans hfirst)
  have hsum : Node.ofKind (numbered 2) "add" ∈ sumOfTime.emitted (numbered 3) order :=
    (mem_emitted_iff horder).mpr (by decide +kernel)
  obtain ⟨current, block, -, -, -, hapart⟩ := hnodes _ hsum
  have hkind : (Node.ofKind (numbered 2) "add").kind? = some .add := by decide +kernel
  obtain ⟨type, htype, -⟩ := Catalog.exists_find?_standard .add
  obtain ⟨a, b, value, -, hvalue, hread⟩ := (hapart .add type hkind htype).operation .add rfl
  exact ⟨text, block, a, b, value, htext, hbalanced, hvalue, hread⟩

end Graph

end MaterialGraph
