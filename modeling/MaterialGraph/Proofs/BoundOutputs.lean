import MaterialGraph.Proofs.Assignments
import MaterialGraph.Proofs.Operands
import MaterialGraph.Proofs.PortTyping

/-!
# Which outputs are bound

The rule of a family binds outputs by name: the first that the type declares, all that it declares,
or those of a fixed list that it declares. In the standard catalog these are for every kind exactly
the outputs of its type. Since a node is taken exactly once, what is bound in the end are the
declared outputs of all nodes but the output node, and an input that such an output feeds never
falls back to its default.
-/

namespace MaterialGraph

/-! ### Rules -/

/-- The names under which an expansion binds outputs. -/
def Expansion.outputNames : Expansion → List PortId
  | fresnel => ["result"]
  | noise => ["value"]
  | voronoi => ["distance", "color"]
  | hsvToRgb => ["rgb"]
  | rgbToHsv => ["hue", "saturation", "value"]
  | colorRamp => ["color"]

/-- The outputs of a type that the rule of a family binds. -/
def Emission.boundNames (type : NodeType) : Emission → List PortId
  | output => []
  | source _ | constant | binary _ | call _ | compose => type.outputs.head?.toList.map Port.id
  | decompose | placeholder => type.outputs.map Port.id
  | expand expansion => expansion.outputNames.filter fun name => (type.output? name).isSome

/-- The outputs that a node binds, which are none if its kind has no rule or no type. -/
def Node.boundNames (node : Node) (catalog : Catalog) : List PortId :=
  match node.kind?, catalog.find? node.kind with
  | some kind, some type => kind.emission.boundNames type
  | _, _ => []

/-- An expansion binds outputs under its names, whatever its inputs stand for. -/
theorem Expansion.map_fst_bindings (node : Node) (inputs : Inputs) (start : Nat)
    (expansion : Expansion) :
    Yields (expansion.block node inputs start) fun block =>
      block.bindings.map Prod.fst = expansion.outputNames := by
  unfold Expansion.block
  cases expansion with
  | fresnel | noise | voronoi =>
    refine Yields.bind (Yields.any _) fun _ _ => ?_
    exact Yields.bind (Yields.any _) fun _ _ => Yields.ok rfl
  | hsvToRgb =>
    refine Yields.bind (Yields.any _) fun _ _ => ?_
    refine Yields.bind (Yields.any _) fun _ _ => ?_
    exact Yields.bind (Yields.any _) fun _ _ => Yields.ok rfl
  | rgbToHsv => exact Yields.bind (Yields.any _) fun _ _ => Yields.ok rfl
  | colorRamp =>
    dsimp only
    split
    · refine Yields.bind (Yields.any _) fun _ _ => ?_
      refine Yields.bind (Yields.any _) fun _ _ => ?_
      exact Yields.bind (Yields.any _) fun _ _ => Yields.ok rfl
    · exact Yields.error _

/-- The main output is the first one. -/
theorem NodeType.head?_of_mainOutput (type : NodeType) (kind : NodeKind) :
    Yields (type.mainOutput kind) fun output => type.outputs.head? = some output := by
  unfold NodeType.mainOutput
  split
  · exact Yields.error _
  · next output rest houtputs => exact Yields.ok (by rw [houtputs]; rfl)

/-- A node of a known kind binds the outputs of its family, whatever its inputs stand for. -/
theorem Node.map_fst_bindings (node : Node) (kind : NodeKind) (type : NodeType) (inputs : Inputs)
    (start : Nat) :
    Yields (node.block kind type inputs start) fun block =>
      block.bindings.map Prod.fst = kind.emission.boundNames type := by
  have hmain := type.head?_of_mainOutput kind
  unfold Node.block
  cases kind.emission with
  | output => exact Yields.ok rfl
  | source | call | compose =>
    refine Yields.bind hmain fun output houtput => Yields.ok ?_
    simp [Emission.boundNames, houtput, Block.ofBindings]
  | constant =>
    refine Yields.bind (Yields.any _) fun _ _ => ?_
    refine Yields.bind hmain fun output houtput => Yields.ok ?_
    simp [Emission.boundNames, houtput, Block.ofBindings]
  | binary =>
    refine Yields.bind hmain fun output houtput => ?_
    refine Yields.bind (Yields.any _) fun _ _ => ?_
    refine Yields.bind (Yields.any _) fun _ _ => Yields.ok ?_
    simp [Emission.boundNames, houtput]
  | decompose =>
    refine Yields.bind (Yields.any _) fun _ _ => Yields.ok ?_
    have hnames := congrArg (List.map Port.id) (List.zipIdx_map_fst 0 type.outputs)
    rw [List.map_map] at hnames ⊢
    exact hnames
  | expand expansion =>
    refine Yields.bind (expansion.map_fst_bindings node inputs start) fun block hblock => ?_
    refine Yields.ok ?_
    simp only [Emission.boundNames, ← hblock, Block.declaredOnly, List.filter_map]
    rfl
  | placeholder => exact Yields.ok (by simp [Emission.boundNames, Block.ofBindings])

/-- A node binds its outputs, whatever its inputs stand for. -/
theorem Node.map_fst_contribution (node : Node) (catalog : Catalog) (inputs : NodeType → Inputs)
    (start : Nat) :
    Yields (node.contribution catalog inputs start) fun block =>
      block.bindings.map Prod.fst = node.boundNames catalog := by
  unfold Node.contribution Node.boundNames
  cases node.kind? with
  | none => exact Yields.ok rfl
  | some kind =>
    cases catalog.find? node.kind with
    | none => exact Yields.ok rfl
    | some type => exact node.map_fst_bindings kind type (inputs type) start

namespace Catalog

/-- The rule of every kind binds the outputs that the standard catalog declares, and no others. -/
theorem boundNames_standard {kind : NodeKind} {type : NodeType}
    (h : standard.find? kind.id = some type) :
    kind.emission.boundNames type = type.outputs.map Port.id := by
  have hall : ∀ kind ∈ NodeKind.all, ∀ type ∈ standard.find? kind.id,
      kind.emission.boundNames type = type.outputs.map Port.id := by decide +kernel
  exact hall kind kind.mem_all type h

/-- The types of the standard catalog are of known kinds. -/
theorem exists_kind_of_find?_standard {name : String} {type : NodeType}
    (h : standard.find? name = some type) : ∃ kind : NodeKind, name = kind.id := by
  have hall : ∀ type ∈ standardTypes, (NodeKind.ofId? type.id).isSome = true := by decide +kernel
  obtain ⟨hmem, rfl⟩ := mem_standardTypes_of_find? h
  obtain ⟨kind, hkind⟩ := Option.isSome_iff_exists.mp (hall type hmem)
  exact ⟨kind, (NodeKind.ofId?_eq_some_iff type.id kind).mp hkind⟩

end Catalog

/-- With the standard catalog a node binds exactly the outputs of its type. -/
theorem Node.mem_boundNames_standard_iff (node : Node) (port : PortId) :
    port ∈ node.boundNames Catalog.standard ↔
      ∃ type, Catalog.standard.find? node.kind = some type ∧
        ∃ q ∈ type.outputs, q.id = port := by
  unfold boundNames
  cases htype : Catalog.standard.find? node.kind with
  | none => simp
  | some type =>
    obtain ⟨kind, hkind⟩ := Catalog.exists_kind_of_find?_standard htype
    have hknown : node.kind? = some kind := (NodeKind.ofId?_eq_some_iff node.kind kind).mpr hkind
    rw [hkind] at htype
    simp [hknown, Catalog.boundNames_standard htype]

/-! ### Runs -/

/-- A name is bound to something exactly when it is among the names. -/
theorem isSome_lookup_reverse_iff {β : Type} (bindings : List (PortId × β)) (port : PortId) :
    (bindings.reverse.lookup port).isSome = true ↔ port ∈ bindings.map Prod.fst := by
  rw [List.lookup_isSome_iff]
  simp only [List.mem_reverse, List.mem_map, beq_iff_eq]
  constructor
  · rintro ⟨binding, hbinding, hport⟩
    exact ⟨binding, hbinding, hport.symm⟩
  · rintro ⟨binding, hbinding, hport⟩
    exact ⟨binding, hbinding, hport.symm⟩

namespace Generation

variable {g : Graph} {catalog : Catalog} {generation next final : Generation}

/-- Adding a node binds its outputs and keeps what is bound. -/
theorem isSome_lookup_add_iff {node : Node} (h : generation.add g catalog node = .ok next)
    (e : Endpoint) :
    (next.references.lookup e).isSome = true ↔
      (node.id = e.node ∧ e.port ∈ node.boundNames catalog) ∨
        (generation.references.lookup e).isSome = true := by
  obtain ⟨block, hblock, rfl⟩ := add_eq_ok_iff.mp h
  have hnames := node.map_fst_contribution catalog _ _ block hblock
  by_cases hnode : e.node = node.id
  · obtain ⟨_, port⟩ := e
    obtain rfl := hnode
    rw [References.lookup_bind_self, Option.isSome_or, Bool.or_eq_true, isSome_lookup_reverse_iff,
      hnames]
    simp
  · rw [References.lookup_bind_of_ne _ _ hnode]
    simp [Ne.symm hnode]

/-- Adding nodes binds the outputs of all of them and keeps what is bound. -/
theorem isSome_lookup_addAll_iff {nodes : List Node}
    (h : generation.addAll g catalog nodes = .ok final) (e : Endpoint) :
    (final.references.lookup e).isSome = true ↔
      (∃ node ∈ nodes, node.id = e.node ∧ e.port ∈ node.boundNames catalog) ∨
        (generation.references.lookup e).isSome = true := by
  induction nodes generalizing generation with
  | nil =>
    obtain rfl := Except.ok.inj h
    simp
  | cons node rest ih =>
    obtain ⟨next, hadd, hrest⟩ := addAll_cons_eq_ok_iff.mp h
    rw [ih hrest, isSome_lookup_add_iff hadd, List.exists_mem_cons_iff, ← or_assoc,
      or_comm (b := node.id = e.node ∧ _)]

end Generation

namespace Graph

variable {g : Graph} {catalog : Catalog} {nodes : List Node} {generation : Generation}

/-- A node is taken when there are given statements and references, and contributes a block. -/
def Taken (g : Graph) (catalog : Catalog) (nodes : List Node) (node : Node)
    (current : Generation) (block : Block) : Prop :=
  ∃ before after, nodes = before ++ node :: after ∧
    Generation.start.addAll g catalog before = .ok current ∧
    node.contribution catalog (Inputs.ofNode g current.references node.id)
      (Statement.declared current.statements) = .ok block

/-- Every node of a run that succeeds is taken. -/
theorem exists_taken (h : Generation.start.addAll g catalog nodes = .ok generation) {node : Node}
    (hnode : node ∈ nodes) : ∃ current block, g.Taken catalog nodes node current block := by
  obtain ⟨before, after, rfl⟩ := List.append_of_mem hnode
  obtain ⟨current, hbefore, hfrom⟩ := Generation.addAll_append_eq_ok_iff.mp h
  obtain ⟨next, hadd, -⟩ := Generation.addAll_cons_eq_ok_iff.mp hfrom
  obtain ⟨block, hblock, -⟩ := Generation.add_eq_ok_iff.mp hadd
  exact ⟨current, block, before, after, rfl, hbefore, hblock⟩

/-- After a node is taken, generation goes on with its block added. -/
theorem Taken.exists_addAll {node : Node} {current : Generation} {block : Block}
    (h : g.Taken catalog nodes node current block)
    (hall : Generation.start.addAll g catalog nodes = .ok generation) :
    ∃ before after, nodes = before ++ node :: after ∧
      Generation.start.addAll g catalog before = .ok current ∧
      current.addAll g catalog (node :: after) = .ok generation ∧
      Generation.addAll g catalog after ⟨current.statements ++ block.statements,
        current.references.bind node.id block.bindings⟩ = .ok generation := by
  obtain ⟨before, after, rfl, hbefore, hblock⟩ := h
  obtain ⟨middle, hmiddle, hfrom⟩ := Generation.addAll_append_eq_ok_iff.mp hall
  obtain rfl := Except.ok.inj (hmiddle.symm.trans hbefore)
  obtain ⟨next, hadd, hafter⟩ := Generation.addAll_cons_eq_ok_iff.mp hfrom
  obtain ⟨added, hadded, rfl⟩ := Generation.add_eq_ok_iff.mp hadd
  obtain rfl := Except.ok.inj (hadded.symm.trans hblock)
  exact ⟨before, after, rfl, hbefore, hfrom, hafter⟩

/-- What a node binds when it is taken stays bound, if no node is taken twice. -/
theorem Taken.lookup_eq {node : Node} {current : Generation} {block : Block}
    (h : g.Taken catalog nodes node current block)
    (hall : Generation.start.addAll g catalog nodes = .ok generation)
    (hdistinct : (nodes.map Node.id).Nodup) (port : PortId) :
    generation.references.lookup ⟨node.id, port⟩ = block.bindings.reverse.lookup port := by
  obtain ⟨before, after, rfl, hbefore, -, hafter⟩ := h.exists_addAll hall
  rw [List.map_append, List.map_cons, List.nodup_middle, List.nodup_cons, List.mem_append,
    not_or] at hdistinct
  obtain ⟨⟨hnotBefore, hnotAfter⟩, -⟩ := hdistinct
  have hunbound : current.references.lookup ⟨node.id, port⟩ = none := by
    rw [Generation.lookup_addAll_of_not_mem hbefore hnotBefore]
    rfl
  rw [Generation.lookup_addAll_of_not_mem hafter hnotAfter, References.lookup_bind_self, hunbound,
    Option.or_none]

/-- What an input stands for when its node is taken, it stands for in the end. -/
theorem Taken.resolve_eq {node : Node} {current : Generation} {block : Block}
    (h : g.Taken catalog nodes node current block)
    (hall : Generation.start.addAll g catalog nodes = .ok generation)
    (hsequenced : g.Sequenced nodes) (port : Port) :
    g.resolve current.references node.id port = g.resolve generation.references node.id port := by
  obtain ⟨before, after, hsplit, -, hfrom, -⟩ := h.exists_addAll hall
  exact resolve_addAll hfrom (hsequenced before node after hsplit) port

/-- There is an output at an end exactly when the type of the node there declares its name. -/
theorem exists_outputAt_iff (g : Graph) (catalog : Catalog) (e : Endpoint) :
    (∃ q, g.OutputAt catalog e q) ↔ ∃ node ∈ g.node? e.node, ∃ type ∈ catalog.find? node.kind,
      ∃ q ∈ type.outputs, q.id = e.port := by
  constructor
  · rintro ⟨q, node, type, hnode, htype, hq, hport⟩
    exact ⟨node, hnode, type, htype, q, hq, hport⟩
  · rintro ⟨node, hnode, type, htype, q, hq, hport⟩
    exact ⟨q, node, type, hnode, htype, hq, hport⟩

instance (g : Graph) (catalog : Catalog) (e : Endpoint) :
    Decidable (∃ q, g.OutputAt catalog e q) :=
  decidable_of_iff' _ (g.exists_outputAt_iff catalog e)

/-- With the standard catalog the outputs that are bound in the end are those of the nodes other
than the output node. -/
theorem isSome_lookup_standard_iff {order : List NodeId} (horder : g.order? = some order)
    {output : NodeId}
    (hall : Generation.start.addAll g Catalog.standard (g.emitted output order) = .ok generation)
    (e : Endpoint) :
    (generation.references.lookup e).isSome = true ↔
      e.node ≠ output ∧ ∃ q, g.OutputAt Catalog.standard e q := by
  have hstart : (Generation.start.references.lookup e).isSome = false := rfl
  rw [Generation.isSome_lookup_addAll_iff hall, hstart]
  simp only [Bool.false_eq_true, or_false, mem_emitted_iff horder,
    Node.mem_boundNames_standard_iff]
  constructor
  · rintro ⟨node, ⟨hnode, hother⟩, hid, type, htype, q, hq, hport⟩
    rw [← hid]
    exact ⟨hother, q, node, type, hid ▸ Table.find?_key_of_mem hnode, htype, hq, hport⟩
  · rintro ⟨hother, q, node, type, hnode, htype, hq, hport⟩
    obtain ⟨hmem, hid⟩ := Table.mem_of_find?_eq_some hnode
    have hid' : node.id = e.node := hid
    exact ⟨node, ⟨hmem, hid' ▸ hother⟩, hid', type, htype, q, hq, hport⟩

/-- The output node has no outputs in the standard catalog. -/
theorem node_ne_of_outputAt {output : Node} (houtput : g.FirstOutput output) {e : Endpoint}
    {q : Port} (h : g.OutputAt Catalog.standard e q) : e.node ≠ output.id := by
  intro hnode
  obtain ⟨before, after, hitems, hkind, -⟩ := houtput
  obtain ⟨node, type, hfound, htype, hq, -⟩ := h
  have hmem : output ∈ g.nodes.items := by simp [hitems]
  rw [hnode] at hfound
  obtain rfl := Option.some.inj (hfound.symm.trans (Table.find?_key_of_mem hmem))
  have hnone : ∀ type ∈ Catalog.standard.find? "pbr_output", type.outputs = [] := by
    decide +kernel
  rw [hnone type (hkind ▸ htype)] at hq
  exact List.not_mem_nil hq

/-- An input that stands for what a node binds when it is taken: so it does when its own node is
taken, and in the end. -/
def Receives (g : Graph) (catalog : Catalog) (nodes : List Node) (generation : Generation)
    (source : Endpoint) (target : NodeId) (p : Port) : Prop :=
  ∃ node current block phrase, node.id = source.node ∧
    g.Taken catalog nodes node current block ∧
    block.bindings.reverse.lookup source.port = some phrase ∧
    g.resolve generation.references target p = ⟨phrase, true⟩ ∧
    ∀ node current block, node.id = target → g.Taken catalog nodes node current block →
      g.resolve current.references target p = ⟨phrase, true⟩

/-- An input receives what the output at the other end of its first connection is bound to. -/
theorem receives_of_isSome_lookup {order : List NodeId} (horder : g.order? = some order)
    {output : NodeId}
    (hall : Generation.start.addAll g catalog (g.emitted output order) = .ok generation)
    {target : NodeId} {p : Port} {c : Connection} (hfirst : g.FirstTo ⟨target, p.id⟩ c)
    (hbound : (generation.references.lookup c.source).isSome = true) :
    g.Receives catalog (g.emitted output order) generation c.source target p := by
  obtain ⟨phrase, hphrase⟩ := Option.isSome_iff_exists.mp hbound
  have hresolve : g.resolve generation.references target p = ⟨phrase, true⟩ := by
    rw [resolve, connectionTo?_eq_some_iff.mpr hfirst]
    simp [hphrase]
  have hmem : c.source.node ∈ (g.emitted output order).map Node.id := by
    by_contra hnot
    rw [Generation.lookup_addAll_of_not_mem hall hnot] at hphrase
    contradiction
  obtain ⟨node, hnode, hid⟩ := List.mem_map.mp hmem
  obtain ⟨current, block, htaken⟩ := exists_taken hall hnode
  refine ⟨node, current, block, phrase, hid, htaken, ?_, hresolve, ?_⟩
  · rw [← htaken.lookup_eq hall (nodup_emitted horder output), hid]
    exact hphrase
  · rintro node current block rfl htaken
    rw [htaken.resolve_eq hall (sequenced_emitted horder output), hresolve]

/-- Whenever a graph has a shader with the standard catalog, the outputs that are bound in the end
are the declared outputs of its nodes other than the output node, and an input whose first
connection comes from a declared output receives what that output is bound to. -/
theorem compile_binds_declared {g : Graph} {text : String}
    (h : g.compile Catalog.standard = .ok text) :
    ∃ output order generation,
      g.FirstOutput output ∧ g.order? = some order ∧
      Generation.start.addAll g Catalog.standard (g.emitted output.id order) = .ok generation ∧
      text = Template.assemble generation.lines
        (g.assignmentLines Catalog.standard generation.references output) ∧
      (∀ e : Endpoint, (generation.references.lookup e).isSome = true ↔
        e.node ≠ output.id ∧ ∃ q, g.OutputAt Catalog.standard e q) ∧
      ∀ (target : NodeId) (p : Port) (c : Connection), g.FirstTo ⟨target, p.id⟩ c →
        (∃ q, g.OutputAt Catalog.standard c.source q) →
        g.Receives Catalog.standard (g.emitted output.id order) generation c.source target p := by
  obtain ⟨output, order, generation, houtput, horder, hall, htext⟩ := compile_eq_ok_iff.mp h
  have hfirst := outputNode?_eq_some_iff.mp houtput
  refine ⟨output, order, generation, hfirst, horder, hall, htext,
    isSome_lookup_standard_iff horder hall, ?_⟩
  rintro target p c hc ⟨q, hq⟩
  apply receives_of_isSome_lookup horder hall hc
  exact (isSome_lookup_standard_iff horder hall c.source).mpr ⟨node_ne_of_outputAt hfirst hq, q, hq⟩

/-- The sum of the time binds its result, which the metallic input receives, and no output of the
missing node. -/
theorem compile_binds_declared_sumOfTime :
    ∃ text order generation, sumOfTime.compile Catalog.standard = .ok text ∧
      sumOfTime.order? = some order ∧
      (generation.references.lookup ⟨numbered 2, "result"⟩).isSome = true ∧
      (generation.references.lookup ⟨numbered 9, "result"⟩).isSome = false ∧
      ∀ p : Port, p.id = "metallic" →
        sumOfTime.Receives Catalog.standard (sumOfTime.emitted (numbered 3) order) generation
          ⟨numbered 2, "result"⟩ (numbered 3) p := by
  obtain ⟨text, htext⟩ := exists_eq_ok_of_isOk (x := sumOfTime.compile Catalog.standard)
    (by decide +kernel)
  obtain ⟨output, order, generation, houtput, horder, -, -, hbound, hreceives⟩ :=
    compile_binds_declared htext
  have hfirst : sumOfTime.outputNode? = some (.ofKind (numbered 3) "pbr_output") := by
    decide +kernel
  obtain rfl := Option.some.inj ((outputNode?_eq_some_iff.mpr houtput).symm.trans hfirst)
  have hresult : ∃ q, sumOfTime.OutputAt Catalog.standard ⟨numbered 2, "result"⟩ q := by
    decide +kernel
  refine ⟨text, order, generation, htext, horder, (hbound _).mpr ⟨by decide, hresult⟩, ?_, ?_⟩
  · rw [← Bool.not_eq_true, hbound]
    decide +kernel
  · intro p hp
    apply hreceives (numbered 3) p ⟨numbered 13, ⟨numbered 2, "result"⟩, ⟨numbered 3, "metallic"⟩⟩
    · rw [← connectionTo?_eq_some_iff, hp]
      decide +kernel
    · exact hresult

end Graph

end MaterialGraph
