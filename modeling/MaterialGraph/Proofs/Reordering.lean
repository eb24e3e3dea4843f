import MaterialGraph.Proofs.EmissionFault
import MaterialGraph.Proofs.RenamedBlock
import MaterialGraph.Proofs.Sections

/-!
# Listing a graph in another order

Nodes and connections can be listed in any order. As long as the first output node and the first
connection to every input stay the same, the graph keeps its shader up to the order of the sections
and the numbers of the variables: nodes are taken in another order, and one renaming of variables
leads from the section of each node to its section in the other shader. The renaming is known before
anything is generated, since it depends on the order of the nodes only. That every output is bound
to the renamed phrase follows by going through the nodes, each of which comes after those that feed
it.
-/

namespace MaterialGraph

/-- The same nodes and connections in any order, with the same output node and the same first
connection to every input. -/
structure Graph.Reordered (g h : Graph) : Prop where
  nodes : g.nodes.items.Perm h.nodes.items
  connections : g.connections.items.Perm h.connections.items
  outputNode? : h.outputNode? = g.outputNode?
  connectionTo? : ∀ e, h.connectionTo? e = g.connectionTo? e

/-- Whether one graph is another in another order shows on the connections that there are. -/
theorem Graph.reordered_iff (g h : Graph) :
    g.Reordered h ↔ g.nodes.items.Perm h.nodes.items ∧
      g.connections.items.Perm h.connections.items ∧ h.outputNode? = g.outputNode? ∧
      ∀ c ∈ g.connections.items, h.connectionTo? c.target = g.connectionTo? c.target := by
  constructor
  · intro hreordered
    exact ⟨hreordered.nodes, hreordered.connections, hreordered.outputNode?,
      fun c _ => hreordered.connectionTo? c.target⟩
  · rintro ⟨hnodes, hconnections, houtput, hfirst⟩
    refine ⟨hnodes, hconnections, houtput, fun e => ?_⟩
    by_cases he : ∃ c ∈ g.connections.items, c.target = e
    · obtain ⟨c, hc, rfl⟩ := he
      exact hfirst c hc
    · have hnone : g.connectionTo? e = none :=
        List.find?_eq_none.mpr fun c hc htarget => he ⟨c, hc, by simpa using htarget⟩
      have hnone' : h.connectionTo? e = none :=
        List.find?_eq_none.mpr fun c hc htarget =>
          he ⟨c, hconnections.mem_iff.mpr hc, by simpa using htarget⟩
      rw [hnone, hnone']

instance (g h : Graph) : Decidable (g.Reordered h) :=
  decidable_of_iff' _ (g.reordered_iff h)

/-- One shader is another with renamed variables: it has the same sections in any order and the same
assignments, but for the names of variables, and declares the renamed variables. -/
structure ShaderParts.Renames (σ : Equiv.Perm Nat) (p q : ShaderParts) : Prop where
  sections : q.sections.Perm (p.sections.map fun (node, lines) => (node, lines.map (renameLine σ)))
  assignments : q.assignments = p.assignments.map (renameLine σ)
  declared : ∀ index, Phrase.variableName (σ index) ∈ declaredNames q.lines ↔
    Phrase.variableName index ∈ declaredNames p.lines
  distinct : (p.sections.map Prod.fst).Nodup

/-- Nodes that are added in one order are added in any other, and for any connections. -/
theorem Generation.exists_addAll_of_perm {g h : Graph} {catalog : Catalog}
    {nodes others : List Node} {start final : Generation}
    (hall : start.addAll g catalog nodes = .ok final) (hperm : nodes.Perm others) :
    ∃ final', start.addAll h catalog others = .ok final' := by
  have hnone := faultOf_eq_none_iff.mpr ⟨final, hall⟩
  rw [faultOf_addAll, List.findSome?_eq_none_iff] at hnone
  rw [← faultOf_eq_none_iff, faultOf_addAll, List.findSome?_eq_none_iff]
  exact fun node hnode => hnone node (hperm.mem_iff.mpr hnode)

namespace MaterialField

/-- The assignment of what an input stands for is renamed. -/
theorem assignmentOf?_rename (σ : Nat → Nat) (port : PortId) (resolved : Resolved) :
    assignmentOf? port (resolved.rename σ) =
      (assignmentOf? port resolved).map (Phrase.rename σ) := by
  unfold assignmentOf?
  cases ofPort? port with
  | none => rfl
  | some field =>
    rw [Option.bind_some, Option.bind_some]
    change (if field.needsConnection && !resolved.connected then _ else _) = _
    split
    · rfl
    · simp [assignment, Resolved.rename]

/-- The assignments of an output node are renamed if its inputs are. -/
theorem assignments_rename {g h : Graph} {references others : References} {σ : Nat → Nat}
    {output : NodeId}
    (hinputs : Inputs.ofNode h others output =
      fun type => (Inputs.ofNode g references output type).rename σ) (type : Option NodeType) :
    assignments h others output type =
      (assignments g references output type).map (Phrase.rename σ) := by
  cases type with
  | none => rfl
  | some type =>
    simp only [assignments, hinputs, Inputs.rename, List.filterMap_map, List.map_filterMap]
    apply List.filterMap_congr
    intro input _
    exact assignmentOf?_rename σ input.1 input.2

end MaterialField

namespace Graph.Reordered

variable {g h : Graph} (hreordered : g.Reordered h)

include hreordered

/-! ### The order of nodes -/

/-- The nodes are the same. -/
theorem keys_perm : g.nodes.keys.Perm h.nodes.keys :=
  hreordered.nodes.map _

/-- The same nodes feed the same nodes. -/
theorem feeds_eq : h.Feeds = g.Feeds := by
  funext a b
  simp only [Feeds, hreordered.keys_perm.mem_iff, hreordered.connections.mem_iff]

/-- There is an order for one if there is one for the other. -/
theorem exists_order? {order : List NodeId} (horder : g.order? = some order) :
    ∃ order', h.order? = some order' := by
  have hcyclic : h.Cyclic ↔ g.Cyclic := by rw [Cyclic, Cyclic, hreordered.feeds_eq]
  exact exists_order?_of_not_cyclic (hcyclic.not.mpr (not_cyclic_of_order? horder))

/-- The same nodes are added. -/
theorem emitted_perm {order order' : List NodeId} (horder : g.order? = some order)
    (horder' : h.order? = some order') (output : NodeId) :
    (g.emitted output order).Perm (h.emitted output order') := by
  have hnode? : h.node? = g.node? :=
    funext fun id => (Table.find?_eq_of_perm hreordered.nodes id).symm
  have hperm : order.Perm order' :=
    ((g.order?_eq_some_iff order).mp horder).2.trans
      (hreordered.keys_perm.trans ((h.order?_eq_some_iff order').mp horder').2.symm)
  rw [emitted, emitted, hnode?]
  exact (hperm.filter _).filterMap _

/-! ### What inputs stand for -/

/-- An input stands for the renamed phrase if what feeds it is bound to the renamed phrase. -/
theorem resolve_rename {references others : References} {σ : Nat → Nat} {node : NodeId}
    (hsource : ∀ c ∈ g.connections.items, c.target.node = node →
      others.lookup c.source = (references.lookup c.source).map (Phrase.rename σ)) (port : Port) :
    h.resolve others node port = (g.resolve references node port).rename σ := by
  unfold resolve
  rw [hreordered.connectionTo?]
  cases hfirst : g.connectionTo? ⟨node, port.id⟩ with
  | none => rfl
  | some c =>
    have htarget : c.target = ⟨node, port.id⟩ := by simpa using List.find?_some hfirst
    have hlookup := hsource c (List.mem_of_find?_eq_some hfirst) (congrArg Endpoint.node htarget)
    simp only [hlookup]
    cases references.lookup c.source <;> rfl

/-- The inputs of a node stand for renamed phrases if what feeds them is bound to renamed phrases. -/
theorem inputs_rename {references others : References} {σ : Nat → Nat} {node : NodeId}
    (hsource : ∀ c ∈ g.connections.items, c.target.node = node →
      others.lookup c.source = (references.lookup c.source).map (Phrase.rename σ)) :
    Inputs.ofNode h others node = fun type => (Inputs.ofNode g references node type).rename σ := by
  funext type
  rw [Inputs.ofNode, Inputs.ofNode, Inputs.rename, List.map_map]
  apply List.map_congr_left
  intro port _
  rw [hreordered.resolve_rename hsource port]
  rfl

/-- A node contributes the renamed block if what feeds it is bound to renamed phrases. -/
theorem block_eq_rename {catalog : Catalog} {references others : References} {σ : Nat → Nat}
    {node : Node} {start target : Nat} {block block' : Block}
    (hg : g.Contributes catalog references node start block)
    (hh : h.Contributes catalog others node target block')
    (hσ : ∀ i < node.variableCount catalog, σ (start + i) = target + i)
    (hsource : ∀ c ∈ g.connections.items, c.target.node = node.id →
      others.lookup c.source = (references.lookup c.source).map (Phrase.rename σ)) :
    block' = block.rename σ := by
  have hcount := node.declared_contribution catalog _ _ block hg.contribution_eq
  have hrenamed := Node.contribution_rename hg.contribution_eq (hcount ▸ hσ)
  rw [← hreordered.inputs_rename hsource, hh.contribution_eq] at hrenamed
  exact Except.ok.inj hrenamed

/-! ### The run -/

section Run

variable {catalog : Catalog} (hcatalog : catalog.Plain) {nodes others : List Node}
  {generation generation' : Generation} (hg : g.Generates catalog nodes generation)
  (hh : h.Generates catalog others generation') (hperm : nodes.Perm others) {σ : Nat → Nat}
  (hσ : CarriesVariables catalog σ nodes others)

include hcatalog hg hh hperm hσ

/-- If all outputs but those of a node and of later ones are bound to renamed phrases, then the
block of this node is the renamed one. -/
theorem exists_sections {before rest : List Node} {node : Node}
    (hsplit : others = before ++ node :: rest)
    (hbound : ∀ e : Endpoint, e.node ∉ (node :: rest).map Node.id →
      generation'.references.lookup e =
        (generation.references.lookup e).map (Phrase.rename σ)) :
    ∃ start target block, g.Contributes catalog generation.references node start block ∧
      h.Contributes catalog generation'.references node target (block.rename σ) ∧
      (node.id, Statement.renderAll start block.statements) ∈
        Generation.start.sections g catalog nodes ∧
      (node.id, (Statement.renderAll start block.statements).map (renameLine σ)) ∈
        Generation.start.sections h catalog others := by
  have hmem : node ∈ nodes := hperm.mem_iff.mpr (by simp [hsplit])
  obtain ⟨front, back, hfront⟩ := List.append_of_mem hmem
  obtain ⟨block, hblock, hsection⟩ := hg.exists_section hcatalog hfront
  obtain ⟨block', hblock', hsection'⟩ := hh.exists_section hcatalog hsplit
  have hcarried := hσ front node back before rest hfront hsplit
  obtain rfl := hreordered.block_eq_rename hblock hblock' hcarried fun c hc htarget =>
    hbound c.source (hh.sequenced before node rest hsplit c
      (hreordered.connections.mem_iff.mp hc) htarget)
  have hcount := node.declared_contribution catalog _ _ block hblock.contribution_eq
  refine ⟨_, _, block, hblock, hblock', hsection, ?_⟩
  rw [← Statement.renderAll_rename hblock.sound.1 (hcount ▸ hcarried)]
  exact hsection'

/-- Once some nodes have been gone through, all outputs but those of the others are bound to renamed
phrases. -/
theorem lookup_rename_of_not_mem {before rest : List Node} (hsplit : others = before ++ rest)
    {e : Endpoint} (he : e.node ∉ rest.map Node.id) :
    generation'.references.lookup e =
      (generation.references.lookup e).map (Phrase.rename σ) := by
  induction before using List.reverseRecOn generalizing rest e with
  | nil =>
    rw [List.nil_append] at hsplit
    subst hsplit
    have he' : e.node ∉ nodes.map Node.id := fun hmem => he ((hperm.map Node.id).mem_iff.mp hmem)
    rw [hh.lookup_eq_none he, hg.lookup_eq_none he']
    rfl
  | append_singleton before node ih =>
    rw [List.append_assoc, List.singleton_append] at hsplit
    by_cases hnode : e.node = node.id
    · obtain ⟨_, _, block, hblock, hblock', -, -⟩ :=
        hreordered.exists_sections hcatalog hg hh hperm hσ hsplit fun _ => ih hsplit
      obtain ⟨_, port⟩ := e
      obtain rfl := hnode
      rw [hblock'.lookup_eq, hblock.lookup_eq, Block.rename, ← List.map_reverse, lookup_map_snd]
    · refine ih hsplit ?_
      rw [List.map_cons, List.mem_cons, not_or]
      exact ⟨hnode, he⟩

/-- Every output is bound to the renamed phrase. -/
theorem lookup_rename (e : Endpoint) :
    generation'.references.lookup e =
      (generation.references.lookup e).map (Phrase.rename σ) :=
  hreordered.lookup_rename_of_not_mem hcatalog hg hh hperm hσ (List.append_nil others).symm
    (by simp)

/-- The sections are the renamed ones in another order. -/
theorem sections_rename :
    (Generation.start.sections h catalog others).Perm
      ((Generation.start.sections g catalog nodes).map fun (node, lines) =>
        (node, lines.map (renameLine σ))) := by
  have hids := Generation.map_fst_sections hg.addAll_eq
  have hids' := Generation.map_fst_sections hh.addAll_eq
  have hdistinct : ((Generation.start.sections g catalog nodes).map Prod.fst).Nodup :=
    hids ▸ hg.distinct
  -- There are as many sections on either side, so it is enough that each renamed one is there.
  apply List.Perm.symm
  refine List.Subperm.perm_of_length_le (List.Nodup.subperm (.of_map Prod.fst ?_) ?_) ?_
  · rw [List.map_map]
    exact hdistinct
  · intro entry hentry
    obtain ⟨⟨id, lines⟩, hlines, rfl⟩ := List.mem_map.mp hentry
    have hid : id ∈ nodes.map Node.id := hids ▸ List.mem_map_of_mem hlines
    obtain ⟨node, hnode, rfl⟩ := List.mem_map.mp hid
    obtain ⟨before, rest, hsplit⟩ := List.append_of_mem (hperm.mem_iff.mp hnode)
    obtain ⟨_, _, block, -, -, hsection, hsection'⟩ :=
      hreordered.exists_sections hcatalog hg hh hperm hσ hsplit
        fun e _ => hreordered.lookup_rename hcatalog hg hh hperm hσ e
    have hsame := List.inj_on_of_nodup_map hdistinct hlines hsection rfl
    rw [(Prod.mk.inj hsame).2]
    exact hsection'
  · have hlength := congrArg List.length hids
    have hlength' := congrArg List.length hids'
    rw [List.length_map, List.length_map] at hlength hlength'
    rw [List.length_map, hlength, hlength', hperm.length_eq]

/-- The assignments are the renamed ones. -/
theorem assignmentLines_rename (output : Node) :
    h.assignmentLines catalog generation'.references output =
      (g.assignmentLines catalog generation.references output).map (renameLine σ) := by
  have hsound := Generation.sound_start.addAll hcatalog hg.addAll_eq
  have hinputs : Inputs.ofNode h generation'.references output.id = fun type =>
      (Inputs.ofNode g generation.references output.id type).rename σ :=
    hreordered.inputs_rename fun c _ _ =>
      hreordered.lookup_rename hcatalog hg hh hperm hσ c.source
  have hphrases := MaterialField.assignments_rename hinputs (catalog.find? output.kind)
  rw [assignmentLines, assignmentLines, hphrases, List.map_map, List.map_map]
  apply List.map_congr_left
  intro p hp
  have hrender := (MaterialField.sound_of_mem_assignments hsound.references g output.id _
    hp).render_rename σ
  rw [Function.comp_apply, Function.comp_apply, renameLine, String.toList_ofList, hrender]

omit hσ in
/-- The parts are the renamed ones. -/
theorem renames (output : Node) :
    ShaderParts.Renames (variableRenaming catalog hperm hg.distinct)
      ⟨Generation.start.sections g catalog nodes,
        g.assignmentLines catalog generation.references output⟩
      ⟨Generation.start.sections h catalog others,
        h.assignmentLines catalog generation'.references output⟩ := by
  have hcarried := carriesVariables_variableRenaming catalog hperm hg.distinct
  refine ⟨hreordered.sections_rename hcatalog hg hh hperm hcarried,
    hreordered.assignmentLines_rename hcatalog hg hh hperm hcarried output, ?_, ?_⟩
  · intro index
    have hlines : generation.lines = _ := Generation.lines_addAll hg.addAll_eq
    have hlines' : generation'.lines = _ := Generation.lines_addAll hh.addAll_eq
    have hiff := (hh.variableName_mem_iff hcatalog _).trans
      ((variableRenaming_lt_iff catalog hperm hg.distinct index).trans
        (hg.variableName_mem_iff hcatalog index).symm)
    rwa [hlines, hlines'] at hiff
  · rw [Generation.map_fst_sections hg.addAll_eq]
    exact hg.distinct

end Run

end Graph.Reordered

/-- Listing a graph in another order only renames the variables of its shader: if the first output
node and the first connection to every input stay the same, the graph still has a shader, and one
renaming of variables leads from the section of each node to its section there, and from the
assignments to those there. -/
theorem Graph.compile_reordered {g h : Graph} (hreordered : g.Reordered h) {text : String}
    (hcompile : g.compile Catalog.standard = .ok text) :
    ∃ (p q : ShaderParts) (σ : Equiv.Perm Nat),
      g.parts Catalog.standard = .ok p ∧ text = p.text ∧
        h.parts Catalog.standard = .ok q ∧ h.compile Catalog.standard = .ok q.text ∧
        p.Renames σ q := by
  obtain ⟨p, hparts, rfl⟩ := compile_eq_ok_iff_parts.mp hcompile
  obtain ⟨output, order, generation, houtput, horder, hall, rfl⟩ := parts_eq_ok_iff.mp hparts
  obtain ⟨order', horder'⟩ := hreordered.exists_order? horder
  have hperm := hreordered.emitted_perm horder horder' output.id
  obtain ⟨generation', hall'⟩ := Generation.exists_addAll_of_perm (h := h) hall hperm
  have hparts' : h.parts Catalog.standard = .ok _ := parts_eq_ok_iff.mpr
    ⟨output, order', generation', hreordered.outputNode?.trans houtput, horder', hall', rfl⟩
  exact ⟨_, _, _, hparts, rfl, hparts', compile_eq_ok_iff_parts.mpr ⟨_, hparts', rfl⟩,
    hreordered.renames Catalog.plain_standard (generates_emitted horder hall)
      (generates_emitted horder' hall') hperm output⟩

namespace Graph

/-- The sum of the sine and the cosine of the time, as the metallic field. The sine alone is
connected to this field too, but later. -/
def sumOfWaves : Graph where
  id := numbered 0
  name := untitled
  nodes := .ofList
    [.ofKind (numbered 1) "time", .ofKind (numbered 2) "sin", .ofKind (numbered 3) "cos",
      .ofKind (numbered 4) "add", .ofKind (numbered 5) "pbr_output"]
  connections := .ofList
    [⟨numbered 10, ⟨numbered 1, "time"⟩, ⟨numbered 2, "angle"⟩⟩,
      ⟨numbered 11, ⟨numbered 1, "time"⟩, ⟨numbered 3, "angle"⟩⟩,
      ⟨numbered 12, ⟨numbered 2, "result"⟩, ⟨numbered 4, "a"⟩⟩,
      ⟨numbered 13, ⟨numbered 3, "result"⟩, ⟨numbered 4, "b"⟩⟩,
      ⟨numbered 14, ⟨numbered 4, "result"⟩, ⟨numbered 5, "metallic"⟩⟩,
      ⟨numbered 15, ⟨numbered 2, "result"⟩, ⟨numbered 5, "metallic"⟩⟩]

/-- The same graph, listed from its end but for the two connections to the metallic field. -/
def wavesBackwards : Graph where
  id := numbered 0
  name := untitled
  nodes := .ofList
    [.ofKind (numbered 5) "pbr_output", .ofKind (numbered 4) "add", .ofKind (numbered 3) "cos",
      .ofKind (numbered 2) "sin", .ofKind (numbered 1) "time"]
  connections := .ofList
    [⟨numbered 14, ⟨numbered 4, "result"⟩, ⟨numbered 5, "metallic"⟩⟩,
      ⟨numbered 15, ⟨numbered 2, "result"⟩, ⟨numbered 5, "metallic"⟩⟩,
      ⟨numbered 13, ⟨numbered 3, "result"⟩, ⟨numbered 4, "b"⟩⟩,
      ⟨numbered 12, ⟨numbered 2, "result"⟩, ⟨numbered 4, "a"⟩⟩,
      ⟨numbered 11, ⟨numbered 1, "time"⟩, ⟨numbered 3, "angle"⟩⟩,
      ⟨numbered 10, ⟨numbered 1, "time"⟩, ⟨numbered 2, "angle"⟩⟩]

/-- Listed backwards, the sine and the cosine change places and variables. -/
theorem compile_reordered_wavesBackwards :
    sumOfWaves.Reordered wavesBackwards ∧ ∃ (p q : ShaderParts) (σ : Equiv.Perm Nat),
      sumOfWaves.parts Catalog.standard = .ok p ∧ wavesBackwards.parts Catalog.standard = .ok q ∧
        p.lines = ["let var0: f32 = sin(globals.time);", "let var1: f32 = cos(globals.time);",
          "let var2 = var0 + var1;"] ∧
        q.lines = ["let var0: f32 = cos(globals.time);", "let var1: f32 = sin(globals.time);",
          "let var2 = var1 + var0;"] ∧
        p.Renames σ q := by
  have hreordered : sumOfWaves.Reordered wavesBackwards := by decide +kernel
  obtain ⟨text, htext⟩ := exists_eq_ok_of_isOk (x := sumOfWaves.compile Catalog.standard)
    (by decide +kernel)
  obtain ⟨p, q, σ, hp, -, hq, -, hrenames⟩ := compile_reordered hreordered htext
  have hlines : (sumOfWaves.parts Catalog.standard).map ShaderParts.lines =
      .ok ["let var0: f32 = sin(globals.time);", "let var1: f32 = cos(globals.time);",
        "let var2 = var0 + var1;"] := by
    decide +kernel
  have hlines' : (wavesBackwards.parts Catalog.standard).map ShaderParts.lines =
      .ok ["let var0: f32 = cos(globals.time);", "let var1: f32 = sin(globals.time);",
        "let var2 = var1 + var0;"] := by
    decide +kernel
  rw [hp] at hlines
  rw [hq] at hlines'
  exact ⟨hreordered, p, q, σ, hp, hq, Except.ok.inj hlines, Except.ok.inj hlines', hrenames⟩

end Graph

end MaterialGraph
