import Mathlib.Data.List.Forall2
import MaterialGraph.Catalog.Standard
import MaterialGraph.Proofs.Generation

/-!
# What inputs stand for in the end

An input stands for the phrase of the output at the far end of its first connection. It stands for
its default if that output has no phrase, or if there is no connection.

The shader is generated in one pass, and an input is looked up when its node is taken. Because a
node is taken after all that feed it, and because only a node itself binds its outputs, the pass
gives the blocks that the rules prescribe for the references at its end. The statements are the
blocks one after the other, numbered consecutively.
-/

namespace MaterialGraph

/-! ### What an input stands for -/

namespace Graph

/-- A connection is the first one that ends at an input. -/
def FirstTo (g : Graph) (target : Endpoint) (c : Connection) : Prop :=
  ∃ before after, g.connections.items = before ++ c :: after ∧ c.target = target ∧
    ∀ d ∈ before, d.target ≠ target

/-- Some connection ends at an input. -/
def Fed (g : Graph) (target : Endpoint) : Prop :=
  ∃ c ∈ g.connections.items, c.target = target

instance (g : Graph) (target : Endpoint) : Decidable (g.Fed target) :=
  inferInstanceAs (Decidable (∃ c ∈ g.connections.items, c.target = target))

/-- What an input with a default literal stands for under given references. -/
inductive StandsFor (g : Graph) (references : References) (target : Endpoint) (default : String) :
    String → Prop where
  | bound {c : Connection} {phrase : Phrase} (hc : g.FirstTo target c)
      (h : references.lookup c.source = some phrase) :
      StandsFor g references target default (String.ofList phrase.render)
  | unbound {c : Connection} (hc : g.FirstTo target c) (h : references.lookup c.source = none) :
      StandsFor g references target default default
  | unfed (h : ¬ g.Fed target) : StandsFor g references target default default

/-- Inputs are those that a type declares, in the order of the declaration. Each stands for what
references say, and counts as connected exactly if some connection ends at it. -/
def Supplied (g : Graph) (references : References) (node : NodeId) (type : NodeType)
    (inputs : Inputs) : Prop :=
  List.Forall₂ (fun port input =>
      input.1 = port.id ∧
        g.StandsFor references ⟨node, port.id⟩ port.defaultLiteral
          (String.ofList input.2.phrase.render) ∧
        (input.2.connected = true ↔ g.Fed ⟨node, port.id⟩))
    type.inputs inputs

/-- The connection that is found is the first one. -/
theorem connectionTo?_eq_some_iff {g : Graph} {target : Endpoint} {c : Connection} :
    g.connectionTo? target = some c ↔ g.FirstTo target c := by
  rw [connectionTo?, List.find?_eq_some_iff_append]
  constructor
  · rintro ⟨htarget, before, after, hsplit, hbefore⟩
    exact ⟨before, after, hsplit, by simpa using htarget, by simpa using hbefore⟩
  · rintro ⟨before, after, hsplit, htarget, hbefore⟩
    exact ⟨by simpa using htarget, before, after, hsplit, by simpa using hbefore⟩

/-- No connection is found exactly if none ends at the input. -/
theorem connectionTo?_eq_none_iff {g : Graph} {target : Endpoint} :
    g.connectionTo? target = none ↔ ¬ g.Fed target := by
  simp [connectionTo?, Fed]

section Inputs

variable (g : Graph) (references : References) (node : NodeId)

/-- The text to which an input is resolved is what it stands for. -/
theorem standsFor_resolve (p : Port) :
    g.StandsFor references ⟨node, p.id⟩ p.defaultLiteral
      (String.ofList (g.resolve references node p).phrase.render) := by
  have hdefault : String.ofList (Phrase.render [.text p.defaultLiteral]) = p.defaultLiteral := by
    simp [Phrase.render, Phrase.fragmentText]
  unfold resolve
  cases hfirst : g.connectionTo? ⟨node, p.id⟩ with
  | none =>
    rw [hdefault]
    exact .unfed (connectionTo?_eq_none_iff.mp hfirst)
  | some c =>
    have hc := connectionTo?_eq_some_iff.mp hfirst
    cases hlookup : references.lookup c.source with
    | none =>
      simp only [hlookup, Option.getD_none, hdefault]
      exact .unbound hc hlookup
    | some phrase =>
      simp only [hlookup, Option.getD_some]
      exact .bound hc hlookup

/-- An input counts as connected exactly if some connection ends at it. -/
theorem connected_resolve (p : Port) :
    (g.resolve references node p).connected = true ↔ g.Fed ⟨node, p.id⟩ := by
  unfold resolve
  cases hfirst : g.connectionTo? ⟨node, p.id⟩ with
  | none => simpa using connectionTo?_eq_none_iff.mp hfirst
  | some c =>
    obtain ⟨before, after, hsplit, htarget, -⟩ := connectionTo?_eq_some_iff.mp hfirst
    have hfed : g.Fed ⟨node, p.id⟩ := ⟨c, by simp [hsplit], htarget⟩
    simpa using hfed

/-- The inputs of a node are given what they stand for. -/
theorem supplied_ofNode (type : NodeType) :
    g.Supplied references node type (Inputs.ofNode g references node type) := by
  rw [Supplied, Inputs.ofNode, List.forall₂_map_right_iff, List.forall₂_same]
  intro port _
  exact ⟨rfl, g.standsFor_resolve references node port, g.connected_resolve references node port⟩

end Inputs

end Graph

/-! ### Blocks -/

/-- The lines of blocks one after the other, each numbered from where those before it end. -/
def Block.linesFrom : Nat → List Block → List String
  | _, [] => []
  | start, block :: rest =>
    Statement.renderAll start block.statements ++
      linesFrom (start + Statement.declared block.statements) rest

/-- The lines of blocks are those of all their statements. -/
theorem Block.linesFrom_eq (start : Nat) (blocks : List Block) :
    Block.linesFrom start blocks = Statement.renderAll start (blocks.flatMap Block.statements) := by
  induction blocks generalizing start with
  | nil => rfl
  | cons block rest ih =>
    rw [Block.linesFrom, ih, List.flatMap_cons, Statement.renderAll_append]

namespace Graph

/-- The blocks that nodes contribute one after the other, each numbered from where those before it
end, when every input stands for what given references say. -/
def blocksAgainst (g : Graph) (catalog : Catalog) (references : References) :
    Nat → List Node → Except CompileError (List Block)
  | _, [] => .ok []
  | start, node :: rest => do
    let block ← node.contribution catalog (Inputs.ofNode g references node.id) start
    let blocks ← blocksAgainst g catalog references
      (start + Statement.declared block.statements) rest
    return block :: blocks

/-- No connection leads to a node from itself or from one that stands after it. -/
def Sequenced (g : Graph) (nodes : List Node) : Prop :=
  ∀ before node after, nodes = before ++ node :: after →
    ∀ c ∈ g.connections.items, c.target.node = node.id →
      c.source.node ∉ (node :: after).map Node.id

/-- The rest of a sequence in which no node is fed by a later one is such a sequence. -/
theorem Sequenced.tail {g : Graph} {node : Node} {rest : List Node}
    (h : g.Sequenced (node :: rest)) : g.Sequenced rest := by
  intro before other after hsplit
  exact h (node :: before) other after (by rw [hsplit, List.cons_append])

/-- The nodes that are added to a shader are not fed by later ones. -/
theorem sequenced_emitted {g : Graph} {order : List NodeId} (h : g.order? = some order)
    (output : NodeId) : g.Sequenced (g.emitted output order) := by
  intro before node after hsplit c hc htarget hsource
  have hids : order.filter (· != output) =
      before.map Node.id ++ node.id :: after.map Node.id := by
    rw [← map_id_emitted h output, hsplit, List.map_append, List.map_cons]
  have hkeys : ∀ id ∈ order.filter (· != output), id ∈ g.nodes.keys := fun id hid =>
    ((g.order?_eq_some_iff order).mp h).2.mem_iff.mp (List.mem_of_mem_filter hid)
  have hfeeds : g.Feeds c.source.node node.id := by
    refine ⟨hkeys _ ?_, hkeys _ ?_, c, hc, rfl, htarget⟩
    · rw [hids]
      exact List.mem_append_right _ hsource
    · rw [hids]
      exact List.mem_append_right _ List.mem_cons_self
  have hpairwise := (pairwise_not_feeds h).filter (· != output)
  rw [hids, List.pairwise_append, List.pairwise_cons] at hpairwise
  rcases List.mem_cons.mp hsource with hself | hlater
  · rw [hself] at hfeeds
    exact Nat.lt_irrefl _ (idxOf_lt_of_feeds h hfeeds)
  · exact hpairwise.2.1.1 _ hlater hfeeds

/-- An input stands for the same while what feeds it is bound to the same. -/
theorem resolve_congr {g : Graph} {references others : References} {node : NodeId} {port : Port}
    (h : ∀ c ∈ g.connections.items, c.target.node = node →
      references.lookup c.source = others.lookup c.source) :
    g.resolve references node port = g.resolve others node port := by
  unfold resolve
  cases hfirst : g.connectionTo? ⟨node, port.id⟩ with
  | none => rfl
  | some c =>
    have htarget : c.target = ⟨node, port.id⟩ := by simpa using List.find?_some hfirst
    have hlookup := h c (List.mem_of_find?_eq_some hfirst) (congrArg Endpoint.node htarget)
    simp only [hlookup]

/-- An input stands for the same before and after nodes are added that do not feed it. -/
theorem resolve_addAll {g : Graph} {catalog : Catalog} {generation final : Generation}
    {nodes : List Node} {node : NodeId} (h : generation.addAll g catalog nodes = .ok final)
    (hsource : ∀ c ∈ g.connections.items, c.target.node = node →
      c.source.node ∉ nodes.map Node.id) (port : Port) :
    g.resolve generation.references node port = g.resolve final.references node port := by
  apply resolve_congr
  intro c hc htarget
  exact (Generation.lookup_addAll_of_not_mem h (hsource c hc htarget)).symm

/-- The inputs of a node stand for the same before and after nodes are added that do not feed it. -/
theorem inputs_addAll {g : Graph} {catalog : Catalog} {generation final : Generation}
    {nodes : List Node} {node : NodeId} (h : generation.addAll g catalog nodes = .ok final)
    (hsource : ∀ c ∈ g.connections.items, c.target.node = node →
      c.source.node ∉ nodes.map Node.id) :
    Inputs.ofNode g generation.references node = Inputs.ofNode g final.references node := by
  funext type
  apply List.map_congr_left
  intro port _
  rw [resolve_addAll h hsource port]

/-- Adding a sequence of nodes appends the blocks that the references at its end prescribe, and
binds the outputs of each node by its block. -/
theorem addAll_blocksAgainst {g : Graph} {catalog : Catalog} {generation final : Generation}
    {nodes : List Node} (h : generation.addAll g catalog nodes = .ok final)
    (hsequenced : g.Sequenced nodes) (hdistinct : (nodes.map Node.id).Nodup)
    (hfresh : ∀ e : Endpoint, e.node ∈ nodes.map Node.id → generation.references.lookup e = none) :
    ∃ blocks,
      g.blocksAgainst catalog final.references (Statement.declared generation.statements) nodes =
          .ok blocks ∧
        final.statements = generation.statements ++ blocks.flatMap Block.statements ∧
        ∀ entry ∈ nodes.zip blocks, ∀ port, final.references.lookup ⟨entry.1.id, port⟩ =
          entry.2.bindings.reverse.lookup port := by
  induction nodes generalizing generation with
  | nil =>
    obtain rfl := Except.ok.inj h
    exact ⟨[], rfl, by simp, by simp⟩
  | cons node rest ih =>
    have hinputs := inputs_addAll h (hsequenced [] node rest rfl)
    obtain ⟨next, hadd, hrest⟩ := Generation.addAll_cons_eq_ok_iff.mp h
    obtain ⟨block, hblock, rfl⟩ := Generation.add_eq_ok_iff.mp hadd
    obtain ⟨hnew, hdistinctRest⟩ := List.nodup_cons.mp hdistinct
    -- The references of the other nodes are still unbound after the first node.
    have hfreshRest : ∀ e : Endpoint, e.node ∈ rest.map Node.id →
        (generation.references.bind node.id block.bindings).lookup e = none := by
      intro e he
      have hother : e.node ≠ node.id := fun heq => hnew (heq ▸ he)
      rw [References.lookup_bind_of_ne _ _ hother]
      exact hfresh e (List.mem_cons_of_mem _ he)
    obtain ⟨blocks, hblocks, hstatements, hbound⟩ :=
      ih hrest hsequenced.tail hdistinctRest hfreshRest
    rw [Statement.declared_append] at hblocks
    refine ⟨block :: blocks, ?_, ?_, ?_⟩
    · rw [hinputs] at hblock
      rw [blocksAgainst, hblock]
      simp only [bind, Except.bind, hblocks]
      rfl
    · rw [hstatements, List.flatMap_cons, List.append_assoc]
    · intro entry hentry port
      rw [List.zip_cons_cons, List.mem_cons] at hentry
      rcases hentry with rfl | hentry
      · rw [Generation.lookup_addAll_of_not_mem hrest hnew, References.lookup_bind_self,
          hfresh ⟨node.id, port⟩ List.mem_cons_self, Option.or_none]
      · exact hbound entry hentry port

/-- What compiling is when it gives a shader. -/
theorem compile_eq_ok_iff {g : Graph} {catalog : Catalog} {text : String} :
    g.compile catalog = .ok text ↔
      ∃ output order generation, g.outputNode? = some output ∧ g.order? = some order ∧
        Generation.start.addAll g catalog (g.emitted output.id order) = .ok generation ∧
        text = Template.assemble generation.lines
          (g.assignmentLines catalog generation.references output) := by
  unfold compile
  cases g.outputNode? with
  | none => simp
  | some output =>
    cases g.order? with
    | none => simp
    | some order =>
      cases hall : Generation.start.addAll g catalog (g.emitted output.id order) with
      | error e => simp [hall]
      | ok generation => simp [hall, eq_comm]

/-- A generation that agrees with its own references at the end: the lines are those of the blocks
that the rules prescribe when every input is given what it stands for under these references, and
the references bind what the blocks bind. -/
structure Settled (g : Graph) (catalog : Catalog) (nodes : List Node) (generation : Generation)
    (blocks : List Block) : Prop where
  blocks_eq : g.blocksAgainst catalog generation.references 0 nodes = .ok blocks
  /-- Each declared input is given the phrase of the output at the far end of its first connection,
  or its default, and counts as connected exactly if there is such a connection. -/
  supplied : ∀ node ∈ nodes, ∀ type, g.Supplied generation.references node.id type
    (Inputs.ofNode g generation.references node.id type)
  lines_eq : generation.lines = Block.linesFrom 0 blocks
  /-- Whatever an input stands for when its node is taken, it stands for in the end. -/
  resolve_eq : ∀ before node after, nodes = before ++ node :: after →
    ∃ current, Generation.start.addAll g catalog before = .ok current ∧
      ∀ port, g.resolve current.references node.id port =
        g.resolve generation.references node.id port
  lookup_eq : ∀ entry ∈ nodes.zip blocks, ∀ port,
    generation.references.lookup ⟨entry.1.id, port⟩ = entry.2.bindings.reverse.lookup port
  lookup_eq_none : ∀ e : Endpoint, e.node ∉ nodes.map Node.id →
    generation.references.lookup e = none
  /-- Nodes without a rule or a type, and output nodes that are not chosen, contribute nothing. -/
  silent : ∀ entry ∈ nodes.zip blocks,
    entry.1.kind? = none ∨ catalog.find? entry.1.kind = none ∨ entry.1.kind? = some .pbrOutput →
      entry.2 = ⟨[], []⟩

/-- Nodes without a rule or a type, and output nodes, contribute nothing. -/
theorem contribution_of_silent {node : Node} {catalog : Catalog} {inputs : NodeType → Inputs}
    {start : Nat}
    (h : node.kind? = none ∨ catalog.find? node.kind = none ∨ node.kind? = some .pbrOutput) :
    node.contribution catalog inputs start = .ok ⟨[], []⟩ := by
  unfold Node.contribution
  split
  · next kind type hkind htype =>
    have houtput : kind = .pbrOutput := by simpa [hkind, htype] using h
    subst houtput
    rfl
  · rfl

/-- Adding such a node changes nothing. -/
theorem add_of_silent {g : Graph} {catalog : Catalog} {node : Node}
    (h : node.kind? = none ∨ catalog.find? node.kind = none ∨ node.kind? = some .pbrOutput)
    (generation : Generation) : generation.add g catalog node = .ok generation := by
  rw [Generation.add_eq_ok_iff]
  refine ⟨⟨[], []⟩, contribution_of_silent h, ?_⟩
  simp [References.bind]

/-- Each block is the contribution of its node. -/
theorem contribution_of_mem_zip {g : Graph} {catalog : Catalog} {references : References}
    {start : Nat} {nodes : List Node} {blocks : List Block}
    (h : g.blocksAgainst catalog references start nodes = .ok blocks) {entry : Node × Block}
    (hentry : entry ∈ nodes.zip blocks) :
    ∃ start, entry.1.contribution catalog (Inputs.ofNode g references entry.1.id) start =
      .ok entry.2 := by
  induction nodes generalizing start blocks with
  | nil => simp at hentry
  | cons node rest ih =>
    rw [blocksAgainst] at h
    cases hblock : node.contribution catalog (Inputs.ofNode g references node.id) start with
    | error e => simp [hblock, bind, Except.bind] at h
    | ok block =>
      cases hrest : g.blocksAgainst catalog references
          (start + Statement.declared block.statements) rest with
      | error e => simp [hblock, hrest, bind, Except.bind] at h
      | ok others =>
        simp only [hblock, hrest, bind, Except.bind, pure, Except.pure, Except.ok.injEq] at h
        subst h
        rw [List.zip_cons_cons, List.mem_cons] at hentry
        rcases hentry with rfl | hentry
        · exact ⟨start, hblock⟩
        · exact ih hrest hentry

/-- What has been generated from an order agrees with its own references at the end. -/
theorem settled_of_addAll {g : Graph} {catalog : Catalog} {order : List NodeId}
    (horder : g.order? = some order) (output : NodeId) {generation : Generation}
    (h : Generation.start.addAll g catalog (g.emitted output order) = .ok generation) :
    ∃ blocks, g.Settled catalog (g.emitted output order) generation blocks := by
  have hsequenced := sequenced_emitted horder output
  obtain ⟨blocks, hblocks, hstatements, hbound⟩ :=
    addAll_blocksAgainst h hsequenced (nodup_emitted horder output) fun _ _ => rfl
  refine ⟨blocks, hblocks, fun node _ => g.supplied_ofNode generation.references node.id, ?_, ?_,
    hbound, ?_, ?_⟩
  · rw [Block.linesFrom_eq, Generation.lines, hstatements]
    rfl
  · intro before node after hsplit
    rw [hsplit] at h
    obtain ⟨current, hbefore, hafter⟩ := Generation.addAll_append_eq_ok_iff.mp h
    exact ⟨current, hbefore, resolve_addAll hafter (hsequenced before node after hsplit)⟩
  · intro e he
    rw [Generation.lookup_addAll_of_not_mem h he]
    rfl
  · intro entry hentry hsilent
    obtain ⟨start, hblock⟩ := contribution_of_mem_zip hblocks hentry
    rw [contribution_of_silent hsilent] at hblock
    exact (Except.ok.inj hblock).symm

/-- Whenever a graph has a shader, its statements are the blocks that the rules prescribe when every
input is given what it stands for under the references at the end of generation: the phrase of the
output at the far end of its first connection, or its default. -/
theorem compile_settled {g : Graph} {catalog : Catalog} {text : String}
    (h : g.compile catalog = .ok text) :
    ∃ output order generation blocks,
      g.outputNode? = some output ∧ g.order? = some order ∧
        (g.emitted output.id order).map Node.id = order.filter (· != output.id) ∧
        Generation.start.addAll g catalog (g.emitted output.id order) = .ok generation ∧
        text = Template.assemble generation.lines
          (g.assignmentLines catalog generation.references output) ∧
        g.Settled catalog (g.emitted output.id order) generation blocks := by
  obtain ⟨output, order, generation, houtput, horder, hall, htext⟩ := compile_eq_ok_iff.mp h
  obtain ⟨blocks, hsettled⟩ := settled_of_addAll horder output.id hall
  exact ⟨output, order, generation, blocks, houtput, horder, map_id_emitted horder output.id, hall,
    htext, hsettled⟩

/-- The sum of the time has a single statement. The first connection to its first input begins at a
node that is not there, so this input is given its default, and its second input is given the
time. -/
theorem compile_settled_sumOfTime :
    ∃ text output generation blocks type, sumOfTime.compile Catalog.standard = .ok text ∧
      sumOfTime.outputNode? = some output ∧ output.id = numbered 3 ∧
        sumOfTime.Settled Catalog.standard
          (sumOfTime.emitted (numbered 3) [numbered 1, numbered 2, numbered 3])
          generation blocks ∧
        generation.lines = ["let var0 = 0.0 + globals.time;"] ∧
        Catalog.standard.find? "add" = some type ∧
        sumOfTime.Supplied generation.references (numbered 2) type
          [("a", ⟨"0.0", true⟩), ("b", ⟨"globals.time", true⟩)] := by
  obtain ⟨text, htext⟩ := exists_eq_ok_of_isOk (x := sumOfTime.compile Catalog.standard)
    (by decide +kernel)
  obtain ⟨output, order, generation, blocks, houtput, horder, -, hall, -, hsettled⟩ :=
    compile_settled htext
  have hfirst : sumOfTime.outputNode? = some (.ofKind (numbered 3) "pbr_output") := by
    decide +kernel
  have hsorted : sumOfTime.order? = some [numbered 1, numbered 2, numbered 3] := by decide +kernel
  obtain rfl := Option.some.inj (houtput.symm.trans hfirst)
  obtain rfl := Option.some.inj (horder.symm.trans hsorted)
  have hid : (Node.ofKind (numbered 3) "pbr_output").id = numbered 3 := rfl
  rw [hid] at hall hsettled
  have hsum : Node.ofKind (numbered 2) "add" ∈
      sumOfTime.emitted (numbered 3) [numbered 1, numbered 2, numbered 3] := by decide +kernel
  have hmade : (Generation.start.addAll sumOfTime Catalog.standard
      (sumOfTime.emitted (numbered 3) [numbered 1, numbered 2, numbered 3])).map
        (fun made => (made.lines, (Catalog.standard.find? "add").map
          (Inputs.ofNode sumOfTime made.references (numbered 2)))) =
      .ok (["let var0 = 0.0 + globals.time;"],
        some [("a", ⟨"0.0", true⟩), ("b", ⟨"globals.time", true⟩)]) := by decide +kernel
  rw [hall] at hmade
  obtain ⟨hlines, hinputs⟩ := Prod.mk.inj (Except.ok.inj hmade)
  obtain ⟨type, htype, hinputs⟩ := Option.map_eq_some_iff.mp hinputs
  exact ⟨text, _, generation, blocks, type, htext, houtput, hid, hsettled, hlines, htype,
    hinputs ▸ hsettled.supplied _ hsum type⟩

end Graph

end MaterialGraph
