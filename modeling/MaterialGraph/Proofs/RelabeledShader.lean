import MaterialGraph.Catalog.Standard
import MaterialGraph.Proofs.Outcome
import MaterialGraph.Proofs.RelabeledOrder

/-!
# The shader of a relabeled graph

A shader does not show the identities in its graph, nor what is there for an editor only. The graph
and its relabeled copy are compiled side by side: nodes are taken in the same order, every input
stands for the same phrase, and every node has the same block or the same error. Catalogs may differ
in the texts that they show, in the order of their types, and in all types of kinds that the graph
does not have.
-/

namespace MaterialGraph

/-- Two catalogs say the same about the kinds that a graph has, but for texts that are shown. -/
def Graph.SeesAlike (g : Graph) (catalog other : Catalog) : Prop :=
  ∀ node ∈ g.nodes.items,
    (other.find? node.kind).map NodeType.bare = (catalog.find? node.kind).map NodeType.bare

/-- Outcomes that correspond: results that do, or the same error under other identities. -/
inductive OutcomeRelabeled {α β : Type} (f : NodeId → NodeId) (R : α → β → Prop) :
    Except CompileError α → Except CompileError β → Prop where
  | error (e : CompileError) : OutcomeRelabeled f R (.error e) (.error (e.relabel f))
  | ok {a : α} {b : β} (related : R a b) : OutcomeRelabeled f R (.ok a) (.ok b)

/-- What corresponds to an error is this error under the other identities. -/
theorem OutcomeRelabeled.eq_error {α β : Type} {f : NodeId → NodeId} {R : α → β → Prop}
    {e : CompileError} {y : Except CompileError β} (h : OutcomeRelabeled f R (.error e) y) :
    y = .error (e.relabel f) := by
  cases h
  rfl

/-- What corresponds to a result is a result. -/
theorem OutcomeRelabeled.exists_eq_ok {α β : Type} {f : NodeId → NodeId} {R : α → β → Prop}
    {a : α} {y : Except CompileError β} (h : OutcomeRelabeled f R (.ok a) y) :
    ∃ b, y = .ok b ∧ R a b := by
  cases h with
  | ok related => exact ⟨_, rfl, related⟩

/-- The same statements, and the same phrases of outputs under other identities. -/
structure Generation.Relabeled (f : NodeId → NodeId) (g : Graph) (s t : Generation) : Prop where
  statements : t.statements = s.statements
  references : ∀ e : Endpoint, g.Mentions e.node →
    t.references.lookup (e.relabel f) = s.references.lookup e

/-- At the start nothing is generated in either graph. -/
theorem Generation.relabeled_start (f : NodeId → NodeId) (g : Graph) :
    Generation.start.Relabeled f g Generation.start where
  statements := rfl
  references _ _ := rfl

namespace Graph.Relabeled

variable {f : NodeId → NodeId} {g h : Graph} (hrel : g.Relabeled f h)

include hrel

/-! ### What inputs stand for -/

/-- An input stands for the same phrase under the other identity of its node. -/
theorem resolve_eq {references others : References}
    (hbound : ∀ e : Endpoint, g.Mentions e.node →
      others.lookup (e.relabel f) = references.lookup e)
    {node : NodeId} (hnode : g.Mentions node) (port : Port) :
    h.resolve others (f node) port = g.resolve references node port := by
  have hfirst : Option.Rel (Connection.Relabeled f) (g.connectionTo? ⟨node, port.id⟩)
      (h.connectionTo? ⟨f node, port.id⟩) := hrel.connectionTo?_rel hnode
  unfold resolve
  cases hc : g.connectionTo? ⟨node, port.id⟩ with
  | none =>
    rw [hc] at hfirst
    rw [eq_none_of_rel_none hfirst]
  | some c =>
    rw [hc] at hfirst
    obtain ⟨d, hd, hcd⟩ := exists_of_rel_some hfirst
    have hsource := hbound c.source (mentions_source (List.mem_of_find?_eq_some hc))
    simp only [hd, hcd.source, hsource]

/-- The inputs of a node stand for the same phrases under its other identity. -/
theorem inputs_eq {references others : References}
    (hbound : ∀ e : Endpoint, g.Mentions e.node →
      others.lookup (e.relabel f) = references.lookup e)
    {node : NodeId} (hnode : g.Mentions node) :
    Inputs.ofNode h others (f node) = Inputs.ofNode g references node := by
  funext type
  rw [Inputs.ofNode, Inputs.ofNode]
  apply List.map_congr_left
  intro port _
  rw [hrel.resolve_eq hbound hnode port]

/-! ### The run -/

section Run

variable {catalog other : Catalog} (hcatalog : g.SeesAlike catalog other)

include hcatalog

/-- Corresponding nodes contribute the same block, or have the same error under the other identity. -/
theorem contribution_eq {s t : Generation} (hst : s.Relabeled f g t) {n m : Node}
    (hn : n ∈ g.nodes.items) (hnm : n.Relabeled f m) (start : Nat) :
    m.contribution other (Inputs.ofNode h t.references m.id) start =
      (n.contribution catalog (Inputs.ofNode g s.references n.id) start).mapError
        (CompileError.relabel f) := by
  rw [Node.contribution_eq_bare, Node.contribution_eq_bare, hnm.kind?_eq, hnm.kind, hnm.id,
    hcatalog n hn, hrel.inputs_eq hst.references (mentions_of_mem hn)]
  cases hkind : n.kind? with
  | none => rfl
  | some kind =>
    cases (catalog.find? n.kind).map NodeType.bare with
    | none => rfl
    | some type => exact hnm.block_eq hkind type _ start

/-- Adding corresponding nodes gives corresponding outcomes. -/
theorem add_rel {s t : Generation} (hst : s.Relabeled f g t) {n m : Node}
    (hn : n ∈ g.nodes.items) (hnm : n.Relabeled f m) :
    OutcomeRelabeled f (Generation.Relabeled f g) (s.add g catalog n) (t.add h other m) := by
  rw [Generation.add, Generation.add, hrel.contribution_eq hcatalog hst hn hnm, hst.statements]
  cases n.contribution catalog (Inputs.ofNode g s.references n.id)
      (Statement.declared s.statements) with
  | error e => exact .error e
  | ok block =>
    refine .ok ⟨rfl, fun e he => ?_⟩
    rw [hnm.id]
    by_cases hnode : e.node = n.id
    · obtain ⟨_, port⟩ := e
      obtain rfl : _ = n.id := hnode
      have hold := hst.references ⟨n.id, port⟩ he
      rw [References.lookup_bind_self, ← hold]
      exact References.lookup_bind_self t.references (f n.id) block.bindings port
    · have hnode' : (e.relabel f).node ≠ f n.id := fun heq =>
        hnode ((hrel.eq_iff he (mentions_of_mem hn)).mp heq)
      rw [References.lookup_bind_of_ne _ _ hnode, References.lookup_bind_of_ne _ _ hnode',
        hst.references e he]

/-- Adding corresponding nodes one after the other gives corresponding outcomes. -/
theorem addAll_rel {s t : Generation} (hst : s.Relabeled f g t) {ns ms : List Node}
    (hns : ∀ n ∈ ns, n ∈ g.nodes.items) (hnodes : List.Forall₂ (Node.Relabeled f) ns ms) :
    OutcomeRelabeled f (Generation.Relabeled f g) (s.addAll g catalog ns)
      (t.addAll h other ms) := by
  induction hnodes generalizing s t with
  | nil => exact .ok hst
  | @cons n m ns ms hnm _ ih =>
    have hadd := hrel.add_rel hcatalog hst (hns n List.mem_cons_self) hnm
    rw [Generation.addAll, Generation.addAll]
    cases hs : s.add g catalog n with
    | error e =>
      rw [hs] at hadd
      rw [hadd.eq_error]
      exact .error e
    | ok next =>
      rw [hs] at hadd
      obtain ⟨next', ht, hnext⟩ := hadd.exists_eq_ok
      rw [ht]
      exact ih hnext fun n hn => hns n (List.mem_cons_of_mem _ hn)

/-- The assignments of corresponding output nodes are the same. -/
theorem assignmentLines_eq {s t : Generation} (hst : s.Relabeled f g t) {n m : Node}
    (hn : n ∈ g.nodes.items) (hnm : n.Relabeled f m) :
    h.assignmentLines other t.references m = g.assignmentLines catalog s.references n := by
  unfold assignmentLines
  rw [← MaterialField.assignments_bare, ← MaterialField.assignments_bare g, hnm.kind,
    hcatalog n hn, hnm.id]
  cases (catalog.find? n.kind).map NodeType.bare with
  | none => rfl
  | some type =>
    simp only [MaterialField.assignments, hrel.inputs_eq hst.references (mentions_of_mem hn)]

omit hcatalog in
/-- The nodes that are added correspond. -/
theorem emitted_rel {output : NodeId} (houtput : g.Mentions output) {ids : List NodeId}
    (hids : ∀ id ∈ ids, id ∈ g.nodes.keys) :
    List.Forall₂ (Node.Relabeled f) (g.emitted output ids)
      (h.emitted (f output) (ids.map f)) := by
  unfold emitted
  induction ids with
  | nil => exact .nil
  | cons id rest ih =>
    have hid : g.Mentions id := Or.inl (hids id List.mem_cons_self)
    have hrest := ih fun other hother => hids other (List.mem_cons_of_mem _ hother)
    have hsame : (f id != f output) = (id != output) := by
      rw [Bool.eq_iff_iff, bne_iff_ne, bne_iff_ne]
      exact (hrel.eq_iff hid houtput).not
    rw [List.map_cons, List.filter_cons, List.filter_cons, hsame]
    split
    · obtain ⟨n, hn⟩ : ∃ n, g.node? id = some n := Option.isSome_iff_exists.mp
        ((g.nodes.contains_iff_mem_keys id).mpr (hids id List.mem_cons_self))
      have hfound := hrel.node?_rel hid
      rw [hn] at hfound
      obtain ⟨m, hm, hnm⟩ := exists_of_rel_some hfound
      rw [List.filterMap_cons_some hn, List.filterMap_cons_some hm]
      exact .cons hnm hrest
    · exact hrest

/-- Compiling corresponding graphs gives corresponding outcomes. -/
theorem compile_rel : OutcomeRelabeled f Eq (g.compile catalog) (h.compile other) := by
  have houtput := hrel.outputNode?_rel
  unfold compile
  cases hn : g.outputNode? with
  | none =>
    rw [hn] at houtput
    rw [eq_none_of_rel_none houtput]
    exact .error .noOutputNode
  | some n =>
    rw [hn] at houtput
    obtain ⟨m, hm, hnm⟩ := exists_of_rel_some houtput
    have hmem : n ∈ g.nodes.items := List.mem_of_find?_eq_some hn
    simp only [hm, hrel.order?_eq]
    cases horder : g.order? with
    | none => exact .error .cyclicDependency
    | some order =>
      have hids : ∀ id ∈ order, id ∈ g.nodes.keys := fun id hid =>
        ((g.order?_eq_some_iff order).mp horder).2.mem_iff.mp hid
      have hadded := hrel.addAll_rel hcatalog (Generation.relabeled_start f g)
        (fun node hnode => ((mem_emitted_iff horder).mp hnode).1)
        (hrel.emitted_rel (mentions_of_mem hmem) hids)
      simp only [Option.map_some, hnm.id]
      cases hs : Generation.start.addAll g catalog (g.emitted n.id order) with
      | error e =>
        rw [hs] at hadded
        rw [hadded.eq_error]
        exact .error e
      | ok s =>
        rw [hs] at hadded
        obtain ⟨t, ht, hst⟩ := hadded.exists_eq_ok
        rw [ht]
        refine .ok ?_
        rw [hrel.assignmentLines_eq hcatalog hst hmem hnm, Generation.lines, Generation.lines,
          hst.statements]

end Run

end Graph.Relabeled

/-- A graph compiles to the same shader, or fails with the same error under the other identities,
when its nodes get other identities, when anything changes that only an editor shows, and with a
catalog that presents the kinds of the graph in another way. -/
theorem Graph.compile_relabeled {f : NodeId → NodeId} {g h : Graph} {catalog other : Catalog}
    (hgraph : g.Relabeled f h) (hcatalog : g.SeesAlike catalog other) :
    h.compile other = (g.compile catalog).mapError (CompileError.relabel f) := by
  have houtcome := hgraph.compile_rel hcatalog
  cases hg : g.compile catalog with
  | error e =>
    rw [hg] at houtcome
    exact houtcome.eq_error
  | ok text =>
    rw [hg] at houtcome
    obtain ⟨_, hh, rfl⟩ := houtcome.exists_eq_ok
    exact hh

namespace Graph

/-- An identity a hundred numbers further on. -/
def shifted (id : NodeId) : NodeId :=
  ⟨id.bits + 100⟩

/-- The sum of the time under other identities, that of the missing node included, with another name
and place, and with a texture at the sum, which does not read it. -/
def sumElsewhere : Graph where
  id := numbered 50
  name := "elsewhere"
  nodes := .ofList
    [.ofKind (numbered 103) "pbr_output",
      ⟨numbered 102, "add", ⟨.one, .zero⟩, .texture (some "wood")⟩,
      .ofKind (numbered 101) "time"]
  connections := .ofList
    [⟨numbered 14, ⟨numbered 109, "result"⟩, ⟨numbered 102, "a"⟩⟩,
      ⟨numbered 13, ⟨numbered 101, "time"⟩, ⟨numbered 102, "b"⟩⟩,
      ⟨numbered 12, ⟨numbered 101, "time"⟩, ⟨numbered 102, "a"⟩⟩,
      ⟨numbered 11, ⟨numbered 102, "result"⟩, ⟨numbered 103, "metallic"⟩⟩,
      ⟨numbered 10, ⟨numbered 102, "result"⟩, ⟨numbered 109, "a"⟩⟩]

/-- The standard types without their texts and without noise, from the last to the first. -/
def untitledCatalog : Catalog :=
  .ofList ((Catalog.standardTypes.reverse.filter (·.id != "noise")).map NodeType.bare)

/-- The sum of the time has the same shader elsewhere. -/
theorem compile_relabeled_sumElsewhere :
    sumOfTime.Relabeled shifted sumElsewhere ∧
      sumOfTime.SeesAlike Catalog.standard untitledCatalog ∧
      untitledCatalog.keys ≠ Catalog.standard.keys ∧
      ∃ text, sumOfTime.compile Catalog.standard = .ok text ∧
        sumElsewhere.compile untitledCatalog = .ok text := by
  have hsum : (⟨numbered 2, "add", .origin, .none⟩ : Node).Relabeled shifted
      ⟨numbered 102, "add", ⟨.one, .zero⟩, .texture (some "wood")⟩ := by
    refine ⟨by decide, rfl, fun kind hkind hread => ?_⟩
    have hadd : (⟨numbered 2, "add", .origin, .none⟩ : Node).kind? = some .add := by
      decide +kernel
    rw [hadd] at hkind
    cases hkind
    cases hread
  have hgraph : sumOfTime.Relabeled shifted sumElsewhere :=
    { injective := fun a _ b _ hab => by
        have hbits : a.bits + 100 = b.bits + 100 := congrArg Uuid.bits hab
        exact congrArg Uuid.mk ((BitVec.add_left_inj 100).mp hbits)
      nodes := .cons ⟨by decide, rfl, fun _ _ _ => rfl⟩
        (.cons hsum (.cons ⟨by decide, rfl, fun _ _ _ => rfl⟩ .nil))
      connections := .cons ⟨by decide, by decide⟩ (.cons ⟨by decide, by decide⟩
        (.cons ⟨by decide, by decide⟩ (.cons ⟨by decide, by decide⟩
          (.cons ⟨by decide, by decide⟩ .nil)))) }
  have hcatalog : sumOfTime.SeesAlike Catalog.standard untitledCatalog := by
    unfold SeesAlike
    decide +kernel
  obtain ⟨text, htext⟩ := exists_eq_ok_of_isOk (x := sumOfTime.compile Catalog.standard)
    (by decide +kernel)
  refine ⟨hgraph, hcatalog, by decide +kernel, text, htext, ?_⟩
  rw [compile_relabeled hgraph hcatalog, htext]
  rfl

end Graph

end MaterialGraph
