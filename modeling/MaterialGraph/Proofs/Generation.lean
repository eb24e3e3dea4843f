import Mathlib.Data.List.Basic
import MaterialGraph.Proofs.Acyclic
import MaterialGraph.Proofs.Failing
import MaterialGraph.Shader.Compile

/-!
# How a shader is generated

Adding a node appends the statements of its block and binds its own outputs. The outputs of other
nodes keep what they were bound to, so a sequence of nodes changes the references of its members
only. The nodes that are added are those of the order without the output node, and none of them is
fed by itself or by one that is added later.
-/

namespace MaterialGraph

namespace References

/-- The bindings of a node come before what was bound earlier, the last of them first. -/
theorem bind_eq (references : References) (node : NodeId) (bindings : List (PortId × Phrase)) :
    references.bind node bindings =
      (bindings.map fun (port, phrase) => ((⟨node, port⟩ : Endpoint), phrase)).reverse ++
        references := by
  unfold bind
  induction bindings generalizing references with
  | nil => rfl
  | cons binding rest ih => simp [ih]

/-- Binding outputs of a node keeps what outputs of other nodes stand for. -/
theorem lookup_bind_of_ne (references : References) {node : NodeId}
    (bindings : List (PortId × Phrase)) {e : Endpoint} (h : e.node ≠ node) :
    (references.bind node bindings).lookup e = references.lookup e := by
  have hnone : ((bindings.map fun (port, phrase) =>
      ((⟨node, port⟩ : Endpoint), phrase)).reverse).lookup e = none := by
    rw [List.lookup_eq_none_iff]
    simp only [List.mem_reverse, List.mem_map]
    rintro _ ⟨⟨port, phrase⟩, -, rfl⟩
    exact bne_iff_ne.mpr fun he => h (congrArg Endpoint.node he)
  rw [bind_eq, List.lookup_append, hnone, Option.none_or]

/-- An output of a node stands for its last binding, if it is bound at all. -/
theorem lookup_bind_self (references : References) (node : NodeId)
    (bindings : List (PortId × Phrase)) (port : PortId) :
    (references.bind node bindings).lookup ⟨node, port⟩ =
      (bindings.reverse.lookup port).or (references.lookup ⟨node, port⟩) := by
  have hmap (entries : List (PortId × Phrase)) :
      (entries.map fun (p, phrase) => ((⟨node, p⟩ : Endpoint), phrase)).lookup ⟨node, port⟩ =
        entries.lookup port := by
    induction entries with
    | nil => rfl
    | cons entry rest ih =>
      have hkey : ((⟨node, port⟩ : Endpoint) == ⟨node, entry.1⟩) = (port == entry.1) := by
        rw [Bool.eq_iff_iff, beq_iff_eq, beq_iff_eq, Endpoint.mk.injEq]
        simp
      obtain ⟨p, phrase⟩ := entry
      simp only [List.map_cons, List.lookup_cons, hkey, ih]
  rw [bind_eq, List.lookup_append, ← List.map_reverse, hmap]

end References

namespace Generation

/-- Adding a node appends its block. -/
theorem add_eq_ok_iff {g : Graph} {catalog : Catalog} {generation next : Generation}
    {node : Node} :
    generation.add g catalog node = .ok next ↔
      ∃ block, node.contribution catalog (Inputs.ofNode g generation.references node.id)
          (Statement.declared generation.statements) = .ok block ∧
        next = ⟨generation.statements ++ block.statements,
          generation.references.bind node.id block.bindings⟩ := by
  unfold add
  cases node.contribution catalog (Inputs.ofNode g generation.references node.id)
      (Statement.declared generation.statements) with
  | error e => simp [Except.map]
  | ok block => simp [Except.map, eq_comm]

/-- Adding nodes starts with the first and goes on with the others. -/
theorem addAll_cons_eq_ok_iff {g : Graph} {catalog : Catalog} {generation final : Generation}
    {node : Node} {rest : List Node} :
    generation.addAll g catalog (node :: rest) = .ok final ↔
      ∃ next, generation.add g catalog node = .ok next ∧
        next.addAll g catalog rest = .ok final := by
  rw [addAll]
  cases generation.add g catalog node with
  | error e => simp
  | ok next => simp

/-- What adding each node keeps, adding all of them keeps. -/
theorem addAll_invariant {P : Generation → Prop} {g : Graph} {catalog : Catalog}
    (hstep : ∀ {generation next : Generation} {node : Node}, P generation →
      generation.add g catalog node = .ok next → P next)
    {generation final : Generation} {nodes : List Node} (h : P generation)
    (hall : generation.addAll g catalog nodes = .ok final) : P final := by
  induction nodes generalizing generation with
  | nil => exact Except.ok.inj hall ▸ h
  | cons node rest ih =>
    obtain ⟨next, hadd, hrest⟩ := addAll_cons_eq_ok_iff.mp hall
    exact ih (hstep h hadd) hrest

/-- Adding two sequences of nodes adds the first and then the second. -/
theorem addAll_append_eq_ok_iff {g : Graph} {catalog : Catalog} {generation final : Generation}
    {before after : List Node} :
    generation.addAll g catalog (before ++ after) = .ok final ↔
      ∃ middle, generation.addAll g catalog before = .ok middle ∧
        middle.addAll g catalog after = .ok final := by
  induction before generalizing generation with
  | nil => simp [addAll]
  | cons node rest ih =>
    simp only [List.cons_append, addAll_cons_eq_ok_iff, ih]
    constructor
    · rintro ⟨next, hadd, middle, hrest, hafter⟩
      exact ⟨middle, ⟨next, hadd, hrest⟩, hafter⟩
    · rintro ⟨middle, ⟨next, hadd, hrest⟩, hafter⟩
      exact ⟨next, hadd, middle, hrest, hafter⟩

/-- Adding nodes keeps what the outputs of all other nodes stand for. -/
theorem lookup_addAll_of_not_mem {g : Graph} {catalog : Catalog} {generation final : Generation}
    {nodes : List Node} (h : generation.addAll g catalog nodes = .ok final) {e : Endpoint}
    (he : e.node ∉ nodes.map Node.id) :
    final.references.lookup e = generation.references.lookup e := by
  induction nodes generalizing generation with
  | nil => rw [← Except.ok.inj h]
  | cons node rest ih =>
    rw [List.map_cons, List.mem_cons, not_or] at he
    obtain ⟨next, hadd, hrest⟩ := addAll_cons_eq_ok_iff.mp h
    obtain ⟨block, -, rfl⟩ := add_eq_ok_iff.mp hadd
    rw [ih hrest he.2, References.lookup_bind_of_ne _ _ he.1]

end Generation

namespace Graph

/-- Looking up nodes of the graph loses none of them. -/
theorem map_id_filterMap_node? (g : Graph) (ids : List NodeId) (h : ∀ id ∈ ids, id ∈ g.nodes.keys) :
    (ids.filterMap g.node?).map Node.id = ids := by
  induction ids with
  | nil => rfl
  | cons id rest ih =>
    obtain ⟨node, hnode⟩ : ∃ node, g.node? id = some node := Option.isSome_iff_exists.mp
      ((g.nodes.contains_iff_mem_keys id).mpr (h id List.mem_cons_self))
    rw [List.filterMap_cons_some hnode, List.map_cons,
      ih fun i hi => h i (List.mem_cons_of_mem _ hi)]
    exact congrArg (· :: rest) (Table.mem_of_find?_eq_some hnode).2

/-- The nodes that are added are those of the order without the output node. -/
theorem map_id_emitted {g : Graph} {order : List NodeId} (h : g.order? = some order)
    (output : NodeId) : (g.emitted output order).map Node.id = order.filter (· != output) := by
  apply map_id_filterMap_node?
  intro id hid
  exact ((g.order?_eq_some_iff order).mp h).2.mem_iff.mp (List.mem_of_mem_filter hid)

/-- No node is added twice. -/
theorem nodup_emitted {g : Graph} {order : List NodeId} (h : g.order? = some order)
    (output : NodeId) : ((g.emitted output order).map Node.id).Nodup := by
  rw [map_id_emitted h output]
  exact (((g.order?_eq_some_iff order).mp h).2.nodup_iff.mpr g.nodes.distinct).filter _

/-- All nodes are added but the output node. -/
theorem mem_emitted_iff {g : Graph} {order : List NodeId} (h : g.order? = some order)
    {output : NodeId} {node : Node} :
    node ∈ g.emitted output order ↔ node ∈ g.nodes.items ∧ node.id ≠ output := by
  have hkeys := ((g.order?_eq_some_iff order).mp h).2
  simp only [emitted, List.mem_filterMap, List.mem_filter, hkeys.mem_iff, bne_iff_ne]
  constructor
  · rintro ⟨id, ⟨-, hne⟩, hnode⟩
    obtain ⟨hmem, rfl⟩ := Table.mem_of_find?_eq_some hnode
    exact ⟨hmem, hne⟩
  · rintro ⟨hmem, hne⟩
    exact ⟨node.id, ⟨List.mem_map_of_mem hmem, hne⟩, Table.find?_key_of_mem hmem⟩

/-- No node of an order is fed by one that stands after it. -/
theorem pairwise_not_feeds {g : Graph} {order : List NodeId} (h : g.order? = some order) :
    order.Pairwise fun a b => ¬ g.Feeds b a := by
  have hnodup : order.Nodup :=
    ((g.order?_eq_some_iff order).mp h).2.nodup_iff.mpr g.nodes.distinct
  rw [List.pairwise_iff_getElem]
  intro i j hi hj hij hfeeds
  have hlt := idxOf_lt_of_feeds h hfeeds
  rw [hnodup.idxOf_getElem, hnodup.idxOf_getElem] at hlt
  omega

end Graph

end MaterialGraph
