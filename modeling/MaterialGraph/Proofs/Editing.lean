import MaterialGraph.Proofs.Connecting

/-!
# Editing a graph

A graph is edited by adding, changing and removing nodes, and by connecting and disconnecting ports.
An edit that fails leaves the graph as it is. Edits keep a graph coherent: every connection leads
from one node of the graph to another, and no two lead to the same input. Removing a node takes its
connections along, and a node that replaces another keeps its identity, so no connection loses an
end. What a connection was checked against does not matter later: kinds and catalogs may change, but
neither is part of coherence.
-/

namespace MaterialGraph

/-- An edit of a graph. It brings the identities of what it adds, and the catalog that it is checked
against, which need not be that of earlier edits. -/
inductive Edit where
  | addNode (node : Node)
  | createNode (catalog : Catalog) (id : NodeId) (kind : String)
  | removeNode (id : NodeId)
  | setKind (id : NodeId) (kind : String)
  | setParams (id : NodeId) (params : Params)
  | setPosition (id : NodeId) (position : Position)
  | connect (catalog : Catalog) (id : ConnectionId) (source target : Endpoint)
  | disconnect (id : ConnectionId)

namespace Graph

/-- The graph after an edit, which is the same graph if the edit fails. -/
def apply (g : Graph) : Edit → Graph
  | .addNode node => g.addNode node
  | .createNode catalog id kind => (catalog.createNode? id kind).elim g g.addNode
  | .removeNode id => g.removeNode id
  | .setKind id kind => g.setKind id kind
  | .setParams id params => g.setParams id params
  | .setPosition id position => g.setPosition id position
  | .connect catalog id source target => (g.connect catalog id source target).toOption.getD g
  | .disconnect id => g.disconnect id

/-- The graph after edits one after the other. -/
def edited (g : Graph) (edits : List Edit) : Graph :=
  edits.foldl apply g

/-- The connections of a graph lead from nodes of the graph to others, and no two of them to the
same input. -/
structure Coherent (g : Graph) : Prop where
  ends : ∀ c ∈ g.connections.items,
    c.source.node ∈ g.nodes.keys ∧ c.target.node ∈ g.nodes.keys
  noLoop : ∀ c ∈ g.connections.items, c.source.node ≠ c.target.node
  inputs : (g.connections.items.map Connection.target).Nodup

/-- A graph without connections is coherent. -/
theorem coherent_empty (id : GraphId) (name : String) : (Graph.empty id name).Coherent where
  ends _ hc := absurd hc List.not_mem_nil
  noLoop _ hc := absurd hc List.not_mem_nil
  inputs := List.nodup_nil

/-- Taking connections away keeps a graph coherent, and so does any change of nodes that keeps the
ends of the connections that are left. -/
theorem Coherent.of_sublist {g h : Graph} (hg : g.Coherent)
    (hsub : h.connections.items.Sublist g.connections.items)
    (hkept : ∀ c ∈ h.connections.items, ∀ id ∈ g.nodes.keys, c.involves id = true →
      id ∈ h.nodes.keys) : h.Coherent where
  ends c hc := by
    obtain ⟨hsource, htarget⟩ := hg.ends c (hsub.subset hc)
    exact ⟨hkept c hc _ hsource (by simp [Connection.involves]),
      hkept c hc _ htarget (by simp [Connection.involves])⟩
  noLoop c hc := hg.noLoop c (hsub.subset hc)
  inputs := hg.inputs.sublist (hsub.map _)

section Steps

variable {g : Graph} (hg : g.Coherent)

include hg

/-- Adding a node keeps a graph coherent, whether its identity is new or not. -/
theorem Coherent.addNode (node : Node) : (g.addNode node).Coherent := by
  refine hg.of_sublist (List.Sublist.refl _) fun _ _ id hid _ => ?_
  change id ∈ (g.nodes.insert node).keys
  rw [Table.keys_insert]
  split
  · exact hid
  · exact List.mem_append_left _ hid

/-- Removing a node with its connections keeps a graph coherent. -/
theorem Coherent.removeNode (id : NodeId) : (g.removeNode id).Coherent := by
  refine hg.of_sublist List.filter_sublist fun c hc other hother hinvolves => ?_
  refine Table.mem_keys_erase.mpr ⟨hother, ?_⟩
  -- The connections that are left do not involve the node.
  rintro rfl
  have hleft := (List.mem_filter.mp hc).2
  simp [hinvolves] at hleft

/-- Changing a node under its identity keeps a graph coherent. -/
theorem Coherent.modifyNode (id : NodeId) (change : Node → Node)
    (keeps : ∀ node, (change node).id = node.id) :
    ({ g with nodes := g.nodes.modify id change keeps } : Graph).Coherent := by
  refine hg.of_sublist (List.Sublist.refl _) fun _ _ other hother _ => ?_
  rw [Table.keys_modify]
  exact hother

/-- Removing a connection keeps a graph coherent. -/
theorem Coherent.disconnect (id : ConnectionId) : (g.disconnect id).Coherent :=
  hg.of_sublist List.filter_sublist fun _ _ _ hother _ => hother

/-- Connecting keeps a graph coherent: both nodes are there, they differ, and the input is free. The
new connection may even replace another that has its identity. -/
theorem Coherent.connect {next : Graph} {catalog : Catalog} {id : ConnectionId}
    {source target : Endpoint} (h : g.connect catalog id source target = .ok next) :
    next.Coherent := by
  obtain ⟨hcheck, rfl⟩ := connect_eq_ok_iff.mp h
  obtain ⟨sourceNode, targetNode, -, -, -, -, hsource, htarget, -, -, -, -, -, -, -, hfree,
    hother⟩ := of_checkConnection_eq_ok hcheck
  have hlisted : ∀ {i : NodeId} {node : Node}, g.node? i = some node → i ∈ g.nodes.keys :=
    fun hnode => (g.nodes.contains_iff_mem_keys _).mp (Option.isSome_iff_exists.mpr ⟨_, hnode⟩)
  refine ⟨?_, ?_, ?_⟩
  · intro c hc
    rcases Table.mem_items_of_mem_insert hc with hold | rfl
    · exact hg.ends c hold
    · exact ⟨hlisted hsource, hlisted htarget⟩
  · intro c hc
    rcases Table.mem_items_of_mem_insert hc with hold | rfl
    · exact hg.noLoop c hold
    · exact hother
  · refine Table.nodup_map_insert Connection.target hg.inputs fun hmem => ?_
    obtain ⟨c, hc, hc'⟩ := List.mem_map.mp hmem
    exact List.find?_eq_none.mp hfree c hc (beq_iff_eq.mpr hc')

/-- An edit keeps a graph coherent. -/
theorem Coherent.apply (edit : Edit) : (g.apply edit).Coherent := by
  cases edit with
  | addNode node => exact hg.addNode node
  | createNode catalog id kind =>
    rw [Graph.apply]
    cases catalog.createNode? id kind with
    | none => exact hg
    | some node => exact hg.addNode node
  | removeNode id => exact hg.removeNode id
  | setKind id kind => exact hg.modifyNode id (fun n => { n with kind }) fun _ => rfl
  | setParams id params => exact hg.modifyNode id (fun n => { n with params }) fun _ => rfl
  | setPosition id position => exact hg.modifyNode id (fun n => { n with position }) fun _ => rfl
  | connect catalog id source target =>
    rw [Graph.apply]
    cases hconnect : g.connect catalog id source target with
    | error e => exact hg
    | ok next => exact hg.connect hconnect
  | disconnect id => exact hg.disconnect id

/-- Edits one after the other keep a graph coherent. -/
theorem Coherent.edited (edits : List Edit) : (g.edited edits).Coherent := by
  induction edits generalizing g with
  | nil => exact hg
  | cons edit rest ih => exact ih (hg.apply edit)

end Steps

/-- Whatever edits an empty graph goes through, the connections of the result lead from nodes of the
graph to others, and no two of them to the same input. The identities of nodes are distinct, as are
those of connections, and each is found under its own. -/
theorem coherent_edited_empty (id : GraphId) (name : String) (edits : List Edit) :
    let g := (Graph.empty id name).edited edits
    g.Coherent ∧ g.nodes.keys.Nodup ∧ g.connections.keys.Nodup ∧
      (∀ i node, g.node? i = some node ↔ node ∈ g.nodes.items ∧ node.id = i) ∧
      ∀ i c, g.connection? i = some c ↔ c ∈ g.connections.items ∧ c.id = i := by
  intro g
  refine ⟨(coherent_empty id name).edited edits, g.nodes.distinct, g.connections.distinct, ?_, ?_⟩
  · exact fun i node => Table.find?_eq_some_iff
  · exact fun i c => Table.find?_eq_some_iff

end Graph

end MaterialGraph
