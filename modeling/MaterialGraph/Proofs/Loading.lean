import Mathlib.Data.List.Nodup
import MaterialGraph.Catalog.Standard
import MaterialGraph.Document.Load
import MaterialGraph.Proofs.Generation

/-!
# Which documents load, and as what

A document loads exactly when its nodes have distinct identities, their parameters fit their kinds
and are finite, and it has none of the ambiguities that the policy refuses. The nodes of the graph
are then the nodes of the document. The identities of edges are not checked: where an identity
occurs twice, the later edge stands in the place of the earlier one, which is lost, so the graph
gives the document back exactly when the identities of its edges are distinct. In the other
direction nothing is lost: the document of a graph has distinct identities, and if it loads at all
it loads as this graph.
-/

namespace MaterialGraph

/-- The parameters of a node fit its kind and are finite, if its kind has a rule. -/
def Node.Fitting (node : Node) : Prop :=
  ∀ kind, node.kind? = some kind →
    node.params.shape = kind.paramShape ∧ node.params.isFinite = true

namespace Document

/-- Parameters are not at fault exactly when they fit the kind and are finite. -/
theorem paramsFault?_eq_none_iff (node : Node) (kind : NodeKind) :
    paramsFault? node kind = none ↔
      node.params.shape = kind.paramShape ∧ node.params.isFinite = true := by
  unfold paramsFault?
  by_cases hshape : node.params.shape = kind.paramShape
  · simp [hshape]
  · simp [hshape]

/-- The parameters of a node are not at fault exactly when they fit. -/
theorem bind_paramsFault?_eq_none_iff (node : Node) :
    node.kind?.bind (paramsFault? node) = none ↔ node.Fitting := by
  rw [Option.bind_eq_none_iff]
  exact forall₂_congr fun kind _ => paramsFault?_eq_none_iff node kind

/-- A node is not at fault exactly when its parameters fit, and it is no further output node that
the policy refuses. -/
theorem nodeFault?_eq_none_iff (policy : ValidationPolicy) (first : Option NodeId) (node : Node) :
    nodeFault? policy first node = none ↔
      node.Fitting ∧
        (policy.rejectDuplicateOutputs = true → node.isOutput = true → first = none) := by
  have houtput : outputFault? policy first node = none ↔
      (policy.rejectDuplicateOutputs = true → node.isOutput = true → first = none) := by
    cases first with
    | none => simp [outputFault?]
    | some id =>
      cases hnode : node.isOutput <;> cases hpolicy : policy.rejectDuplicateOutputs <;>
        simp [outputFault?, hnode, hpolicy]
  rw [nodeFault?, Option.orElse_eq_orElse, Option.orElse_eq_or, Option.or_eq_none_iff,
    bind_paramsFault?_eq_none_iff, houtput]

/-- The checks of nodes pass exactly when their identities are new and distinct, their parameters
fit, and there is at most one output node if the policy refuses more. -/
theorem checkNodes_eq_ok_iff {catalog : Catalog} {policy : ValidationPolicy} {seen : List NodeId}
    {first : Option NodeId} {nodes : List Node} :
    (checkNodes catalog policy seen first nodes).result = .ok () ↔
      (∀ node ∈ nodes, node.id ∉ seen) ∧ (nodes.map Node.id).Nodup ∧
        (∀ node ∈ nodes, node.Fitting) ∧
        (policy.rejectDuplicateOutputs = true →
          first.toList.length + nodes.countP Node.isOutput ≤ 1) := by
  induction nodes generalizing seen first with
  | nil => cases first <;> simp [checkNodes]
  | cons node rest ih =>
    -- The first output node counts for this node and for those after it.
    have houtputs : (nextOutput first node).toList.length + rest.countP Node.isOutput ≤ 1 ∧
        (node.isOutput = true → first = none) ↔
          first.toList.length + (node :: rest).countP Node.isOutput ≤ 1 := by
      rw [List.countP_cons]
      cases hnode : node.isOutput <;> cases first <;> simp [nextOutput, hnode, Nat.add_comm]
    unfold checkNodes
    by_cases hseen : node.id ∈ seen
    · simp [hseen]
    · rw [if_neg hseen]
      cases hfault : nodeFault? policy first node with
      | some fault =>
        have hnot : ¬ (node.Fitting ∧
            (policy.rejectDuplicateOutputs = true → node.isOutput = true → first = none)) := by
          rw [← nodeFault?_eq_none_iff, hfault]
          simp
        simp only [reduceCtorEq, false_iff]
        rintro ⟨-, -, hfits, hcount⟩
        refine hnot ⟨hfits node List.mem_cons_self, fun hreject => ?_⟩
        exact (houtputs.mpr (hcount hreject)).2
      | none =>
        obtain ⟨hfits, hfirst⟩ := (nodeFault?_eq_none_iff policy first node).mp hfault
        simp only [ih, List.mem_cons, not_or, List.map_cons, List.nodup_cons, List.mem_map,
          not_exists, not_and, forall_eq_or_imp, ← houtputs]
        constructor
        · rintro ⟨hnew, hdistinct, hrest, hcount⟩
          exact ⟨⟨hseen, fun n hn => (hnew n hn).2⟩, ⟨fun n hn => (hnew n hn).1, hdistinct⟩,
            ⟨hfits, hrest⟩, fun hreject => ⟨hcount hreject, hfirst hreject⟩⟩
        · rintro ⟨⟨-, hnew⟩, ⟨hother, hdistinct⟩, ⟨-, hrest⟩, hcount⟩
          exact ⟨fun n hn => ⟨hother n hn, hnew n hn⟩, hdistinct, hrest,
            fun hreject => (hcount hreject).1⟩

/-- The checks of edges pass exactly when no input is reached twice, if the policy refuses that. -/
theorem checkEdges_eq_ok_iff {policy : ValidationPolicy} {seen : List Endpoint}
    {edges : List Connection} :
    (checkEdges policy seen edges).result = .ok () ↔
      (policy.rejectDuplicateInputEdges = true →
        (∀ edge ∈ edges, edge.target ∉ seen) ∧ (edges.map Connection.target).Nodup) := by
  induction edges generalizing seen with
  | nil => simp [checkEdges]
  | cons edge rest ih =>
    unfold checkEdges
    by_cases hseen : edge.target ∈ seen
    · cases hreject : policy.rejectDuplicateInputEdges with
      | true => simp [hseen]
      | false => simp [hseen, ih, hreject]
    · rw [if_neg hseen, ih]
      refine forall_congr' fun _ => ?_
      simp only [List.mem_cons, not_or, List.map_cons, List.nodup_cons, List.mem_map, not_exists,
        not_and, forall_eq_or_imp]
      constructor
      · rintro ⟨hnew, hdistinct⟩
        exact ⟨⟨hseen, fun e he => (hnew e he).2⟩, fun e he => (hnew e he).1, hdistinct⟩
      · rintro ⟨⟨-, hnew⟩, hother, hdistinct⟩
        exact ⟨fun e he => ⟨hother e he, hnew e he⟩, hdistinct⟩

/-- A document loads exactly when the checks of its nodes and those of its edges pass. -/
theorem load_eq_ok_iff_checks {d : Document} {catalog : Catalog} {policy : ValidationPolicy}
    {g : Graph} :
    (d.load catalog policy).result = .ok g ↔
      (checkNodes catalog policy [] none d.nodes).result = .ok () ∧
        (checkEdges policy [] d.edges).result = .ok () ∧ g = d.build := by
  unfold load
  dsimp only
  cases (checkNodes catalog policy [] none d.nodes).result with
  | error fault => simp
  | ok _ =>
    cases (checkEdges policy [] d.edges).result with
    | error fault => simp
    | ok _ => simp [eq_comm]

/-- A document fails to load with the fault of its nodes, or if they pass, with that of its
edges. -/
theorem load_eq_error_iff_checks {d : Document} {catalog : Catalog} {policy : ValidationPolicy}
    {fault : LoadFault} :
    (d.load catalog policy).result = .error fault ↔
      (checkNodes catalog policy [] none d.nodes).result = .error fault ∨
        (∀ other, (checkNodes catalog policy [] none d.nodes).result ≠ .error other) ∧
          (checkEdges policy [] d.edges).result = .error fault := by
  unfold load
  dsimp only
  cases (checkNodes catalog policy [] none d.nodes).result with
  | error other => simp
  | ok _ =>
    cases (checkEdges policy [] d.edges).result with
    | error other => simp
    | ok _ => simp

/-- A document loads exactly when it passes the checks, and then as the graph of its nodes and
edges. -/
theorem load_eq_ok_iff {d : Document} {catalog : Catalog} {policy : ValidationPolicy} {g : Graph} :
    (d.load catalog policy).result = .ok g ↔
      (d.nodes.map Node.id).Nodup ∧ (∀ node ∈ d.nodes, node.Fitting) ∧
        (policy.rejectDuplicateOutputs = true → d.nodes.countP Node.isOutput ≤ 1) ∧
        (policy.rejectDuplicateInputEdges = true → (d.edges.map Connection.target).Nodup) ∧
        g = d.build := by
  rw [load_eq_ok_iff_checks, checkNodes_eq_ok_iff, checkEdges_eq_ok_iff]
  simp only [List.not_mem_nil, not_false_eq_true, implies_true, true_and, Option.toList_none,
    List.length_nil, Nat.zero_add, and_assoc]

/-- The graph of a document gives the document back exactly when neither two of its nodes nor two of
its edges have the same identity. -/
theorem toDocument_build_eq_iff (d : Document) :
    d.build.toDocument = d ↔
      (d.nodes.map Node.id).Nodup ∧ (d.edges.map Connection.id).Nodup := by
  obtain ⟨id, name, nodes, edges⟩ := d
  rw [build, Graph.toDocument, mk.injEq]
  simp only [true_and]
  exact and_congr (Table.items_ofList_eq_iff nodes) (Table.items_ofList_eq_iff edges)

/-- A document that loads becomes a graph with its identity, its name and its nodes in order. Of its
edges, each identity stands where it occurs first, with the edge that has it last; so the graph gives
the document back exactly when no two edges have the same identity. -/
theorem toDocument_of_load {d : Document} {catalog : Catalog} {policy : ValidationPolicy}
    {g : Graph} (h : (d.load catalog policy).result = .ok g) :
    g.id = d.id ∧ g.name = d.name ∧ g.nodes.items = d.nodes ∧
      g.connections.keys = (d.edges.map Connection.id).eraseDups ∧
      (∀ id, g.connection? id = d.edges.reverse.find? fun c => c.id = id) ∧
      (g.toDocument = d ↔ (d.edges.map Connection.id).Nodup) := by
  obtain ⟨hdistinct, -, -, -, rfl⟩ := load_eq_ok_iff.mp h
  refine ⟨rfl, rfl, (Table.items_ofList_eq_iff d.nodes).mpr hdistinct, Table.keys_ofList d.edges,
    Table.find?_ofList d.edges, ?_⟩
  rw [toDocument_build_eq_iff]
  exact and_iff_right hdistinct

open MaterialGraph.Graph (numbered)

/-- A document in which two edges lead to one input, the first of them from a node that is not
there. -/
def sharedInput : Document where
  id := numbered 0
  name := Graph.untitled
  nodes := [.ofKind (numbered 1) "time", .ofKind (numbered 2) "pbr_output"]
  edges :=
    [⟨numbered 10, ⟨numbered 9, "result"⟩, ⟨numbered 2, "metallic"⟩⟩,
      ⟨numbered 11, ⟨numbered 1, "time"⟩, ⟨numbered 2, "metallic"⟩⟩]

/-- Edges that are ambiguous or lead nowhere are kept. -/
theorem toDocument_of_load_sharedInput :
    ∃ g, (sharedInput.load Catalog.standard .permissive).result = .ok g ∧
      g.toDocument = sharedInput := by
  obtain ⟨g, hg⟩ := exists_eq_ok_of_isOk
    (x := (sharedInput.load Catalog.standard .permissive).result) (by decide +kernel)
  obtain ⟨-, -, -, -, -, hsame⟩ := toDocument_of_load hg
  exact ⟨g, hg, hsame.mpr (by decide +kernel)⟩

/-- A document in which two edges have the same identity, but lead to different inputs. -/
def repeatedEdge : Document :=
  { sharedInput with
    edges :=
      [⟨numbered 10, ⟨numbered 1, "time"⟩, ⟨numbered 2, "metallic"⟩⟩,
        ⟨numbered 10, ⟨numbered 1, "time"⟩, ⟨numbered 2, "roughness"⟩⟩] }

/-- Even the policy that refuses all ambiguities accepts the document with a repeated edge, and the
first of its edges is lost. -/
theorem load_repeatedEdge :
    ∃ g, (repeatedEdge.load Catalog.standard .strict).result = .ok g ∧
      g.toDocument ≠ repeatedEdge ∧
      g.connections.items = [⟨numbered 10, ⟨numbered 1, "time"⟩, ⟨numbered 2, "roughness"⟩⟩] := by
  obtain ⟨g, hg⟩ := exists_eq_ok_of_isOk
    (x := (repeatedEdge.load Catalog.standard .strict).result) (by decide +kernel)
  obtain ⟨-, -, -, -, rfl⟩ := load_eq_ok_iff.mp hg
  refine ⟨_, hg, ?_, by decide +kernel⟩
  rw [Ne, toDocument_build_eq_iff]
  decide +kernel

/-! ### The document of a graph -/

/-- A node whose identity is new is not at fault for its identity. -/
theorem nodeFault?_ne_duplicateNodeId (policy : ValidationPolicy) (first : Option NodeId)
    (node : Node) (id : NodeId) :
    nodeFault? policy first node ≠ some (.duplicateNodeId id) := by
  have hparams : node.kind?.bind (paramsFault? node) ≠ some (.duplicateNodeId id) := by
    cases node.kind? with
    | none => simp
    | some kind =>
      rw [Option.bind_some, paramsFault?]
      split
      · simp
      · split <;> simp
  have houtput : outputFault? policy first node ≠ some (.duplicateNodeId id) := by
    cases first with
    | none => simp [outputFault?]
    | some other =>
      rw [outputFault?]
      split <;> simp
  rw [nodeFault?, Option.orElse_eq_orElse, Option.orElse_eq_or, Ne, Option.or_eq_some_iff]
  rintro (h | ⟨-, h⟩)
  · exact hparams h
  · exact houtput h

/-- The checks of nodes find no identity twice if the identities are new and distinct. -/
theorem checkNodes_ne_duplicateNodeId {catalog : Catalog} {policy : ValidationPolicy}
    {seen : List NodeId} {first : Option NodeId} {nodes : List Node}
    (hnew : ∀ node ∈ nodes, node.id ∉ seen) (hdistinct : (nodes.map Node.id).Nodup) (id : NodeId) :
    (checkNodes catalog policy seen first nodes).result ≠ .error (.duplicateNodeId id) := by
  induction nodes generalizing seen first with
  | nil => simp [checkNodes]
  | cons node rest ih =>
    rw [List.map_cons, List.nodup_cons] at hdistinct
    rw [checkNodes, if_neg (hnew node List.mem_cons_self)]
    cases hfault : nodeFault? policy first node with
    | some fault =>
      rintro ⟨⟩
      exact nodeFault?_ne_duplicateNodeId policy first node id hfault
    | none =>
      refine ih (fun other hother => ?_) hdistinct.2
      rw [List.mem_cons, not_or]
      refine ⟨fun heq => hdistinct.1 ?_, hnew other (List.mem_cons_of_mem _ hother)⟩
      exact heq ▸ List.mem_map_of_mem hother

/-- The checks of edges do not look at identities of nodes. -/
theorem checkEdges_ne_duplicateNodeId (policy : ValidationPolicy) (seen : List Endpoint)
    (edges : List Connection) (id : NodeId) :
    (checkEdges policy seen edges).result ≠ .error (.duplicateNodeId id) := by
  induction edges generalizing seen with
  | nil => simp [checkEdges]
  | cons edge rest ih =>
    rw [checkEdges]
    split
    · split
      · simp
      · exact ih seen
    · exact ih (edge.target :: seen)

/-- A document whose nodes have distinct identities does not fail for an identity. -/
theorem load_ne_duplicateNodeId {d : Document} (h : (d.nodes.map Node.id).Nodup)
    (catalog : Catalog) (policy : ValidationPolicy) (id : NodeId) :
    (d.load catalog policy).result ≠ .error (.duplicateNodeId id) := by
  rw [Ne, load_eq_error_iff_checks, not_or, not_and]
  exact ⟨checkNodes_ne_duplicateNodeId (by simp) h id,
    fun _ => checkEdges_ne_duplicateNodeId policy [] d.edges id⟩

/-- The graph of the document of a graph is this graph. -/
theorem build_toDocument (g : Graph) : g.toDocument.build = g := by
  have hnodes : Table.ofList g.nodes.items = g.nodes :=
    Table.ext ((Table.items_ofList_eq_iff _).mpr g.nodes.distinct)
  have hconnections : Table.ofList g.connections.items = g.connections :=
    Table.ext ((Table.items_ofList_eq_iff _).mpr g.connections.distinct)
  rw [build, Graph.toDocument, hnodes, hconnections]

/-- Loading the document of a graph, however the graph came about, gives this graph or fails; it
does not fail for an identity that occurs twice. It gives the graph exactly when the parameters of
every node of a known kind fit and are finite, and the graph has none of the ambiguities that the
policy refuses. -/
theorem load_toDocument (g : Graph) (catalog : Catalog) (policy : ValidationPolicy) :
    (∀ id, (g.toDocument.load catalog policy).result ≠ .error (.duplicateNodeId id)) ∧
      (∀ h, (g.toDocument.load catalog policy).result = .ok h → h = g) ∧
      ((∃ h, (g.toDocument.load catalog policy).result = .ok h) ↔
        (∀ node ∈ g.nodes.items, node.Fitting) ∧
          (policy.rejectDuplicateOutputs = true → g.nodes.items.countP Node.isOutput ≤ 1) ∧
          (policy.rejectDuplicateInputEdges = true →
            (g.connections.items.map Connection.target).Nodup)) := by
  refine ⟨load_ne_duplicateNodeId g.nodes.distinct catalog policy, ?_, ?_⟩
  · intro h hload
    obtain ⟨-, -, -, -, rfl⟩ := load_eq_ok_iff.mp hload
    exact build_toDocument g
  · simp only [load_eq_ok_iff]
    constructor
    · rintro ⟨h, -, hfits, houtputs, htargets, -⟩
      exact ⟨hfits, houtputs, htargets⟩
    · rintro ⟨hfits, houtputs, htargets⟩
      exact ⟨_, g.nodes.distinct, hfits, houtputs, htargets, rfl⟩

end Document

end MaterialGraph
