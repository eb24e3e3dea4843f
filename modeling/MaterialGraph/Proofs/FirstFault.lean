import MaterialGraph.Proofs.Loading

/-!
# Why a document does not load

A document that does not load has a first node that is at fault, or if there is none, a first edge
that is. A node is at fault in view of the nodes before it. Of several faults of one node the first
counts, in the order of the checks: an identity that has occurred, parameters of another shape,
parameters that are not finite, a further output node. The catalog has no part in this.
-/

namespace MaterialGraph

section FirstFault

variable {α : Type}

/-- No member of a list is at fault. Whether a member is may depend on those before it. -/
def Faultless (Fault : List α → α → LoadFault → Prop) (items : List α) : Prop :=
  ∀ before item after, items = before ++ item :: after → ∀ fault, ¬ Fault before item fault

/-- The first member of a list that is at fault has a given fault. -/
def FirstFault (Fault : List α → α → LoadFault → Prop) (items : List α) (fault : LoadFault) :
    Prop :=
  ∃ before item after, items = before ++ item :: after ∧ Faultless Fault before ∧
    Fault before item fault

variable {Fault : List α → α → LoadFault → Prop}

/-- An empty list is not at fault. -/
theorem faultless_nil : Faultless Fault [] := by
  intro before item after h
  simp at h

/-- A list is not at fault exactly when neither its first member nor its rest is, in view of it. -/
theorem faultless_cons {item : α} {rest : List α} :
    Faultless Fault (item :: rest) ↔
      (∀ fault, ¬ Fault [] item fault) ∧ Faultless (fun before => Fault (item :: before)) rest := by
  constructor
  · intro h
    refine ⟨h [] item rest rfl, ?_⟩
    intro before other after hsplit
    exact h (item :: before) other after (by rw [hsplit, List.cons_append])
  · intro h before other after hsplit
    cases before with
    | nil =>
      obtain ⟨rfl, -⟩ := List.cons.inj hsplit
      exact h.1
    | cons first others =>
      obtain ⟨rfl, hrest⟩ := List.cons.inj hsplit
      exact h.2 others other after hrest

/-- An empty list has no first fault. -/
theorem not_firstFault_nil {fault : LoadFault} : ¬ FirstFault Fault [] fault := by
  intro h
  obtain ⟨before, item, after, hsplit, -⟩ := h
  simp at hsplit

/-- The first fault is that of the first member, or if it has none, that of the rest in view of
it. -/
theorem firstFault_cons {item : α} {rest : List α} {fault : LoadFault} :
    FirstFault Fault (item :: rest) fault ↔
      Fault [] item fault ∨
        (∀ other, ¬ Fault [] item other) ∧
          FirstFault (fun before => Fault (item :: before)) rest fault := by
  constructor
  · intro h
    obtain ⟨before, other, after, hsplit, hclean, hfault⟩ := h
    cases before with
    | nil =>
      obtain ⟨rfl, -⟩ := List.cons.inj hsplit
      exact Or.inl hfault
    | cons first others =>
      obtain ⟨rfl, hrest⟩ := List.cons.inj hsplit
      obtain ⟨hfirst, hothers⟩ := faultless_cons.mp hclean
      exact Or.inr ⟨hfirst, others, other, after, hrest, hothers, hfault⟩
  · intro h
    rcases h with hfault | ⟨hfirst, before, other, after, hsplit, hclean, hfault⟩
    · exact ⟨[], item, rest, rfl, faultless_nil, hfault⟩
    · exact ⟨item :: before, other, after, by rw [hsplit, List.cons_append],
        faultless_cons.mpr ⟨hfirst, hclean⟩, hfault⟩

/-- A list is not at fault exactly when it has no first fault. -/
theorem faultless_iff {items : List α} :
    Faultless Fault items ↔ ∀ fault, ¬ FirstFault Fault items fault := by
  induction items generalizing Fault with
  | nil => exact ⟨fun _ _ => not_firstFault_nil, fun _ => faultless_nil⟩
  | cons item rest ih =>
    rw [faultless_cons, ih]
    constructor
    · intro h fault hfault
      rcases firstFault_cons.mp hfault with hfirst | ⟨-, hrest⟩
      · exact h.1 fault hfirst
      · exact h.2 fault hrest
    · intro h
      have hfirst : ∀ fault, ¬ Fault [] item fault := fun fault hfault =>
        h fault (firstFault_cons.mpr (Or.inl hfault))
      exact ⟨hfirst, fun fault hfault => h fault (firstFault_cons.mpr (Or.inr ⟨hfirst, hfault⟩))⟩

end FirstFault

namespace Document

/-- What is wrong with a node, given the nodes before it. Every check assumes that those before it
pass. -/
inductive NodeFault (policy : ValidationPolicy) (before : List Node) (node : Node) :
    LoadFault → Prop where
  | repeatedId (hid : node.id ∈ before.map Node.id) :
      NodeFault policy before node (.duplicateNodeId node.id)
  | otherShape {kind : NodeKind} (hid : node.id ∉ before.map Node.id)
      (hkind : node.kind? = some kind) (hshape : node.params.shape ≠ kind.paramShape) :
      NodeFault policy before node
        (.paramsMismatch node.id node.kind kind.paramShape node.params.shape)
  | notFinite {kind : NodeKind} (hid : node.id ∉ before.map Node.id)
      (hkind : node.kind? = some kind) (hshape : node.params.shape = kind.paramShape)
      (hfinite : node.params.isFinite = false) :
      NodeFault policy before node (.nonFiniteParams node.id)
  | furtherOutput {first : Node} (hid : node.id ∉ before.map Node.id) (hfits : node.Fitting)
      (houtput : node.isOutput = true) (hreject : policy.rejectDuplicateOutputs = true)
      (hfirst : before.find? Node.isOutput = some first) :
      NodeFault policy before node (.duplicateOutputNode first.id node.id)

/-- What is wrong with an edge, given the edges before it: one of them leads to the same input. -/
def EdgeFault (policy : ValidationPolicy) (before : List Connection) (edge : Connection)
    (fault : LoadFault) : Prop :=
  policy.rejectDuplicateInputEdges = true ∧ edge.target ∈ before.map Connection.target ∧
    fault = .duplicateInputEdge edge.target

/-! ### The checks of nodes -/

/-- The fault of parameters is that of their shape, or else that they are not finite. -/
theorem paramsFault?_eq_some_iff {node : Node} {kind : NodeKind} {fault : LoadFault} :
    paramsFault? node kind = some fault ↔
      node.params.shape ≠ kind.paramShape ∧
          fault = .paramsMismatch node.id node.kind kind.paramShape node.params.shape ∨
        node.params.shape = kind.paramShape ∧ node.params.isFinite = false ∧
          fault = .nonFiniteParams node.id := by
  unfold paramsFault?
  by_cases hshape : node.params.shape = kind.paramShape
  · cases hfinite : node.params.isFinite with
    | true => simp [hshape]
    | false => simp [hshape, eq_comm]
  · rw [if_pos hshape, Option.some.injEq, eq_comm]
    simp [hshape]

/-- A node is refused as a further output exactly when the policy does so and there is a first. -/
theorem outputFault?_eq_some_iff {policy : ValidationPolicy} {first : Option NodeId} {node : Node}
    {fault : LoadFault} :
    outputFault? policy first node = some fault ↔
      ∃ id, first = some id ∧ node.isOutput = true ∧ policy.rejectDuplicateOutputs = true ∧
        fault = .duplicateOutputNode id node.id := by
  cases first with
  | none => simp [outputFault?]
  | some id =>
    cases houtput : node.isOutput with
    | false => simp [outputFault?, houtput]
    | true =>
      cases hreject : policy.rejectDuplicateOutputs with
      | false => simp [outputFault?, houtput, hreject]
      | true => simp [outputFault?, houtput, hreject, eq_comm]

/-- A node whose identity has occurred is at fault for this. -/
theorem nodeFault_iff_of_mem {policy : ValidationPolicy} {before : List Node} {node : Node}
    {fault : LoadFault} (hid : node.id ∈ before.map Node.id) :
    NodeFault policy before node fault ↔ fault = .duplicateNodeId node.id := by
  constructor
  · intro h
    cases h with
    | repeatedId => rfl
    | otherShape hnew => exact absurd hid hnew
    | notFinite hnew => exact absurd hid hnew
    | furtherOutput hnew => exact absurd hid hnew
  · intro h
    subst h
    exact .repeatedId hid

/-- A node whose identity is new is at fault exactly as the checks say that know the first output
node before it. -/
theorem nodeFault_iff_of_not_mem {policy : ValidationPolicy} {before : List Node} {node : Node}
    {fault : LoadFault} (hid : node.id ∉ before.map Node.id) :
    NodeFault policy before node fault ↔
      nodeFault? policy ((before.find? Node.isOutput).map Node.id) node = some fault := by
  rw [nodeFault?, Option.orElse_eq_orElse, Option.orElse_eq_or, Option.or_eq_some_iff,
    bind_paramsFault?_eq_none_iff, Option.bind_eq_some_iff, outputFault?_eq_some_iff]
  constructor
  · intro h
    cases h with
    | repeatedId hold => exact absurd hold hid
    | otherShape _ hkind hshape =>
      exact Or.inl ⟨_, hkind, paramsFault?_eq_some_iff.mpr (Or.inl ⟨hshape, rfl⟩)⟩
    | notFinite _ hkind hshape hfinite =>
      exact Or.inl ⟨_, hkind, paramsFault?_eq_some_iff.mpr (Or.inr ⟨hshape, hfinite, rfl⟩)⟩
    | furtherOutput _ hfits houtput hreject hfirst =>
      exact Or.inr ⟨hfits, _, by rw [hfirst, Option.map_some], houtput, hreject, rfl⟩
  · intro h
    rcases h with ⟨kind, hkind, hparams⟩ | ⟨hfits, id, hfirst, houtput, hreject, rfl⟩
    · rcases paramsFault?_eq_some_iff.mp hparams with ⟨hshape, rfl⟩ | ⟨hshape, hfinite, rfl⟩
      · exact .otherShape hid hkind hshape
      · exact .notFinite hid hkind hshape hfinite
    · obtain ⟨first, hfound, rfl⟩ := Option.map_eq_some_iff.mp hfirst
      exact .furtherOutput hid hfits houtput hreject hfound

/-- The first output node after one more node. -/
theorem nextOutput_eq (before : List Node) (node : Node) :
    nextOutput ((before.find? Node.isOutput).map Node.id) node =
      ((before ++ [node]).find? Node.isOutput).map Node.id := by
  rw [nextOutput, List.find?_append]
  cases before.find? Node.isOutput with
  | some first => rfl
  | none => cases houtput : node.isOutput <;> simp [houtput]

/-- The checks of nodes report the first fault in view of the nodes checked before. -/
theorem checkNodes_eq_error_iff {catalog : Catalog} {policy : ValidationPolicy} {fault : LoadFault}
    (before : List Node) {seen : List NodeId} (hseen : ∀ id, id ∈ seen ↔ id ∈ before.map Node.id)
    (nodes : List Node) :
    (checkNodes catalog policy seen ((before.find? Node.isOutput).map Node.id) nodes).result =
        .error fault ↔
      FirstFault (fun later => NodeFault policy (before ++ later)) nodes fault := by
  induction nodes generalizing before seen with
  | nil => simp [checkNodes, not_firstFault_nil]
  | cons node rest ih =>
    rw [firstFault_cons, List.append_nil, checkNodes]
    by_cases hid : node.id ∈ seen
    · have hfault : ∀ other, NodeFault policy before node other ↔
          other = .duplicateNodeId node.id := fun _ => nodeFault_iff_of_mem ((hseen _).mp hid)
      simp [hid, hfault, eq_comm]
    · have hfault : ∀ other, NodeFault policy before node other ↔
          nodeFault? policy ((before.find? Node.isOutput).map Node.id) node = some other := fun _ =>
        nodeFault_iff_of_not_mem (mt (hseen _).mpr hid)
      rw [if_neg hid]
      simp only [hfault]
      cases hcheck : nodeFault? policy ((before.find? Node.isOutput).map Node.id) node with
      | some found => simp
      | none =>
        have hnext : ∀ id, id ∈ node.id :: seen ↔ id ∈ (before ++ [node]).map Node.id := by
          intro id
          simp [hseen id, or_comm]
        have hrest := ih (before ++ [node]) hnext
        rw [← nextOutput_eq] at hrest
        simp only [List.append_assoc, List.singleton_append] at hrest
        simpa using hrest

/-! ### The checks of edges -/

/-- The checks of edges report the first fault in view of the edges checked before. -/
theorem checkEdges_eq_error_iff {policy : ValidationPolicy} {fault : LoadFault}
    (before : List Connection) {seen : List Endpoint}
    (hseen : ∀ target, target ∈ seen ↔ target ∈ before.map Connection.target)
    (edges : List Connection) :
    (checkEdges policy seen edges).result = .error fault ↔
      FirstFault (fun later => EdgeFault policy (before ++ later)) edges fault := by
  induction edges generalizing before seen with
  | nil => simp [checkEdges, not_firstFault_nil]
  | cons edge rest ih =>
    rw [firstFault_cons, List.append_nil, checkEdges]
    by_cases hold : edge.target ∈ seen
    · have hnext : ∀ target, target ∈ seen ↔ target ∈ (before ++ [edge]).map Connection.target := by
        intro target
        rw [hseen, List.map_append, List.mem_append, List.map_singleton, List.mem_singleton,
          or_iff_left_of_imp]
        intro htarget
        exact htarget ▸ (hseen _).mp hold
      have hbefore := (hseen _).mp hold
      cases hreject : policy.rejectDuplicateInputEdges with
      | true => simp [EdgeFault, hold, hbefore, hreject, eq_comm]
      | false =>
        have hrest := ih (before ++ [edge]) hnext
        simp only [List.append_assoc, List.singleton_append] at hrest
        rw [← hrest]
        simp [EdgeFault, hold, hreject]
    · have hnext : ∀ target, target ∈ edge.target :: seen ↔
          target ∈ (before ++ [edge]).map Connection.target := by
        intro target
        simp [hseen target, or_comm]
      have hnew := mt (hseen _).mpr hold
      have hrest := ih (before ++ [edge]) hnext
      simp only [List.append_assoc, List.singleton_append] at hrest
      rw [if_neg hold, hrest]
      simp only [EdgeFault, hnew, false_and, and_false, not_false_eq_true, implies_true, true_and,
        false_or]

/-! ### Loading -/

/-- A document fails to load with the first fault of its nodes, or if they have none, with the first
fault of its edges. -/
theorem load_eq_error_iff {d : Document} {catalog : Catalog} {policy : ValidationPolicy}
    {fault : LoadFault} :
    (d.load catalog policy).result = .error fault ↔
      FirstFault (NodeFault policy) d.nodes fault ∨
        Faultless (NodeFault policy) d.nodes ∧ FirstFault (EdgeFault policy) d.edges fault := by
  have hnodes : ∀ other, (checkNodes catalog policy [] none d.nodes).result = .error other ↔
      FirstFault (NodeFault policy) d.nodes other := fun _ =>
    checkNodes_eq_error_iff [] (by simp) d.nodes
  have hedges : ∀ other, (checkEdges policy [] d.edges).result = .error other ↔
      FirstFault (EdgeFault policy) d.edges other := fun _ =>
    checkEdges_eq_error_iff [] (by simp) d.edges
  rw [load_eq_error_iff_checks, faultless_iff, hedges]
  simp only [Ne, hnodes]

/-- What is loaded does not depend on the catalog. -/
theorem result_load_eq (d : Document) (policy : ValidationPolicy) (catalog other : Catalog) :
    (d.load other policy).result = (d.load catalog policy).result := by
  cases hload : (d.load catalog policy).result with
  | error fault => exact load_eq_error_iff.mpr (load_eq_error_iff.mp hload)
  | ok g => exact load_eq_ok_iff.mpr (load_eq_ok_iff.mp hload)

/-- An output node that is refused is reported with the first output node of the document. -/
theorem find?_isOutput_of_firstFault {policy : ValidationPolicy} {nodes : List Node}
    {first duplicate : NodeId}
    (h : FirstFault (NodeFault policy) nodes (.duplicateOutputNode first duplicate)) :
    (nodes.find? Node.isOutput).map Node.id = some first := by
  obtain ⟨before, node, after, rfl, -, hfault⟩ := h
  cases hfault with
  | furtherOutput _ _ _ _ hfirst => rw [List.find?_append, hfirst, Option.some_or, Option.map_some]

/-- Whether and as what a document loads does not depend on the catalog. It loads exactly when the
identities of its nodes are distinct, their parameters fit and are finite, and it has none of the
ambiguities that the policy refuses. Otherwise the first node at fault is reported, with its first
fault, and an edge only if no node is at fault. Of a further output node it is said which is the
first of the document. -/
theorem load_reports_first_fault (d : Document) (catalog : Catalog) (policy : ValidationPolicy) :
    (∀ other, (d.load other policy).result = (d.load catalog policy).result) ∧
      ((∃ g, (d.load catalog policy).result = .ok g) ↔
        (d.nodes.map Node.id).Nodup ∧ (∀ node ∈ d.nodes, node.Fitting) ∧
          (policy.rejectDuplicateOutputs = true → d.nodes.countP Node.isOutput ≤ 1) ∧
          (policy.rejectDuplicateInputEdges = true → (d.edges.map Connection.target).Nodup)) ∧
      (∀ fault, (d.load catalog policy).result = .error fault ↔
        FirstFault (NodeFault policy) d.nodes fault ∨
          Faultless (NodeFault policy) d.nodes ∧ FirstFault (EdgeFault policy) d.edges fault) ∧
      ∀ first duplicate,
        (d.load catalog policy).result = .error (.duplicateOutputNode first duplicate) →
          (d.nodes.find? Node.isOutput).map Node.id = some first := by
  refine ⟨result_load_eq d policy catalog, ?_, fun _ => load_eq_error_iff, ?_⟩
  · simp only [load_eq_ok_iff]
    constructor
    · intro h
      obtain ⟨g, hdistinct, hfits, houtputs, htargets, -⟩ := h
      exact ⟨hdistinct, hfits, houtputs, htargets⟩
    · intro h
      obtain ⟨hdistinct, hfits, houtputs, htargets⟩ := h
      exact ⟨d.build, hdistinct, hfits, houtputs, htargets, rfl⟩
  · intro first duplicate h
    rcases load_eq_error_iff.mp h with hnode | ⟨-, before, edge, after, -, -, hedge⟩
    · exact find?_isOutput_of_firstFault hnode
    · cases hedge.2.2

open MaterialGraph.Graph (numbered)

/-- A document with two output nodes and, after them, an identity that has occurred. -/
def twoOutputs : Document where
  id := numbered 0
  name := Graph.untitled
  nodes :=
    [.ofKind (numbered 1) "time", .ofKind (numbered 2) "pbr_output",
      .ofKind (numbered 3) "pbr_output", .ofKind (numbered 1) "uv"]
  edges := []

/-- The strict policy stops at the second output node, and the permissive one only at the
identity. -/
theorem load_reports_first_fault_twoOutputs :
    (twoOutputs.load Catalog.standard .strict).result =
        .error (.duplicateOutputNode (numbered 2) (numbered 3)) ∧
      (twoOutputs.nodes.find? Node.isOutput).map Node.id = some (numbered 2) ∧
      (twoOutputs.load Catalog.standard .permissive).result =
        .error (.duplicateNodeId (numbered 1)) ∧
      FirstFault (NodeFault .permissive) twoOutputs.nodes (.duplicateNodeId (numbered 1)) := by
  have hstrict : (twoOutputs.load Catalog.standard .strict).result =
      .error (.duplicateOutputNode (numbered 2) (numbered 3)) := by rfl
  have hpermissive : (twoOutputs.load Catalog.standard .permissive).result =
      .error (.duplicateNodeId (numbered 1)) := by rfl
  obtain ⟨-, -, -, hfirst⟩ := load_reports_first_fault twoOutputs Catalog.standard .strict
  obtain ⟨-, -, hfault, -⟩ := load_reports_first_fault twoOutputs Catalog.standard .permissive
  refine ⟨hstrict, hfirst _ _ hstrict, hpermissive, ?_⟩
  rcases (hfault _).mp hpermissive with hnode | ⟨-, before, edge, after, hsplit, -⟩
  · exact hnode
  · simp [twoOutputs] at hsplit

end Document

end MaterialGraph
