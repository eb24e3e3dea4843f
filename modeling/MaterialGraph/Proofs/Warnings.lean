import MaterialGraph.Proofs.Loading

/-!
# Warnings and refusals

A policy either refuses an ambiguity or lets it pass with a warning. The warnings of the policy that
lets everything pass tell what any other policy does: it loads a document exactly when the
permissive policy loads it without a warning that the policy refuses, and then as the same graph. A
graph that is loaded without warnings is unambiguous: it has no output node but the first, and every
connection is the first to its input.
-/

namespace MaterialGraph

namespace ValidationPolicy

/-- Whether a policy refuses what an event notes. -/
def refuses (policy : ValidationPolicy) : LoadEvent → Bool
  | .extraOutput .. => policy.rejectDuplicateOutputs
  | .extraEdge _ => policy.rejectDuplicateInputEdges
  | .unknownKind .. | .loaded .. => false

/-- The strict policy refuses exactly what is logged as a warning. -/
theorem refuses_strict_eq_false_iff (e : LoadEvent) :
    strict.refuses e = false ↔ e.toLog.level ≠ .warn := by
  cases e <;> simp [refuses, strict, LoadEvent.toLog, LoadEvent.level]

end ValidationPolicy

namespace Document

/-- A policy passes a node exactly when the permissive one does, with no event that the policy
refuses. -/
theorem nodeFault?_eq_none_iff_permissive (policy : ValidationPolicy) (first : Option NodeId)
    (node : Node) :
    nodeFault? policy first node = none ↔
      nodeFault? .permissive first node = none ∧
        ∀ e ∈ outputEvents first node, policy.refuses e = false := by
  rw [nodeFault?_eq_none_iff, nodeFault?_eq_none_iff, and_assoc]
  apply and_congr_right
  intro _
  cases first with
  | none => simp [outputEvents]
  | some id =>
    cases houtput : node.isOutput with
    | false => simp [outputEvents, houtput]
    | true => simp [outputEvents, houtput, ValidationPolicy.refuses, ValidationPolicy.permissive]

/-- No policy refuses a kind that is not in the catalog. -/
theorem refuses_of_mem_kindEvents {policy : ValidationPolicy} {catalog : Catalog} {node : Node}
    {e : LoadEvent} (h : e ∈ kindEvents catalog node) : policy.refuses e = false := by
  unfold kindEvents at h
  split at h
  · contradiction
  · obtain rfl := List.mem_singleton.mp h
    rfl

/-- The checks of nodes pass under a policy exactly when they pass under the permissive one, with no
event that the policy refuses. -/
theorem checkNodes_eq_ok_iff_permissive (catalog : Catalog) (policy : ValidationPolicy)
    (seen : List NodeId) (first : Option NodeId) (nodes : List Node) :
    (checkNodes catalog policy seen first nodes).result = .ok () ↔
      (checkNodes catalog .permissive seen first nodes).result = .ok () ∧
        ∀ e ∈ (checkNodes catalog .permissive seen first nodes).events,
          policy.refuses e = false := by
  induction nodes generalizing seen first with
  | nil => simp [checkNodes]
  | cons node rest ih =>
    have hnode := nodeFault?_eq_none_iff_permissive policy first node
    rw [checkNodes, checkNodes]
    by_cases hseen : node.id ∈ seen
    · simp [hseen]
    · rw [if_neg hseen, if_neg hseen]
      cases hpermissive : nodeFault? .permissive first node with
      | some fault =>
        have hne : nodeFault? policy first node ≠ none := by simp [hnode, hpermissive]
        obtain ⟨other, hother⟩ := Option.ne_none_iff_exists'.mp hne
        simp [hother]
      | none =>
        rw [hpermissive] at hnode
        cases hpolicy : nodeFault? policy first node with
        | some fault =>
          -- The policy stops at the node, for which the permissive one has an event.
          have hrefused : ¬ ∀ e ∈ outputEvents first node, policy.refuses e = false := by
            intro hall
            have hnone := hnode.mpr ⟨rfl, hall⟩
            rw [hpolicy] at hnone
            contradiction
          simp only [reduceCtorEq, false_iff, not_and]
          intro _ hall
          apply hrefused
          intro e he
          exact hall e (List.mem_append_left _ (List.mem_append_right _ he))
        | none =>
          obtain ⟨-, hevents⟩ := hnode.mp hpolicy
          simp only [ih, List.forall_mem_append]
          constructor
          · intro h
            exact ⟨h.1, ⟨fun e he => refuses_of_mem_kindEvents he, hevents⟩, h.2⟩
          · intro h
            exact ⟨h.1, h.2.2⟩

/-- The checks of edges pass under a policy exactly when the permissive one has no event that the
policy refuses. The permissive one always passes them. -/
theorem checkEdges_eq_ok_iff_permissive (policy : ValidationPolicy) (seen : List Endpoint)
    (edges : List Connection) :
    (checkEdges policy seen edges).result = .ok () ↔
      (checkEdges .permissive seen edges).result = .ok () ∧
        ∀ e ∈ (checkEdges .permissive seen edges).events, policy.refuses e = false := by
  induction edges generalizing seen with
  | nil => simp [checkEdges]
  | cons edge rest ih =>
    rw [checkEdges, checkEdges]
    by_cases hseen : edge.target ∈ seen
    · cases hreject : policy.rejectDuplicateInputEdges with
      | true =>
        simp [hseen, ValidationPolicy.permissive, ValidationPolicy.refuses, hreject]
      | false =>
        simp [hseen, ih, ValidationPolicy.permissive, ValidationPolicy.refuses, hreject]
    · rw [if_neg hseen, if_neg hseen]
      exact ih (edge.target :: seen)

/-- The events of a document that loads are those of both checks, and that it was loaded. -/
theorem events_load {d : Document} {catalog : Catalog} {policy : ValidationPolicy}
    (hnodes : (checkNodes catalog policy [] none d.nodes).result = .ok ())
    (hedges : (checkEdges policy [] d.edges).result = .ok ()) :
    (d.load catalog policy).events =
      (checkNodes catalog policy [] none d.nodes).events ++ (checkEdges policy [] d.edges).events ++
        [loadedEvent d.build] := by
  unfold load
  dsimp only
  rw [hnodes, hedges]

/-- A policy loads a document exactly when the permissive one loads it with no event that the policy
refuses, and then as the same graph. -/
theorem load_eq_ok_iff_permissive {d : Document} {catalog : Catalog} {policy : ValidationPolicy}
    {g : Graph} :
    (d.load catalog policy).result = .ok g ↔
      (d.load catalog .permissive).result = .ok g ∧
        ∀ e ∈ (d.load catalog .permissive).events, policy.refuses e = false := by
  rw [load_eq_ok_iff_checks, load_eq_ok_iff_checks, checkNodes_eq_ok_iff_permissive,
    checkEdges_eq_ok_iff_permissive]
  constructor
  · intro h
    obtain ⟨⟨hnodes, hnodeEvents⟩, ⟨hedges, hedgeEvents⟩, hbuild⟩ := h
    refine ⟨⟨hnodes, hedges, hbuild⟩, ?_⟩
    rw [events_load hnodes hedges, List.forall_mem_append, List.forall_mem_append]
    exact ⟨⟨hnodeEvents, hedgeEvents⟩, by simp [loadedEvent, ValidationPolicy.refuses]⟩
  · intro h
    obtain ⟨⟨hnodes, hedges, hbuild⟩, hevents⟩ := h
    rw [events_load hnodes hedges, List.forall_mem_append, List.forall_mem_append] at hevents
    exact ⟨⟨hnodes, hevents.1.1⟩, ⟨hedges, hevents.1.2⟩, hbuild⟩

end Document

/-! ### Graphs without ambiguities -/

/-- If at most one value of a list passes a test, those that pass are the first one, if there is
one. -/
theorem filter_eq_toList_find? {α : Type} {p : α → Bool} {values : List α}
    (h : values.countP p ≤ 1) : values.filter p = (values.find? p).toList := by
  rw [List.countP_eq_length_filter] at h
  rw [← List.head?_filter]
  match hfilter : values.filter p with
  | [] => rfl
  | [a] => rfl
  | a :: b :: rest =>
    rw [hfilter] at h
    simp at h

/-- If no two connections lead to the same input, every connection is the first to its input. -/
theorem Graph.connectionTo?_target {g : Graph}
    (h : (g.connections.items.map Connection.target).Nodup) {c : Connection}
    (hc : c ∈ g.connections.items) : g.connectionTo? c.target = some c := by
  cases hfirst : g.connectionTo? c.target with
  | none => exact absurd (List.find?_eq_none.mp hfirst c hc) (by simp)
  | some first =>
    have htarget : first.target = c.target := by simpa using List.find?_some hfirst
    rw [List.inj_on_of_nodup_map h (List.mem_of_find?_eq_some hfirst) hc htarget]

namespace Document

/-- The strict policy loads a document exactly when the permissive one loads it and logs no warning.
Both then give the same graph, which has no output node but the first, and in which every connection
is the first to its input. -/
theorem load_strict_iff_no_warning (d : Document) (catalog : Catalog) :
    ((∃ g, (d.load catalog .strict).result = .ok g) ↔
        (∃ g, (d.load catalog .permissive).result = .ok g) ∧
          ∀ e ∈ (d.load catalog .permissive).events, e.toLog.level ≠ .warn) ∧
      ∀ g, (d.load catalog .strict).result = .ok g →
        (d.load catalog .permissive).result = .ok g ∧
          g.nodes.items.filter Node.isOutput = g.outputNode?.toList ∧
          ∀ c ∈ g.connections.items, g.connectionTo? c.target = some c := by
  constructor
  · have hstrict : ∀ g, (d.load catalog .strict).result = .ok g ↔
        (d.load catalog .permissive).result = .ok g ∧
          ∀ e ∈ (d.load catalog .permissive).events, e.toLog.level ≠ .warn := by
      intro g
      rw [load_eq_ok_iff_permissive]
      simp only [ValidationPolicy.refuses_strict_eq_false_iff]
    simp only [hstrict, exists_and_right]
  · intro g h
    refine ⟨(load_eq_ok_iff_permissive.mp h).1, ?_⟩
    obtain ⟨hdistinct, -, houtputs, htargets, rfl⟩ := load_eq_ok_iff.mp h
    have hitems : d.build.nodes.items = d.nodes := (Table.items_ofList_eq_iff d.nodes).mpr hdistinct
    constructor
    · apply filter_eq_toList_find?
      rw [hitems]
      exact houtputs rfl
    · intro c hc
      exact Graph.connectionTo?_target (Table.nodup_map_ofList _ (htargets rfl)) hc

/-- A document with two edges to one input loads with a warning, so the strict policy refuses it.
One whose edges share an identity, but no input, loads without. -/
theorem load_strict_iff_no_warning_sharedInput :
    (∃ g, (sharedInput.load Catalog.standard .permissive).result = .ok g) ∧
      (¬ ∃ g, (sharedInput.load Catalog.standard .strict).result = .ok g) ∧
      ∃ g, (repeatedEdge.load Catalog.standard .strict).result = .ok g ∧
        (repeatedEdge.load Catalog.standard .permissive).result = .ok g ∧
        g.nodes.items.filter Node.isOutput = g.outputNode?.toList := by
  have hwarned : ¬ ∀ e ∈ (sharedInput.load Catalog.standard .permissive).events,
      e.toLog.level ≠ .warn := by decide +kernel
  obtain ⟨g, hg⟩ := exists_eq_ok_of_isOk
    (x := (repeatedEdge.load Catalog.standard .strict).result) (by decide +kernel)
  refine ⟨exists_eq_ok_of_isOk (by decide +kernel), ?_, g, hg, ?_⟩
  · intro hstrict
    exact hwarned ((load_strict_iff_no_warning sharedInput Catalog.standard).1.mp hstrict).2
  · obtain ⟨hpermissive, houtput, -⟩ :=
      (load_strict_iff_no_warning repeatedEdge Catalog.standard).2 g hg
    exact ⟨hpermissive, houtput⟩

end Document

end MaterialGraph
